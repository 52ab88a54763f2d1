import Reconcile.Proofs.Memory.Names
import Reconcile.Proofs.Memory.Settled

/-! # Listing the lines of a scope

    The entries of a scope come out of a table in whatever order it holds them, and are put in
    order by their references, the lines of each by their numbers.  In a sound store no two
    entries share a reference and no two lines of an entry a number.  So the order is strict:
    there is one list of the lines of a scope, and it shows neither how the table is laid out nor
    what was processed first.

    Main statements: `list_eq_map_listed`, `list_congr` and `list_exact`. -/

namespace Reconcile

open Backfill

/-! ## Section 1: The order of lines -/

/-- The header belongs to a scope. -/
def Header.InScope (h : Header) (scope : Scope) : Prop :=
  h.organisation = scope.organisation ∧ h.location = scope.location

/-- The one line comes before the other, each given with its header: its invoice does, or it has
    the smaller number on the same invoice. -/
def Precedes (p q : Header × StoredLine) : Prop :=
  p.1.sourceRef < q.1.sourceRef ∨
    p.1.sourceRef = q.1.sourceRef ∧ p.2.line.number.toInt < q.2.line.number.toInt

theorem Precedes.asymm {p q : Header × StoredLine} (h : Precedes p q) : ¬ Precedes q p := by
  rintro (href' | ⟨heq', hnumber'⟩)
  · rcases h with href | ⟨heq, -⟩
    · exact String.lt_irrefl _ (String.lt_trans href href')
    · exact String.lt_irrefl _ (heq ▸ href')
  · rcases h with href | ⟨-, hnumber⟩
    · exact String.lt_irrefl _ (heq' ▸ href)
    · omega

theorem nodup_of_precedes {ps : List (Header × StoredLine)} (h : ps.Pairwise Precedes) :
    ps.Nodup := by
  show ps.Pairwise (· ≠ ·)
  apply h.imp
  rintro p _ hpq rfl
  exact hpq.asymm hpq

/-- Lines can be listed in this order in one way only. -/
theorem eq_of_precedes {ps qs : List (Header × StoredLine)} (hps : ps.Pairwise Precedes)
    (hqs : qs.Pairwise Precedes) (h : ∀ p, p ∈ ps ↔ p ∈ qs) : ps = qs := by
  have hperm : ps.Perm qs :=
    (List.perm_ext_iff_of_nodup (nodup_of_precedes hps) (nodup_of_precedes hqs)).mpr h
  exact hperm.eq_of_pairwise (fun _ _ _ _ hpq hqp => absurd hqp hpq.asymm) hps hqs

/-- The lines of a sound entry stand in the order of their numbers. -/
theorem Entry.Sound.pairwise_number {link : Link} {e : Entry} (h : e.Sound link) :
    e.lines.Pairwise fun a b => a.line.number.toInt < b.line.number.toInt := by
  have hnumbers : (e.lines.map (·.line.number.toInt)).Pairwise (· < ·) := by
    rw [h.numbers, List.pairwise_map]
    apply List.pairwise_lt_range.imp
    intro i j hij
    omega
  exact List.pairwise_map.mp hnumbers

namespace MemoryStore

variable {s t : MemoryStore} {scope : Scope}

/-! ## Section 2: The lines of a scope with their headers -/

/-- The store holds the line under the header. -/
def Stores (s : MemoryStore) (p : Header × StoredLine) : Prop :=
  ∃ link e, s.canonical.get? link = some e ∧ e.header = p.1 ∧ p.2 ∈ e.lines

/-- The entries of a scope by their references. -/
def entriesOf (s : MemoryStore) (scope : Scope) : List Entry :=
  (s.canonical.values.filter fun e =>
    e.header.organisation = scope.organisation && e.header.location = scope.location).mergeSort
      fun a b => a.header.sourceRef ≤ b.header.sourceRef

/-- The lines of a scope with their headers. -/
def listed (s : MemoryStore) (scope : Scope) : List (Header × StoredLine) :=
  (s.entriesOf scope).flatMap fun e => e.lines.map fun l => (e.header, l)

theorem mem_entriesOf {e : Entry} :
    e ∈ s.entriesOf scope ↔ (∃ link, s.canonical.get? link = some e) ∧ e.header.InScope scope := by
  rw [entriesOf, List.mem_mergeSort, List.mem_filter, Table.mem_values]
  simp [Header.InScope]

theorem mem_listed {p : Header × StoredLine} :
    p ∈ s.listed scope ↔ s.Stores p ∧ p.1.InScope scope := by
  obtain ⟨h, l⟩ := p
  simp only [listed, List.mem_flatMap, List.mem_map, mem_entriesOf]
  constructor
  · rintro ⟨e, ⟨⟨link, hget⟩, hscope⟩, l', hl, heq⟩
    cases heq
    exact ⟨⟨link, e, hget, rfl, hl⟩, hscope⟩
  · rintro ⟨⟨link, e, hget, rfl, hl⟩, hscope⟩
    exact ⟨e, ⟨⟨link, hget⟩, hscope⟩, l, hl, rfl⟩

/-- What is listed for a scope is stored under a header of this scope. -/
theorem mem_list {l : StoredLine} :
    l ∈ s.list scope ↔ ∃ h, s.Stores (h, l) ∧ h.InScope scope := by
  have hlist : s.list scope = (s.entriesOf scope).flatMap fun e =>
      e.lines.mergeSort fun a b => a.line.number.toInt ≤ b.line.number.toInt := rfl
  simp only [hlist, List.mem_flatMap, List.mem_mergeSort, mem_entriesOf]
  constructor
  · rintro ⟨e, ⟨⟨link, hget⟩, hscope⟩, hl⟩
    exact ⟨e.header, ⟨link, e, hget, rfl, hl⟩, hscope⟩
  · rintro ⟨h, ⟨link, e, hget, rfl, hl⟩, hscope⟩
    exact ⟨e, ⟨⟨link, hget⟩, hscope⟩, hl⟩

/-- In a sound store the lines of an entry need not be put in order. -/
theorem list_eq_map_listed (h : s.Sound) (scope : Scope) :
    s.list scope = (s.listed scope).map (·.2) := by
  rw [listed, List.map_flatMap]
  apply List.flatMap_congr
  intro e he
  obtain ⟨⟨link, hget⟩, -⟩ := mem_entriesOf.mp he
  have hsorted : e.lines.Pairwise fun a b =>
      decide (a.line.number.toInt ≤ b.line.number.toInt) = true := by
    apply (h.entry hget).pairwise_number.imp
    intro a b hab
    exact decide_eq_true (Int.le_of_lt hab)
  rw [List.mergeSort_of_pairwise hsorted, List.map_map]
  exact (List.map_id e.lines).symm

/-- Two entries of a sound store have references of their own. -/
theorem Sound.sourceRef_ne (h : s.Sound) {e f : Entry} (he : e ∈ s.canonical.values)
    (hf : f ∈ s.canonical.values) (hne : e.header.link ≠ f.header.link) :
    e.header.sourceRef ≠ f.header.sourceRef := by
  intro href
  rw [(h.of_mem_values he).sourceRef, (h.of_mem_values hf).sourceRef] at href
  exact hne (Link.sourceRef_inj href)

theorem pairwise_entriesOf (h : s.Sound) (scope : Scope) :
    (s.entriesOf scope).Pairwise fun e f => e.header.sourceRef < f.header.sourceRef := by
  let inScope := s.canonical.values.filter fun e =>
    e.header.organisation = scope.organisation && e.header.location = scope.location
  have hperm : (s.entriesOf scope).Perm inScope := List.mergeSort_perm _ _
  -- sorting keeps the references apart, and so turns "not after" into "before"
  have hsorted : (s.entriesOf scope).Pairwise fun e f =>
      decide (e.header.sourceRef ≤ f.header.sourceRef) = true := by
    refine List.pairwise_mergeSort (fun a b c hab hbc => ?_) (fun a b => ?_) _
    · simp only [decide_eq_true_eq] at *
      exact String.le_trans hab hbc
    · simpa using String.le_total a.header.sourceRef b.header.sourceRef
  have hlinks : (s.entriesOf scope).Pairwise fun e f => e.header.link ≠ f.header.link := by
    have hnodup : (inScope.map (·.header.link)).Nodup :=
      h.nodup_links.sublist (List.filter_sublist.map _)
    exact List.pairwise_map.mp ((hperm.map _).nodup_iff.mpr hnodup)
  have hmem : ∀ e ∈ s.entriesOf scope, e ∈ s.canonical.values := by
    intro e he
    exact List.mem_of_mem_filter (hperm.mem_iff.mp he)
  apply (hsorted.and hlinks).imp_of_mem
  intro e f he hf hef
  have hne := h.sourceRef_ne (hmem e he) (hmem f hf) hef.2
  by_contra hnot
  exact hne (String.le_antisymm (of_decide_eq_true hef.1) (String.not_lt.mp hnot))

/-- In a sound store every line comes before all that are listed after it. -/
theorem pairwise_precedes_listed (h : s.Sound) (scope : Scope) :
    (s.listed scope).Pairwise Precedes := by
  refine List.pairwise_flatMap.mpr ⟨fun e he => ?_, ?_⟩
  · obtain ⟨⟨link, hget⟩, -⟩ := mem_entriesOf.mp he
    rw [List.pairwise_map]
    exact (h.entry hget).pairwise_number.imp fun hlt => .inr ⟨rfl, hlt⟩
  · apply (pairwise_entriesOf h scope).imp
    intro e f hef p hp q hq
    obtain ⟨l, -, rfl⟩ := List.mem_map.mp hp
    obtain ⟨m, -, rfl⟩ := List.mem_map.mp hq
    exact .inl hef

/-! ## Section 3: What the list depends on -/

/-- Soundness is about what is found under the links, wherever the table keeps it. -/
theorem Sound.congr (h : s.Sound) (hentry : ∀ link, t.canonical.get? link = s.canonical.get? link) :
    ({ s with canonical := t.canonical } : MemoryStore).Sound where
  entry := by
    intro link e he
    exact h.entry ((hentry link).symm.trans he)
  numerable := h.numerable

/-- Stores with the same entries list the same lines in the same order. -/
theorem list_congr (h : s.Sound) (hentry : ∀ link, t.canonical.get? link = s.canonical.get? link)
    (scope : Scope) : t.list scope = s.list scope := by
  let u : MemoryStore := { s with canonical := t.canonical }
  have hu : u.Sound := h.congr hentry
  have hlisted : u.listed scope = s.listed scope := by
    apply eq_of_precedes (pairwise_precedes_listed hu scope) (pairwise_precedes_listed h scope)
    intro p
    have hstores : u.Stores p ↔ s.Stores p := by
      simp only [Stores, u, hentry]
    rw [mem_listed, mem_listed, hstores]
  show u.list scope = s.list scope
  rw [list_eq_map_listed hu, list_eq_map_listed h, hlisted]

/-- A line of a sound store is listed for the scope it names itself, and for no other. -/
theorem existsUnique_scope (h : s.Sound) {p : Header × StoredLine} (hp : s.Stores p) :
    ∃! scope, p.2 ∈ s.list scope := by
  have hunder : ∀ q : Header × StoredLine, s.Stores q →
      q.2.organisation = q.1.organisation ∧ q.2.location = q.1.location := by
    rintro ⟨_, l⟩ ⟨link, e, hget, rfl, hl⟩
    have hline := (h.entry hget).under l hl
    exact ⟨hline.organisation, hline.location⟩
  refine ⟨⟨p.2.organisation, p.2.location⟩, mem_list.mpr ⟨p.1, hp, ?_⟩, ?_⟩
  · obtain ⟨horganisation, hlocation⟩ := hunder p hp
    exact ⟨horganisation.symm, hlocation.symm⟩
  · intro scope hscope
    obtain ⟨header, hstores, horganisation, hlocation⟩ := mem_list.mp hscope
    obtain ⟨horganisation', hlocation'⟩ := hunder _ hstores
    rw [horganisation', hlocation', horganisation, hlocation]

/-- Candidates that are processed in another order leave the same lines. -/
theorem list_foldl_processed_of_perm (h : s.Sound) {cs ds : List Candidate} (hperm : cs.Perm ds)
    (scope : Scope) : (cs.foldl processed s).list scope = (ds.foldl processed s).list scope := by
  apply list_congr (sound_foldl_processed h ds)
  intro link
  have hmem : link ∈ cs.map Candidate.link ↔ link ∈ ds.map Candidate.link :=
    (hperm.map Candidate.link).mem_iff
  simp only [get?_foldl_processed, hmem]

/-! ## Section 4: Stores filled from nothing -/

/-- In a store that was filled from nothing there is one list of the lines of a scope, each once,
    by the reference of their invoice and their number, and this is what the store answers.  Every
    line it holds is listed for one scope.  A store that holds the same entries lists the same,
    however its table is laid out, and so does the store after the same candidates in another
    order. -/
theorem list_exact (hempty : s.canonical = .empty)
    (hs : ∀ feed id i, s.load feed id = some i → i.Numerable) {ops : List Operation}
    (hops : ∀ op ∈ ops, op.Numerable) :
    (∀ scope, ∃ ps : List (Header × StoredLine),
      (∀ p, p ∈ ps ↔ (s.replay ops).Stores p ∧ p.1.InScope scope) ∧ ps.Nodup ∧
      ps.Pairwise Precedes ∧
      answer (.list scope) (s.replay ops) = (.ok (ps.map (·.2)), s.replay ops) ∧
      ∀ qs : List (Header × StoredLine),
        (∀ p, p ∈ qs ↔ (s.replay ops).Stores p ∧ p.1.InScope scope) → qs.Pairwise Precedes →
        qs = ps) ∧
    (∀ p, (s.replay ops).Stores p → ∃! scope, p.2 ∈ (s.replay ops).list scope) ∧
    (∀ t : MemoryStore,
      (∀ link, t.canonical.get? link = (s.replay ops).canonical.get? link) →
      ∀ scope, t.list scope = (s.replay ops).list scope) ∧
    ∀ cs ds : List Candidate, cs.Perm ds → ∀ scope,
      (processAll answer cs (s.replay ops)).2.list scope =
        (processAll answer ds (s.replay ops)).2.list scope := by
  have hsound : (s.replay ops).Sound := sound_replay (sound_of_empty hempty hs) hops
  refine ⟨fun scope => ?_, fun p hp => existsUnique_scope hsound hp,
    fun t ht => list_congr hsound ht, ?_⟩
  · have hsorted := pairwise_precedes_listed hsound scope
    refine ⟨(s.replay ops).listed scope, fun p => mem_listed, nodup_of_precedes hsorted, hsorted,
      ?_, ?_⟩
    · rw [← list_eq_map_listed hsound]
      rfl
    · intro qs hqs hbefore
      exact eq_of_precedes hbefore hsorted fun p => (hqs p).trans mem_listed.symm
  · intro cs ds hperm scope
    simp only [processAll_memory]
    exact list_foldl_processed_of_perm hsound hperm scope

/-- Another invoice of the location, of two lines. -/
def secondBooking : BookedInvoice := { laterBooking with id := "inv-2" }

def secondCandidate : Candidate := ⟨.xero, "inv-2", .new, ⟨0, 0⟩⟩

/-- The second invoice comes and is written before there is a first. -/
def secondFirst : List Operation :=
  [.addBooked secondBooking, .process secondCandidate, .addBooked firstBooking,
    .process bookedCandidate]

theorem exists_lines_secondFirst :
    ∃ qs : List (Header × StoredLine),
      (∀ p, p ∈ qs ↔ (empty.replay secondFirst).Stores p ∧ p.1.InScope ⟨"org", "loc"⟩) ∧
      qs.map (fun p => (p.1.sourceRef, p.2.line.number.toInt)) =
        [("xero:inv-1", 1), ("xero:inv-2", 1), ("xero:inv-2", 2)] := by
  let entries := (empty.replay secondFirst).canonical.values
  have hscope : ∀ e ∈ entries, e.header.organisation = "org" ∧ e.header.location = "loc" := by
    decide +kernel
  -- the entry that was written last stands last in the table
  refine ⟨entries.reverse.flatMap fun e => e.lines.map fun l => (e.header, l), ?_, by
    decide +kernel⟩
  rintro ⟨h, l⟩
  simp only [List.mem_flatMap, List.mem_reverse, List.mem_map, Prod.mk.injEq]
  constructor
  · rintro ⟨e, he, l, hl, rfl, rfl⟩
    obtain ⟨link, hget⟩ := Table.mem_values.mp he
    exact ⟨⟨link, e, hget, rfl, hl⟩, hscope e he⟩
  · rintro ⟨⟨link, e, hget, rfl, hl⟩, -⟩
    exact ⟨e, Table.mem_values.mpr ⟨link, hget⟩, l, hl, rfl, rfl⟩

/-- The lines are listed with the first invoice first, each of them for its location alone. -/
theorem list_exact_secondFirst :
    ∃ ps : List (Header × StoredLine),
      ps.map (fun p => (p.1.sourceRef, p.2.line.number.toInt)) =
        [("xero:inv-1", 1), ("xero:inv-2", 1), ("xero:inv-2", 2)] ∧
      answer (.list ⟨"org", "loc"⟩) (empty.replay secondFirst) =
        (.ok (ps.map (·.2)), empty.replay secondFirst) ∧
      ∀ p ∈ ps, ∃! scope, p.2 ∈ (empty.replay secondFirst).list scope := by
  have hops : ∀ op ∈ secondFirst, op.Numerable := by
    intro op hop
    simp only [secondFirst, List.mem_cons, List.not_mem_nil, or_false] at hop
    rcases hop with rfl | rfl | rfl | rfl
    · exact BookedInvoice.numerable (by simp [secondBooking, laterBooking, firstBooking])
    · trivial
    · exact BookedInvoice.numerable (by simp [firstBooking])
    · trivial
  obtain ⟨hlist, hscope, -, -⟩ :=
    list_exact (s := empty) rfl (fun _ _ _ => numerable_of_load_empty) hops
  obtain ⟨ps, hps, -, -, hanswer, hunique⟩ := hlist ⟨"org", "loc"⟩
  obtain ⟨qs, hqs, hkeys⟩ := exists_lines_secondFirst
  have hbefore : qs.Pairwise Precedes := by
    have hpairs : (qs.map fun p => (p.1.sourceRef, p.2.line.number.toInt)).Pairwise
        fun a b => a.1 < b.1 ∨ a.1 = b.1 ∧ a.2 < b.2 := by
      rw [hkeys]
      decide +kernel
    rw [List.pairwise_map] at hpairs
    exact hpairs
  -- there is one such list, so that the one that is answered has these keys
  obtain rfl : qs = ps := hunique qs hqs hbefore
  exact ⟨qs, hkeys, hanswer, fun p hp => hscope p ((hps p).mp hp).1⟩

end MemoryStore

end Reconcile
