import Reconcile.Proofs.Memory.Advance

/-! # What a scan finds

    A legacy invoice is due if it is of the scope, has lines to transcribe, and its canonical
    entry is missing, left empty, or has a line whose unit older rules did not know.  Every due
    invoice is one candidate, and the order of candidates is strict, so there is one way to list
    all that are due.  A scan gives the beginning of this list, whatever the tables of the store
    look like inside.

    Main statement: `scan_exact`. -/

namespace Reconcile

open Backfill

/-! ## Section 1: The strict order -/

/-- The one instant is earlier than the other. -/
def Instant.Before (a b : Instant) : Prop :=
  a.second < b.second ∨ a.second = b.second ∧ a.nano < b.nano

theorem Instant.before_of_le_of_ne {a b : Instant} (h : a.le b = true) (hne : a ≠ b) :
    a.Before b := by
  rw [le_iff] at h
  obtain ⟨s, n⟩ := a
  obtain ⟨t, m⟩ := b
  simp only [ne_eq, mk.injEq, Before] at *
  omega

theorem Instant.before_asymm {a b : Instant} (h : a.Before b) : ¬ b.Before a := by
  simp only [Before] at *
  omega

theorem Instant.before_irrefl (a : Instant) : ¬ a.Before a := fun h => before_asymm h h

namespace Candidate

/-- The one candidate is older than the other, or of the same age with a smaller identifier. -/
def Before (a b : Candidate) : Prop :=
  a.createdAt.Before b.createdAt ∨ a.createdAt = b.createdAt ∧ a.id < b.id

theorem before_of_le {a b : Candidate} (h : le a b = true) (hne : a.id ≠ b.id) : a.Before b := by
  rcases le_iff.mp h with ⟨hat, hid⟩ | ⟨hat, hle⟩
  · refine .inr ⟨hat, ?_⟩
    by_contra hnot
    exact hne (String.le_antisymm hid (String.not_lt.mp hnot))
  · exact .inl (Instant.before_of_le_of_ne hle hat)

/-- Candidates in order of which each has an identifier of its own are in the strict order. -/
theorem pairwise_before {cs : List Candidate} (hid : (cs.map (·.id)).Nodup)
    (hsorted : cs.Pairwise fun a b => le a b = true) : cs.Pairwise Before := by
  have hids : cs.Pairwise fun a b => a.id ≠ b.id := List.pairwise_map.mp hid
  exact (hsorted.and hids).imp fun h => before_of_le h.1 h.2

theorem before_asymm {a b : Candidate} (h : a.Before b) : ¬ b.Before a := by
  rintro (hb | ⟨hat', hid'⟩)
  · rcases h with ha | ⟨hat, -⟩
    · exact Instant.before_asymm ha hb
    · exact Instant.before_irrefl _ (hat ▸ hb)
  · rcases h with ha | ⟨-, hid⟩
    · exact Instant.before_irrefl _ (hat' ▸ ha)
    · exact String.lt_irrefl _ (String.lt_trans hid hid')

theorem nodup_of_before {cs : List Candidate} (h : cs.Pairwise Before) : cs.Nodup := by
  show cs.Pairwise (· ≠ ·)
  apply h.imp
  rintro a _ hab rfl
  exact before_asymm hab hab

/-- Candidates can be listed in this order in one way only. -/
theorem eq_of_before {cs ds : List Candidate} (hcs : cs.Pairwise Before)
    (hds : ds.Pairwise Before) (h : ∀ c, c ∈ cs ↔ c ∈ ds) : cs = ds := by
  have hperm : cs.Perm ds :=
    (List.perm_ext_iff_of_nodup (nodup_of_before hcs) (nodup_of_before hds)).mpr h
  exact hperm.eq_of_pairwise (fun _ _ _ _ hab hba => absurd hba (before_asymm hab)) hcs hds

end Candidate

/-! ## Section 2: Invoices that are due -/

/-- What a legacy invoice needs, by the canonical entry it has or has not.  An entry that can be
    repaired has no line, and one that can be rebuilt has one, so at most one need applies. -/
inductive Entry.Needs : Option Entry → Need → Prop where
  | new : Needs none .new
  | repair {e : Entry} (live : e.header.deletedAt = none) (empty : e.lines = []) :
      Needs (some e) .repair
  | rebuild {e : Entry} {l : StoredLine} (mem : l ∈ e.lines) (older : l.rules ≠ rulesVersion)
      (warned : l.line.grade = .warn) (reason : "UNKNOWN_UNIT_CATEGORY" ∈ l.line.reasons) :
      Needs (some e) .rebuild

namespace Entry

theorem isStale_iff {l : StoredLine} :
    isStale l = true ↔ l.rules ≠ rulesVersion ∧ l.line.grade = .warn ∧
      "UNKNOWN_UNIT_CATEGORY" ∈ l.line.reasons := by
  simp [isStale, Coded.code, and_assoc]

theorem ofState?_state (e : Entry) :
    Need.ofState? (some e.state) =
      if e.header.deletedAt = none ∧ e.lines = [] then some .repair
      else if e.lines.any isStale then some .rebuild
      else none := by
  have hrepair : (!e.state.deleted && decide (e.state.lineCount = 0)) =
      decide (e.header.deletedAt = none ∧ e.lines = []) := by
    rcases hd : e.header.deletedAt with _ | at' <;> simp [state, hd]
  simp only [Need.ofState?, hrepair, decide_eq_true_eq]
  rfl

theorem needs_iff {entry : Option Entry} {need : Need} :
    Needs entry need ↔ Need.ofState? (entry.map state) = some need := by
  rcases entry with _ | e
  · constructor
    · rintro ⟨⟩
      rfl
    · rintro ⟨⟩
      exact .new
  rw [Option.map_some, ofState?_state]
  constructor
  · rintro (_ | ⟨live, empty⟩ | ⟨mem, older, warned, reason⟩)
    · rw [if_pos ⟨live, empty⟩]
    · have hne : ¬ (e.header.deletedAt = none ∧ e.lines = []) :=
        fun h => List.ne_nil_of_mem mem h.2
      have hstale : e.lines.any isStale = true :=
        List.any_eq_true.mpr ⟨_, mem, isStale_iff.mpr ⟨older, warned, reason⟩⟩
      rw [if_neg hne, if_pos hstale]
  · split
    · next h =>
      rintro ⟨⟩
      exact .repair h.1 h.2
    · split
      · next h =>
        rintro ⟨⟩
        obtain ⟨l, mem, hstale⟩ := List.any_eq_true.mp h
        obtain ⟨older, warned, reason⟩ := isStale_iff.mp hstale
        exact .rebuild mem older warned reason
      · rintro ⟨⟩

end Entry

namespace MemoryStore

/-- The candidate stands for a legacy invoice that is due: one of the feed and of the scope, with
    lines to transcribe, and in need of just this. -/
structure Due (s : MemoryStore) (scope : Scope) (feed : Feed) (c : Candidate) : Prop where
  feed_eq : c.feed = feed
  invoice : ∃ i, s.load feed c.id = some i ∧ i.organisation = scope.organisation ∧
    i.location = some scope.location ∧ i.hasLines = true ∧ i.createdAt = c.createdAt
  needs : Entry.Needs (s.canonical.get? (.ofFeed feed c.id)) c.need

variable {s t : MemoryStore} {scope : Scope} {feed : Feed}

theorem mem_eligible_of_load {id : String} {i : LegacyInvoice} (hload : s.load feed id = some i)
    (horganisation : i.organisation = scope.organisation)
    (hlocation : i.location = some scope.location) (hlines : i.hasLines = true) :
    ⟨id, i.createdAt⟩ ∈ s.eligible scope feed := by
  cases feed with
  | ocr =>
    obtain ⟨j, hj, rfl⟩ := Option.map_eq_some_iff.mp hload
    obtain rfl := s.scanned_id hj
    refine List.mem_map.mpr ⟨j, List.mem_filter.mpr ⟨Table.mem_values.mpr ⟨_, hj⟩, ?_⟩, rfl⟩
    simp only [Bool.and_eq_true, decide_eq_true_eq]
    exact ⟨⟨horganisation, hlocation⟩, hlines⟩
  | xero =>
    obtain ⟨j, hj, rfl⟩ := Option.map_eq_some_iff.mp hload
    obtain rfl := s.booked_id hj
    refine List.mem_map.mpr ⟨j, List.mem_filter.mpr ⟨Table.mem_values.mpr ⟨_, hj⟩, ?_⟩, rfl⟩
    simp only [Bool.and_eq_true, decide_eq_true_eq]
    exact ⟨⟨horganisation, hlocation⟩, hlines⟩

theorem mem_pending_iff_due {c : Candidate} : c ∈ s.pending scope feed ↔ s.Due scope feed c := by
  rw [mem_pending]
  constructor
  · rintro ⟨e, he, hc⟩
    obtain ⟨hfeed, hid, hat, hneed⟩ := candidate?_eq_some_iff.mp hc
    obtain ⟨i, hload, hcreated, horganisation, hlocation, hlines⟩ := exists_load_of_mem_eligible he
    rw [← hid] at hload hneed
    exact ⟨hfeed, ⟨i, hload, horganisation, hlocation, hlines, hcreated.trans hat.symm⟩,
      Entry.needs_iff.mpr hneed⟩
  · rintro ⟨hfeed, ⟨i, hload, horganisation, hlocation, hlines, hcreated⟩, hneeds⟩
    refine ⟨⟨c.id, i.createdAt⟩, mem_eligible_of_load hload horganisation hlocation hlines, ?_⟩
    exact candidate?_eq_some_iff.mpr
      ⟨hfeed, rfl, hcreated.symm, Entry.needs_iff.mp hneeds⟩

theorem pairwise_before_pending (s : MemoryStore) (scope : Scope) (feed : Feed) :
    (s.pending scope feed).Pairwise Candidate.Before :=
  Candidate.pairwise_before (s.nodup_id_pending scope feed) (s.pairwise_le_pending scope feed)

/-! ## Section 3: Stores with the same contents -/

/-- Looking up a legacy invoice or an entry gives the same in both stores, whatever the order in
    which their tables hold them. -/
structure SameContents (s t : MemoryStore) : Prop where
  load_eq : ∀ feed id, t.load feed id = s.load feed id
  entry_eq : ∀ link, t.canonical.get? link = s.canonical.get? link

/-- The store with one more legacy invoice, or with one replaced. -/
def add (s : MemoryStore) : LegacyInvoice → MemoryStore
  | .ocr i => s.addScanned i
  | .xero i => s.addBooked i

theorem load_add (s : MemoryStore) (i : LegacyInvoice) (feed : Feed) (id : String) :
    (s.add i).load feed id = if Link.ofFeed feed id = i.link then some i else s.load feed id := by
  cases i with
  | ocr i =>
    cases feed with
    | ocr =>
      by_cases h : id = i.id <;>
        simp [add, load, addScanned, Table.get?_insert, LegacyInvoice.link, Link.ofFeed, h]
    | xero => simp [add, load, addScanned, LegacyInvoice.link, Link.ofFeed]
  | xero i =>
    cases feed with
    | ocr => simp [add, load, addBooked, LegacyInvoice.link, Link.ofFeed]
    | xero =>
      by_cases h : id = i.id <;>
        simp [add, load, addBooked, Table.get?_insert, LegacyInvoice.link, Link.ofFeed, h]

theorem canonical_add (s : MemoryStore) (i : LegacyInvoice) :
    (s.add i).canonical = s.canonical := by
  cases i <;> rfl

namespace SameContents

theorem refl (s : MemoryStore) : SameContents s s := ⟨fun _ _ => rfl, fun _ => rfl⟩

theorem trans {u : MemoryStore} (h : SameContents s t) (h' : SameContents t u) :
    SameContents s u :=
  ⟨fun feed id => (h'.load_eq feed id).trans (h.load_eq feed id),
    fun link => (h'.entry_eq link).trans (h.entry_eq link)⟩

theorem add (h : SameContents s t) (i : LegacyInvoice) : SameContents (s.add i) (t.add i) where
  load_eq feed id := by rw [load_add, load_add, h.load_eq]
  entry_eq link := by rw [canonical_add, canonical_add, h.entry_eq]

theorem add_comm (s : MemoryStore) {i j : LegacyInvoice} (h : i.link ≠ j.link) :
    SameContents ((s.add i).add j) ((s.add j).add i) where
  load_eq feed id := by
    simp only [load_add]
    by_cases hi : Link.ofFeed feed id = i.link
    · simp [hi, h]
    · simp [hi]
  entry_eq link := by simp only [canonical_add]

theorem foldl_add (h : SameContents s t) (is : List LegacyInvoice) :
    SameContents (is.foldl MemoryStore.add s) (is.foldl MemoryStore.add t) := by
  induction is generalizing s t with
  | nil => exact h
  | cons i is ih => exact ih (h.add i)

/-- Invoices of which each has a link of its own can be added in any order. -/
theorem foldl_add_of_perm {is js : List LegacyInvoice} (hperm : is.Perm js)
    (hlinks : (is.map LegacyInvoice.link).Nodup) (s : MemoryStore) :
    SameContents (is.foldl MemoryStore.add s) (js.foldl MemoryStore.add s) := by
  induction hperm generalizing s with
  | nil => exact .refl s
  | cons i _ ih => exact ih (List.nodup_cons.mp hlinks).2 (s.add i)
  | swap i j is =>
    have hne : j.link ≠ i.link := by
      intro heq
      exact (List.nodup_cons.mp hlinks).1 (by simp [heq])
    exact (add_comm s hne).foldl_add is
  | trans hfirst _ ih ih' =>
    exact (ih hlinks s).trans (ih' ((hfirst.map _).nodup_iff.mp hlinks) s)

theorem due_iff (h : SameContents s t) {c : Candidate} :
    t.Due scope feed c ↔ s.Due scope feed c := by
  have hload := h.load_eq feed c.id
  have hentry := h.entry_eq (.ofFeed feed c.id)
  constructor
  · rintro ⟨hfeed, hinvoice, hneeds⟩
    exact ⟨hfeed, hload ▸ hinvoice, hentry ▸ hneeds⟩
  · rintro ⟨hfeed, hinvoice, hneeds⟩
    exact ⟨hfeed, hload.symm ▸ hinvoice, hentry.symm ▸ hneeds⟩

/-- What is pending does not depend on how the tables are laid out. -/
theorem pending_eq (h : SameContents s t) (scope : Scope) (feed : Feed) :
    t.pending scope feed = s.pending scope feed :=
  Candidate.eq_of_before (t.pairwise_before_pending scope feed)
    (s.pairwise_before_pending scope feed) fun c => by
      rw [mem_pending_iff_due, mem_pending_iff_due, h.due_iff]

end SameContents

/-! ## Section 4: The scan -/

/-- There is one list of the candidates that are due in a scope and a feed, each once and in the
    strict order of age and identifier, and a scan gives its first `limit` members and leaves the
    store alone.  What it leaves out comes after all that it gives.  Stores with the same
    contents are scanned alike, and so it does not matter in which order invoices came. -/
theorem scan_exact (s : MemoryStore) (scope : Scope) (feed : Feed) (limit : Nat) :
    ∃ due : List Candidate,
      ((∀ c, c ∈ due ↔ s.Due scope feed c) ∧ due.Pairwise Candidate.Before ∧
        (due.map (·.id)).Nodup) ∧
      (∀ cs : List Candidate, (∀ c, c ∈ cs ↔ s.Due scope feed c) → cs.Pairwise Candidate.Before →
        cs = due) ∧
      (scan scope feed limit).exec answer s = (.ok (due.take limit), s) ∧
      (∀ c, s.Due scope feed c → c ∉ due.take limit → ∀ d ∈ due.take limit, d.Before c) ∧
      (∀ t, SameContents s t →
        (scan scope feed limit).exec answer t = (.ok (due.take limit), t)) ∧
      ∀ is js : List LegacyInvoice, is.Perm js → (is.map LegacyInvoice.link).Nodup →
        ((scan scope feed limit).exec answer (is.foldl add s)).1 =
          ((scan scope feed limit).exec answer (js.foldl add s)).1 := by
  have hmem : ∀ c, c ∈ s.pending scope feed ↔ s.Due scope feed c := fun _ => mem_pending_iff_due
  have hsorted := s.pairwise_before_pending scope feed
  refine ⟨s.pending scope feed, ⟨hmem, hsorted, s.nodup_id_pending scope feed⟩, ?_,
    s.exec_scan_memory scope feed limit, ?_, ?_, ?_⟩
  · intro cs hcs hbefore
    exact Candidate.eq_of_before hbefore hsorted fun c => (hcs c).trans (hmem c).symm
  · intro c hc hnot d hd
    -- the list is in order, and `c` is in the part of it that was cut off
    have hsplit := List.take_append_drop limit (s.pending scope feed)
    rw [← hsplit, List.pairwise_append] at hsorted
    have hc' : c ∈ (s.pending scope feed).take limit ++ (s.pending scope feed).drop limit := by
      rw [hsplit]
      exact (hmem c).mpr hc
    exact hsorted.2.2 d hd c ((List.mem_append.mp hc').resolve_left hnot)
  · intro t ht
    rw [exec_scan_memory, ht.pending_eq]
  · intro is js hperm hlinks
    have hsame := SameContents.foldl_add_of_perm hperm hlinks s
    rw [exec_scan_memory, exec_scan_memory, hsame.pending_eq]

/-- A scan of the same age as `keyedScan`. -/
def twinScan : ScannedInvoice := { keyedScan with id := "inv-1" }

def twinCandidate : Candidate := { keyedCandidate with id := "inv-1" }

/-- Two scans of one age, and an invoice of the other feed that shares an identifier with one of
    them.  With room for one candidate the scan finds the smaller identifier, whichever of the
    two came first. -/
theorem scan_exact_twins :
    let scope : Scope := ⟨"org", "loc"⟩
    let is : List LegacyInvoice := [.ocr keyedScan, .ocr twinScan, .xero firstBooking]
    let s := is.foldl add empty
    let t := is.reverse.foldl add empty
    is.Perm is.reverse ∧ (is.map LegacyInvoice.link).Nodup ∧ SameContents s t ∧
      s.Due scope .ocr keyedCandidate ∧ twinCandidate.Before keyedCandidate ∧
      (scan scope .ocr 1).exec answer s = (.ok [twinCandidate], s) ∧
      (scan scope .ocr 1).exec answer t = (.ok [twinCandidate], t) ∧
      ((scan scope .ocr 1).exec answer s).1 = ((scan scope .ocr 1).exec answer t).1 := by
  intro scope is s t
  have hperm : is.Perm is.reverse := (List.reverse_perm is).symm
  have hlinks : (is.map LegacyInvoice.link).Nodup := by decide
  have hcontents : SameContents s t := .foldl_add_of_perm hperm hlinks empty
  have hbefore : twinCandidate.Before keyedCandidate := .inr ⟨rfl, by decide⟩
  have hdue : ∀ c, c ∈ [twinCandidate, keyedCandidate] ↔ s.Due scope .ocr c := by
    intro c
    have hcandidates : s.candidates scope .ocr = [keyedCandidate, twinCandidate] := rfl
    rw [← mem_pending_iff_due, MemoryStore.pending_eq, List.mem_mergeSort, hcandidates]
    simp [or_comm]
  obtain ⟨due, -, hunique, hscan, hleft, hsame, -⟩ := scan_exact s scope .ocr 1
  obtain rfl : [twinCandidate, keyedCandidate] = due :=
    hunique _ hdue (List.pairwise_pair.mpr hbefore)
  have hkeyed : s.Due scope .ocr keyedCandidate := (hdue _).mp (by simp)
  obtain ⟨-, -, -, -, -, -, horder⟩ := scan_exact empty scope .ocr 1
  refine ⟨hperm, hlinks, hcontents, hkeyed, ?_, hscan, hsame t hcontents,
    horder is is.reverse hperm hlinks⟩
  exact hleft keyedCandidate hkeyed (by decide) twinCandidate (List.mem_singleton_self _)

end MemoryStore

end Reconcile
