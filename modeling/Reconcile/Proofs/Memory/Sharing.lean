import Reconcile.Proofs.Dialogue.Interleaving
import Reconcile.Proofs.Memory.Backlog
import Reconcile.Proofs.Memory.Settled

/-! # Runs that share a store

    A legacy invoice is of one scope, and so is the link to it.  A run asks for the candidates of
    its own scope, which are found by the entries under links of this scope, and it writes under
    such links only.  So two runs for different scopes do not touch what the other depends on,
    and whichever way their questions come to the store, each run goes on as if it were alone.

    Main statement: `runs_interleave`. -/

namespace Reconcile

open Backfill Dialogue

namespace MemoryStore

variable {s u v : MemoryStore} {scope scope' : Scope}

/-! ## Section 1: Links of a scope -/

/-- The invoice behind a link is of a scope. -/
def Holds (s : MemoryStore) (scope : Scope) (link : Link) : Prop :=
  ∃ i, s.load link.feed link.id = some i ∧
    i.organisation = scope.organisation ∧ i.location = some scope.location

theorem scope_eq_of_holds {link : Link} (h : s.Holds scope link) (h' : s.Holds scope' link) :
    scope = scope' := by
  obtain ⟨i, hi, horganisation, hlocation⟩ := h
  obtain ⟨j, hj, horganisation', hlocation'⟩ := h'
  obtain rfl : i = j := by
    rw [hi] at hj
    exact Option.some.inj hj
  obtain ⟨o, l⟩ := scope
  obtain ⟨o', l'⟩ := scope'
  have ho : o = o' := horganisation.symm.trans horganisation'
  have hl : l = l' := Option.some.inj (hlocation.symm.trans hlocation')
  rw [ho, hl]

theorem holds_of_mem_eligible {feed : Feed} {e : Eligible} (h : e ∈ s.eligible scope feed) :
    s.Holds scope (.ofFeed feed e.id) := by
  obtain ⟨i, hload, -, horganisation, hlocation, -⟩ := exists_load_of_mem_eligible h
  exact ⟨i, by simpa using hload, horganisation, hlocation⟩

theorem holds_of_mem_pending {feed : Feed} {c : Candidate} (h : c ∈ s.pending scope feed) :
    s.Holds scope c.link := by
  obtain ⟨e, he, hc⟩ := mem_pending.mp h
  obtain ⟨hfeed, hid, -⟩ := candidate?_eq_some_iff.mp hc
  rw [Candidate.link, hfeed, hid]
  exact holds_of_mem_eligible he

theorem SameSource.holds_iff (h : SameSource s u) {link : Link} :
    u.Holds scope link ↔ s.Holds scope link := by
  rw [Holds, Holds, h.load_eq]

/-! ## Section 2: Questions of a scope -/

/-- The question is one that a run for this scope may ask. -/
def Concerns (s : MemoryStore) (scope : Scope) : Question → Prop
  | .store (.scan scope' _ _) => scope' = scope
  | .store (.load _ _) => True
  | .store (.replace d _) => s.Holds scope d.link
  | .store (.list _) => False
  | .isCancelled => True
  | .report _ => True

/-- The source of both stores is the one of `s`, and under some links they have the same
    entries. -/
structure AgreeOn (s : MemoryStore) (p : Link → Prop) (a b : MemoryStore × Nat) : Prop where
  left : SameSource s a.1
  right : SameSource s b.1
  entry : ∀ link, p link → a.1.canonical.get? link = b.1.canonical.get? link

theorem sameSource_replace (s : MemoryStore) (d : HeaderDraft) (lines : List Line) :
    SameSource s (s.replace d lines).2 := by
  rw [replace_eq]
  rcases s.failingWrites.get? d.link with _ | m
  · exact s.sameSource_written d lines
  · exact .refl s

/-- A write changes the entry it is about, at most. -/
theorem get?_replace_of_ne (s : MemoryStore) (d : HeaderDraft) (lines : List Line) {link : Link}
    (h : link ≠ d.link) : (s.replace d lines).2.canonical.get? link = s.canonical.get? link := by
  rw [replace_eq]
  rcases s.failingWrites.get? d.link with _ | m
  · show (s.written d lines).canonical.get? link = _
    rw [written, Table.get?_insert, if_neg h]
  · rfl

/-- What a write says and what it leaves is decided by the entry it is about. -/
theorem replace_congr (hu : SameSource s u) (hv : SameSource s v) {d : HeaderDraft}
    (h : u.canonical.get? d.link = v.canonical.get? d.link) (lines : List Line) :
    (u.replace d lines).1 = (v.replace d lines).1 ∧
      (u.replace d lines).2.canonical.get? d.link =
        (v.replace d lines).2.canonical.get? d.link := by
  rw [replace_eq, replace_eq, hu.failingWrites, hv.failingWrites, h]
  rcases s.failingWrites.get? d.link with _ | m
  · refine ⟨rfl, ?_⟩
    show (u.written d lines).canonical.get? d.link = (v.written d lines).canonical.get? d.link
    simp only [written, Table.get?_insert, if_true, h]
  · exact ⟨rfl, h⟩

theorem pending_eq_of_agree (hu : SameSource s u) (hv : SameSource s v)
    (h : ∀ link, s.Holds scope link → u.canonical.get? link = v.canonical.get? link)
    (feed : Feed) : u.pending scope feed = v.pending scope feed := by
  apply pending_congr (hu.scanned.trans hv.scanned.symm) (hu.booked.trans hv.booked.symm)
  intro e he
  exact h _ (hv.holds_iff.mp (holds_of_mem_eligible he))

/-- Questions of a scope depend on entries of the scope and leave all others alone. -/
theorem apart_concerns (s : MemoryStore) (scope : Scope) {own other : Link → Prop}
    (hown : ∀ link, s.Holds scope link → own link)
    (hother : ∀ link, s.Holds scope link → ¬ other link) :
    Apart (scheduled (fun _ => false) answer) (s.Concerns scope) (s.AgreeOn own)
      (s.AgreeOn other) where
  answer_eq := by
    rintro q ⟨u, n⟩ ⟨v, m⟩ hq ⟨hu, hv, hentry⟩
    match q with
    | .store (.scan scope' feed limit) =>
      obtain rfl : scope' = scope := hq
      have hpending := pending_eq_of_agree hu hv (fun link hl => hentry link (hown link hl)) feed
      exact congrArg (fun cs => Except.ok (List.take limit cs)) hpending
    | .store (.load feed id) =>
      exact congrArg Except.ok ((hu.load_eq feed id).trans (hv.load_eq feed id).symm)
    | .store (.replace d lines) => exact (replace_congr hu hv (hentry _ (hown _ hq)) lines).1
    | .isCancelled | .report _ => rfl
  own_answer := by
    rintro q ⟨u, n⟩ ⟨v, m⟩ hq ⟨hu, hv, hentry⟩
    -- only a write changes the store, and both stores get the same entry by it
    match q with
    | .store (.scan _ _ _) | .store (.load _ _) | .isCancelled | .report _ =>
      exact ⟨hu, hv, hentry⟩
    | .store (.replace d lines) =>
      refine ⟨hu.trans (u.sameSource_replace d lines), hv.trans (v.sameSource_replace d lines),
        fun link hl => ?_⟩
      show (u.replace d lines).2.canonical.get? link = (v.replace d lines).2.canonical.get? link
      by_cases hlink : link = d.link
      · rw [hlink]
        exact (replace_congr hu hv (hentry _ (hown _ hq)) lines).2
      · rw [get?_replace_of_ne u d lines hlink, get?_replace_of_ne v d lines hlink]
        exact hentry link hl
  other_answer := by
    rintro q ⟨u, n⟩ ⟨v, m⟩ hq ⟨hu, hv, hentry⟩
    match q with
    | .store (.scan _ _ _) | .store (.load _ _) | .isCancelled | .report _ =>
      exact ⟨hu, hv, hentry⟩
    | .store (.replace d lines) =>
      refine ⟨hu.trans (u.sameSource_replace d lines), hv, fun link hl => ?_⟩
      show (u.replace d lines).2.canonical.get? link = v.canonical.get? link
      have hlink : link ≠ d.link := by
        rintro rfl
        exact hother _ hq hl
      rw [get?_replace_of_ne u d lines hlink]
      exact hentry link hl

/-! ## Section 3: The questions of a run -/

/-- No question changes the source. -/
theorem sameSource_exec {α : Type} (cancel : Nat → Bool) (d : RunTalk α) (t : MemoryStore × Nat) :
    SameSource t.1 (d.exec (scheduled cancel answer) t).2.1 := by
  induction d generalizing t with
  | done a => exact .refl t.1
  | ask q next ih =>
    have hanswer : SameSource t.1 (scheduled cancel answer q t).2.1 := by
      match q with
      | .store (.replace d lines) => exact t.1.sameSource_replace d lines
      | .store (.scan _ _ _) | .store (.load _ _) | .store (.list _) => exact .refl t.1
      | .isCancelled | .report _ => exact .refl t.1
    exact hanswer.trans (ih _ _)

/-- To ask a store within a run is to ask it. -/
theorem asksOnly_overStore {α : Type} {cancel : Nat → Bool} {kind : Question → Prop}
    {d : StoreTalk α} {n : Nat} :
    AsksOnly (scheduled cancel answer) kind (overStore d) (s, n) ↔
      AsksOnly answer (fun c => kind (.store c)) d s := by
  induction d generalizing s with
  | done a => exact ⟨fun _ => asksOnly_done _ _, fun _ => asksOnly_done _ _⟩
  | ask c next ih =>
    rw [asksOnly_ask, ← ih]
    exact asksOnly_ask

theorem asksOnly_process (u : MemoryStore) {c : Candidate} (hc : s.Holds scope c.link) :
    AsksOnly answer (fun call => s.Concerns scope (.store call)) (process c) u := by
  -- the first question is for the invoice, and the plan for it says whether there is a second
  have hload : (call (.load c.feed c.id)).exec answer u = (.ok (u.load c.feed c.id), u) := rfl
  refine .bind (asksOnly_question trivial) ?_
  simp only [hload]
  rcases hplan : plan (u.load c.feed c.id) with e | (⟨d, lines⟩ | why)
  · exact asksOnly_done _ _
  · have hlink : d.link = c.link := link_of_plan_load hplan
    refine .bind (asksOnly_question ?_) ?_
    · show s.Holds scope d.link
      rw [hlink]
      exact hc
    · rcases ((call (.replace d lines)).exec answer u).1 with e | header
      · exact asksOnly_done _ _
      · exact asksOnly_done _ _
  · exact asksOnly_done _ _

theorem asksOnly_visitAll (u : MemoryStore) {cancel : Nat → Bool} {cs : List Candidate} {n : Nat}
    (hcs : ∀ c ∈ cs, s.Holds scope c.link) :
    AsksOnly (scheduled cancel answer) (s.Concerns scope) (visitAll cs) (u, n) := by
  induction cs generalizing u n with
  | nil => exact asksOnly_done _ _
  | cons c cs ih =>
    have hc : s.Holds scope c.link := hcs c (List.mem_cons_self ..)
    have hrest : ∀ d ∈ cs, s.Holds scope d.link := fun d hd => hcs d (List.mem_cons_of_mem c hd)
    refine .bind (asksOnly_question trivial) ?_
    rw [exec_isCancelled]
    cases cancel n with
    | true => exact asksOnly_done _ _
    | false =>
      refine .bind (asksOnly_overStore.mpr (asksOnly_process u hc)) ?_
      rw [exec_overStore]
      exact .bind (ih (u.processed c) hrest) (asksOnly_done _ _)

section Questions

variable (hu : SameSource s u)
include hu

theorem asksOnly_visitFeed {cancel : Nat → Bool} (r : Request) (feed : Feed) {n : Nat} :
    AsksOnly (scheduled cancel answer) (s.Concerns r.scope) (visitFeed r feed) (u, n) := by
  have hscan : (scan r.scope feed r.limit).exec answer u = (.ok (u.queued r feed), u) :=
    u.exec_scan_memory r.scope feed r.limit
  have hqueued : ∀ c ∈ u.queued r feed, s.Holds r.scope c.link := by
    intro c hc
    exact hu.holds_iff.mp (holds_of_mem_pending (mem_pending_of_mem_queued hc))
  have hasked : AsksOnly answer (fun call => s.Concerns r.scope (.store call))
      (scan r.scope feed r.limit) u := by
    refine .bind (asksOnly_question rfl) ?_
    rcases ((call (.scan r.scope feed r.limit)).exec answer u).1 with e | rows
    · exact asksOnly_done _ _
    · exact asksOnly_done _ _
  refine .bind (asksOnly_overStore.mpr hasked) ?_
  rw [exec_overStore, hscan]
  refine .bind (asksOnly_question trivial) ?_
  rw [exec_report]
  refine .bind (asksOnly_visitAll u hqueued) ?_
  exact .bind (asksOnly_question trivial) (asksOnly_done _ _)

theorem asksOnly_visitFeeds {cancel : Nat → Bool} (r : Request) (feeds : List Feed) {n : Nat} :
    AsksOnly (scheduled cancel answer) (s.Concerns r.scope) (visitFeeds r feeds) (u, n) := by
  induction feeds generalizing u n with
  | nil => exact asksOnly_done _ _
  | cons feed feeds ih =>
    refine .bind (asksOnly_visitFeed hu r feed) ?_
    have hleft : SameSource s ((visitFeed r feed).exec (scheduled cancel answer) (u, n)).2.1 :=
      hu.trans (sameSource_exec cancel (visitFeed r feed) (u, n))
    generalize (visitFeed r feed).exec (scheduled cancel answer) (u, n) = left at hleft ⊢
    obtain ⟨⟨visits, e | (_ | _)⟩, v, m⟩ := left
    · exact asksOnly_done _ _
    · exact .bind (ih hleft) (asksOnly_done _ _)
    · exact asksOnly_done _ _

/-- A run asks about its own scope only. -/
theorem asksOnly_run {cancel : Nat → Bool} (r : Request) {n : Nat} :
    AsksOnly (scheduled cancel answer) (s.Concerns r.scope) (run r) (u, n) := by
  rw [run_eq]
  refine .bind (.bind (asksOnly_question trivial) ?_) (asksOnly_done _ _)
  rw [exec_report]
  refine .bind (asksOnly_visitFeeds hu r _) ?_
  rcases ((visitFeeds r r.selector.feeds).exec (scheduled cancel answer) (u, n)).1 with
    ⟨visits, e | cancelled⟩
  · exact asksOnly_done _ _
  · exact .bind (asksOnly_question trivial) (asksOnly_done _ _)

end Questions

/-! ## Section 4: Two runs -/

/-- Two runs take turns.  If their links can be told apart, each ends as it does alone, and
    leaves under its links what it leaves there alone. -/
theorem exec_interleave_runs (s : MemoryStore) {r r' : Request} {p : Link → Prop}
    (hp : ∀ link, s.Holds r.scope link → p link)
    (hp' : ∀ link, s.Holds r'.scope link → ¬ p link) (turns : List Bool) :
    let answers := scheduled (fun _ => false) answer
    let ended := (interleave turns (run r) (run r')).exec answers (s, 0)
    let alone := (run r).exec answers (s, 0)
    let alone' := (run r').exec answers (s, 0)
    ended.1 = (alone.1, alone'.1) ∧
      ∀ link, (p link → ended.2.1.canonical.get? link = alone.2.1.canonical.get? link) ∧
        (¬ p link → ended.2.1.canonical.get? link = alone'.2.1.canonical.get? link) := by
  intro answers ended alone alone'
  have hsame : ∀ q : Link → Prop, s.AgreeOn q (s, 0) (s, 0) :=
    fun _ => ⟨.refl s, .refl s, fun _ _ => rfl⟩
  have hapart : Apart answers (s.Concerns r.scope) (s.AgreeOn p) (s.AgreeOn fun l => ¬ p l) :=
    s.apart_concerns r.scope hp fun link hl hnot => hnot (hp link hl)
  have hapart' : Apart answers (s.Concerns r'.scope) (s.AgreeOn fun l => ¬ p l) (s.AgreeOn p) :=
    s.apart_concerns r'.scope hp' hp'
  obtain ⟨hresults, hown, hother⟩ := exec_interleave hapart hapart' turns (hsame p) (hsame _)
    (asksOnly_run (.refl s) r) (asksOnly_run (.refl s) r')
  exact ⟨hresults, fun link => ⟨hown.entry link, hother.entry link⟩⟩

/-- Two runs for different scopes that share a store end as if one had come after the other,
    whichever is taken to be the first and however they take turns: with the same results, and
    with the same entry under every link. -/
theorem runs_interleave (s : MemoryStore) {r r' : Request} (h : r.scope ≠ r'.scope)
    (turns : List Bool) :
    let answers := scheduled (fun _ => false) answer
    let both := (interleave turns (run r) (run r')).exec answers (s, 0)
    let one := (run r).exec answers (s, 0)
    let two := (run r').exec answers one.2
    let two' := (run r').exec answers (s, 0)
    let one' := (run r).exec answers two'.2
    (both.1 = (one.1, two.1) ∧
      ∀ link, both.2.1.canonical.get? link = two.2.1.canonical.get? link) ∧
    (both.1 = (one'.1, two'.1) ∧
      ∀ link, both.2.1.canonical.get? link = one'.2.1.canonical.get? link) := by
  intro answers both one two two' one'
  have hscopes : ∀ link, s.Holds r'.scope link → ¬ s.Holds r.scope link :=
    fun link hl' hl => h (scope_eq_of_holds hl hl')
  have hsplit := s.exec_interleave_runs (fun _ hl => hl) hscopes
  obtain ⟨hboth, hentry⟩ := hsplit turns
  -- one run after the other is an interleaving too, the one without turns
  obtain ⟨htwo, hentry₂⟩ := hsplit []
  obtain ⟨hone', hentry₁⟩ :=
    s.exec_interleave_runs (p := fun link => ¬ s.Holds r.scope link) hscopes
      (fun _ hl hnot => hnot hl) []
  rw [exec_interleave_nil] at htwo hone'
  simp only [exec_interleave_nil] at hentry₁ hentry₂
  obtain ⟨-, htwo⟩ := Prod.ext_iff.mp htwo
  obtain ⟨-, hone'⟩ := Prod.ext_iff.mp hone'
  -- an entry is the one that its own run leaves, in all three of the interleavings
  refine ⟨⟨?_, fun link => ?_⟩, ?_, fun link => ?_⟩
  · exact hboth.trans (Prod.ext rfl htwo.symm)
  · by_cases hl : s.Holds r.scope link
    · exact ((hentry link).1 hl).trans ((hentry₂ link).1 hl).symm
    · exact ((hentry link).2 hl).trans ((hentry₂ link).2 hl).symm
  · exact hboth.trans (Prod.ext hone'.symm rfl)
  · by_cases hl : s.Holds r.scope link
    · exact ((hentry link).1 hl).trans ((hentry₁ link).2 (not_not_intro hl)).symm
    · exact ((hentry link).2 hl).trans ((hentry₁ link).1 hl).symm

/-- An invoice of another location. -/
def annexBooking : BookedInvoice := { firstBooking with id := "inv-2", location := some "annex" }

/-- A store with an invoice for each of two locations. -/
def sharedStore : MemoryStore := bookedStore.addBooked annexBooking

def annexRequest : Request := ⟨⟨"org", "annex"⟩, .all, 200, one_le_defaultLimit,
  defaultLimit_le_max⟩

def annexCandidate : Candidate := ⟨.xero, "inv-2", .new, ⟨0, 0⟩⟩

/-- The run for the annex goes on in the store that the other run leaves. -/
theorem exec_runs_shared :
    let answers := scheduled (fun _ => false) answer
    let one := (run bookingRequest).exec answers (sharedStore, 0)
    ((run annexRequest).exec answers one.2).2.1 =
      [bookedCandidate, annexCandidate].foldl processed sharedStore := by
  intro answers one
  have hqueue : sharedStore.runQueue bookingRequest = [bookedCandidate] :=
    runQueue_eq_singleton rfl rfl rfl
  have hqueue' : (sharedStore.processed bookedCandidate).runQueue annexRequest =
      [annexCandidate] := runQueue_eq_singleton rfl rfl rfl
  have hone : one.2 = (sharedStore.processed bookedCandidate, 1) := by
    simp only [one, answers, exec_run_uncancelled, hqueue]
    rfl
  simp only [hone, answers, exec_run_uncancelled, hqueue', List.foldl_cons, List.foldl_nil]

theorem exists_writing?_shared {link : Link} (h : link ∈ [Link.xero "inv-1", .xero "inv-2"]) :
    ∃ w, sharedStore.writing? link = some w := by
  rcases List.mem_pair.mp h with rfl | rfl
  · exact ⟨_, writing?_eq_some_iff.mpr ⟨plan_booked, rfl⟩⟩
  · have hplan : plan (some (.xero annexBooking)) = .ok (.write _ _) :=
      plan_xero rfl (by simp [annexBooking, firstBooking]) (by decide)
    exact ⟨_, writing?_eq_some_iff.mpr ⟨hplan, rfl⟩⟩

/-- Each run writes the invoice of its own location, while they take turns. -/
theorem runs_interleave_shared :
    let answers := scheduled (fun _ => false) answer
    let both := (interleave [true, false, false, true] (run bookingRequest)
      (run annexRequest)).exec answers (sharedStore, 0)
    let one := (run bookingRequest).exec answers (sharedStore, 0)
    let two' := (run annexRequest).exec answers (sharedStore, 0)
    bookingRequest.scope ≠ annexRequest.scope ∧ both.1 = (one.1, two'.1) ∧
      ∀ link ∈ [Link.xero "inv-1", .xero "inv-2"], ∃ e, both.2.1.canonical.get? link = some e := by
  intro answers both one two'
  have hscope : bookingRequest.scope ≠ annexRequest.scope := by decide
  obtain ⟨⟨hresult, hentry⟩, hresult', -⟩ :=
    runs_interleave sharedStore hscope [true, false, false, true]
  refine ⟨hscope, ?_, fun link hlink => ?_⟩
  · exact Prod.ext (Prod.ext_iff.mp hresult).1 (Prod.ext_iff.mp hresult').2
  · have hleft : both.2.1.canonical.get? link =
        ([bookedCandidate, annexCandidate].foldl processed sharedStore).canonical.get? link :=
      (hentry link).trans (congrArg (fun t => t.canonical.get? link) exec_runs_shared)
    have hmem : link ∈ [bookedCandidate, annexCandidate].map Candidate.link := hlink
    obtain ⟨w, hw⟩ := exists_writing?_shared hlink
    rw [hleft, get?_foldl_processed, if_pos hmem, settled, hw]
    exact ⟨_, rfl⟩

end MemoryStore

end Reconcile
