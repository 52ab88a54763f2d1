import Reconcile.Proofs.Memory.Backlog

/-! # How runs advance

    Of each feed a run comes to the oldest candidates only, as many as its limit allows.  A
    candidate that cannot be written stays pending, and being old it stands before the others
    at the next run as well.  A run therefore advances exactly if one of the candidates it comes
    to can be written.  As long as those that cannot are fewer than the limit, they cannot fill
    it: every run advances, and enough of them write all there is to write.  Where they do fill
    it, no run of the request ever comes past them.

    Measure: the number of pending candidates that can be written.

    Main statement: `runs_advance`; `malformed_invoice_stalls_runs` is a store where one invoice
    holds up all runs. -/

namespace Reconcile

open Backfill

/-- Less than `k` members of a list that fail a test leave room for one that passes it among
    the first `k`. -/
theorem exists_mem_take {α : Type} {p : α → Bool} {l : List α} {k : Nat}
    (hk : (l.filter fun a => !p a).length < k) (h : ∃ a ∈ l, p a = true) :
    ∃ a ∈ l.take k, p a = true := by
  by_cases hfull : k ≤ l.length
  · -- if all of the first `k` failed the test, these alone would be too many
    by_contra hnone
    have hall : (l.take k).filter (fun a => !p a) = l.take k := by
      apply List.filter_eq_self.mpr
      intro a ha
      have hp : p a ≠ true := fun hp => hnone ⟨a, ha, hp⟩
      simpa using hp
    have hsub : ((l.take k).filter fun a => !p a).Sublist (l.filter fun a => !p a) :=
      (List.take_sublist k l).filter _
    have hle := hsub.length_le
    rw [hall, List.length_take, Nat.min_eq_left hfull] at hle
    omega
  · have htake : l.take k = l := List.take_of_length_le (by omega)
    rw [htake]
    exact h

namespace MemoryStore

variable (s : MemoryStore)

/-! ## Section 1: Candidates that can be written, and others -/

/-- The pending candidates that can be written now. -/
def writable (scope : Scope) (feed : Feed) : List Candidate :=
  (s.pending scope feed).filter fun c => (s.visit c).isWritten

/-- The pending candidates that cannot be written now. -/
def stuck (scope : Scope) (feed : Feed) : List Candidate :=
  (s.pending scope feed).filter fun c => !(s.visit c).isWritten

variable {s}

theorem isWritten_visit_iff {c : Candidate} :
    (s.visit c).isWritten = true ↔ ∃ lines, s.outcome c = .ok (.written lines) := by
  rcases ho : s.outcome c with e | (lines | why) <;> simp [visit, ho, Visit.isWritten]

theorem stuck_eq_pending {scope : Scope} {feed : Feed} (h : s.writable scope feed = []) :
    s.stuck scope feed = s.pending scope feed := by
  apply List.filter_eq_self.mpr
  intro c hc
  have hnot := List.filter_eq_nil_iff.mp h c hc
  simpa using hnot

/-- Candidates that cannot be written leave the store as it is. -/
theorem foldl_processed_eq_self {cs : List Candidate}
    (h : ∀ c ∈ cs, (s.visit c).isWritten = false) : cs.foldl processed s = s := by
  induction cs with
  | nil => rfl
  | cons c cs ih =>
    have hc : s.processed c = s := by
      rcases s.processed_cases c with ⟨_, -, hs⟩ | ⟨_, -, -, hs⟩ | ⟨_, _, lines, -, -, -, ho, -⟩
      · exact hs
      · exact hs
      · have hw : (s.visit c).isWritten = true := isWritten_visit_iff.mpr ⟨lines, ho⟩
        rw [h c (List.mem_cons_self ..)] at hw
        cases hw
    rw [List.foldl_cons, hc]
    exact ih fun d hd => h d (List.mem_cons_of_mem c hd)

/-! ## Section 2: One run -/

variable (s) (r : Request)

/-- The store after a run that was not cancelled. -/
def afterRun : MemoryStore := ((run r).exec (scheduled (fun _ => false) answer) (s, 0)).2.1

theorem afterRun_eq : s.afterRun r = (s.runQueue r).foldl processed s := by
  rw [afterRun, exec_run_uncancelled]

theorem visit_afterRun (c : Candidate) : (s.afterRun r).visit c = s.visit c := by
  rw [afterRun_eq]
  exact (s.sameSource_foldl_processed _).visit_eq c

theorem pending_afterRun (scope : Scope) (feed : Feed) :
    (s.afterRun r).pending scope feed = (s.pending scope feed).filter
      (· ∉ (s.runQueue r).filter fun c => (s.visit c).isWritten) := by
  rw [afterRun_eq, s.pending_foldl_processed_eq fun c => s.mem_pending_of_mem_runQueue,
    written_map_visit]

/-- A run leaves alone what cannot be written. -/
theorem stuck_afterRun (scope : Scope) (feed : Feed) :
    (s.afterRun r).stuck scope feed = s.stuck scope feed := by
  simp only [stuck, visit_afterRun, pending_afterRun, List.filter_filter]
  apply List.filter_congr
  intro c _
  cases hw : (s.visit c).isWritten <;> simp [hw]

/-- A run writes of a feed what can be written of the candidates it comes to. -/
theorem writable_afterRun {feed : Feed} (hfeed : feed ∈ r.selector.feeds) :
    (s.afterRun r).writable r.scope feed =
      (s.writable r.scope feed).filter (· ∉ s.queued r feed) := by
  simp only [writable, visit_afterRun, pending_afterRun, List.filter_filter]
  apply List.filter_congr
  intro c hc
  have hqueue : c ∈ s.runQueue r ↔ c ∈ s.queued r feed := by
    constructor
    · intro hmem
      obtain ⟨feed', -, hc'⟩ := List.mem_flatMap.mp hmem
      have hfeed' : c.feed = feed' := feed_of_mem_pending (mem_pending_of_mem_queued hc')
      rwa [← hfeed', feed_of_mem_pending hc] at hc'
    · exact fun hmem => List.mem_flatMap.mpr ⟨feed, hfeed, hmem⟩
  cases hw : (s.visit c).isWritten <;> simp [hw, hqueue]

variable {s r}

theorem writable_afterRun_length_lt {feed : Feed} (hfeed : feed ∈ r.selector.feeds)
    (hstuck : (s.stuck r.scope feed).length < r.limit) (hne : s.writable r.scope feed ≠ []) :
    ((s.afterRun r).writable r.scope feed).length < (s.writable r.scope feed).length := by
  have hsome : ∃ c ∈ s.pending r.scope feed, (s.visit c).isWritten = true := by
    obtain ⟨c, hc⟩ := List.exists_mem_of_ne_nil _ hne
    exact ⟨c, List.mem_filter.mp hc⟩
  obtain ⟨c, hc, hw⟩ := exists_mem_take hstuck hsome
  rw [s.writable_afterRun r hfeed, List.length_filter_lt_length_iff_exists]
  have hqueued : c ∈ s.queued r feed := hc
  exact ⟨c, List.mem_filter.mpr ⟨List.mem_of_mem_take hc, hw⟩, by simpa using hqueued⟩

/-! ## Section 3: One run after another -/

/-- The store after a number of runs of the same request. -/
def afterRuns (r : Request) : Nat → MemoryStore → MemoryStore
  | 0, s => s
  | n + 1, s => afterRuns r n (s.afterRun r)

theorem stuck_afterRuns (r : Request) (n : Nat) (s : MemoryStore) (scope : Scope) (feed : Feed) :
    (afterRuns r n s).stuck scope feed = s.stuck scope feed := by
  induction n generalizing s with
  | zero => rfl
  | succ n ih => rw [afterRuns, ih, stuck_afterRun]

theorem writable_afterRuns {feed : Feed} (hfeed : feed ∈ r.selector.feeds) {n : Nat}
    {s : MemoryStore} (hstuck : (s.stuck r.scope feed).length < r.limit)
    (hn : (s.writable r.scope feed).length ≤ n) :
    (afterRuns r n s).writable r.scope feed = [] := by
  induction n generalizing s with
  | zero => exact List.length_eq_zero_iff.mp (Nat.le_zero.mp hn)
  | succ n ih =>
    have hstuck' : ((s.afterRun r).stuck r.scope feed).length < r.limit := by
      rw [stuck_afterRun]
      exact hstuck
    apply ih hstuck'
    by_cases hnil : s.writable r.scope feed = []
    · rw [s.writable_afterRun r hfeed, hnil]
      exact Nat.zero_le n
    · have hlt := writable_afterRun_length_lt hfeed hstuck hnil
      omega

/-! ## Section 4: Advance -/

/-- A run that is not cancelled writes an invoice exactly if it comes to one that can be written,
    and otherwise leaves the store as it was.  If the candidates of a feed that cannot be written
    are fewer than the limit, the run writes an invoice as long as there is one to write in
    this feed, and repeated runs leave nothing in it but what cannot be written. -/
theorem runs_advance (s : MemoryStore) (r : Request) :
    let ended := (run r).exec (scheduled (fun _ => false) answer) (s, 0)
    ∃ summary : Summary,
      (ended.1 = .ok summary ∨ ∃ failures, ended.1 = .error (.batchFailed failures summary)) ∧
      (0 < summary.tally.invoices ↔ ∃ feed ∈ r.selector.feeds,
        ∃ c ∈ (s.pending r.scope feed).take r.limit, ∃ lines, s.outcome c = .ok (.written lines)) ∧
      (summary.tally.invoices = 0 → ended.2.1 = s) ∧
      ∀ feed ∈ r.selector.feeds, (s.stuck r.scope feed).length < r.limit →
        ((∃ c ∈ s.pending r.scope feed, ∃ lines, s.outcome c = .ok (.written lines)) →
          0 < summary.tally.invoices) ∧
        ∀ n, (s.pending r.scope feed).length ≤ n →
          (afterRuns r n s).pending r.scope feed = s.stuck r.scope feed := by
  intro ended
  have hended : ended = _ := s.exec_run_uncancelled r 0
  let a : Account := ⟨(s.runQueue r).map s.visit, .ok false⟩
  have hcount : (a.summary false).tally.invoices =
      (s.runQueue r).countP fun c => (s.visit c).isWritten := by
    show ((s.runQueue r).map s.visit).countP Visit.isWritten = _
    rw [List.countP_map]
    rfl
  have hpos : 0 < (a.summary false).tally.invoices ↔ ∃ feed ∈ r.selector.feeds,
      ∃ c ∈ (s.pending r.scope feed).take r.limit, ∃ lines, s.outcome c = .ok (.written lines) := by
    rw [hcount, List.countP_pos_iff]
    simp only [isWritten_visit_iff]
    constructor
    · rintro ⟨c, hc, hw⟩
      obtain ⟨feed, hfeed, hc'⟩ := List.mem_flatMap.mp hc
      exact ⟨feed, hfeed, c, hc', hw⟩
    · rintro ⟨feed, hfeed, c, hc, hw⟩
      exact ⟨c, List.mem_flatMap.mpr ⟨feed, hfeed, hc⟩, hw⟩
  refine ⟨a.summary false, ?_, hpos, fun hzero => ?_, fun feed hfeed hstuck => ⟨?_, ?_⟩⟩
  · rw [hended]
    by_cases hf : a.failures = []
    · exact .inl ((a.result_eq_ok_iff _).mpr ⟨hf, false, rfl, rfl⟩)
    · exact .inr ⟨a.failures, (a.result_eq_batchFailed_iff _ _).mpr ⟨rfl, hf, false, rfl, rfl⟩⟩
  · rw [hended]
    apply foldl_processed_eq_self
    intro c hc
    rw [hcount, List.countP_eq_zero] at hzero
    simpa using hzero c hc
  · intro hsome
    apply hpos.mpr
    simp only [← isWritten_visit_iff] at hsome ⊢
    exact ⟨feed, hfeed, exists_mem_take hstuck hsome⟩
  · intro n hn
    have hle : (s.writable r.scope feed).length ≤ n :=
      Nat.le_trans (List.length_filter_le _ _) hn
    rw [← stuck_eq_pending (writable_afterRuns hfeed hstuck hle), stuck_afterRuns]

/-! ## Section 5: An invoice that holds up the others -/

/-- A scan of which the recognition service made no object. -/
def malformedScan : ScannedInvoice :=
  ⟨"inv-1", "org", some "loc", none, none, none, false, some (.array []), [], none, ⟨0, 0⟩⟩

/-- A later scan with a line keyed by hand. -/
def keyedScan : ScannedInvoice :=
  { malformedScan with
    id := "inv-2"
    document := none
    keyedLines := [⟨"l-1", 1, none, none, none, none, none, none, none, none⟩]
    createdAt := ⟨1, 0⟩ }

def stalledStore : MemoryStore := (empty.addScanned malformedScan).addScanned keyedScan

def malformedCandidate : Candidate := ⟨.ocr, "inv-1", .new, ⟨0, 0⟩⟩

def keyedCandidate : Candidate := ⟨.ocr, "inv-2", .new, ⟨1, 0⟩⟩

theorem pending_stalled :
    stalledStore.pending ⟨"org", "loc"⟩ .ocr = [malformedCandidate, keyedCandidate] := by
  have hcandidates : stalledStore.candidates ⟨"org", "loc"⟩ .ocr =
      [malformedCandidate, keyedCandidate] := rfl
  rw [pending_eq, hcandidates]
  apply List.mergeSort_of_pairwise
  simp [Candidate.le, malformedCandidate, keyedCandidate, Instant.le]

theorem outcome_keyed : ∃ lines, stalledStore.outcome keyedCandidate = .ok (.written lines) := by
  obtain ⟨d, lines, hplan⟩ := plan_keyed (i := keyedScan) rfl rfl (by decide)
  have hload : plan (stalledStore.load keyedCandidate.feed keyedCandidate.id) =
      .ok (.write d lines) := hplan
  exact ⟨lines, (processed_eq_written hload rfl).1⟩

/-- An invoice can be written, but a malformed one is older and the limit is one.  The run writes
    nothing and leaves the store as it was, and so do all runs after it. -/
theorem malformed_invoice_stalls_runs :
    let r : Request := ⟨⟨"org", "loc"⟩, .ocr, 1, by decide, by decide⟩
    let ended := (run r).exec (scheduled (fun _ => false) answer) (stalledStore, 0)
    keyedCandidate ∈ stalledStore.pending r.scope .ocr ∧
      (∃ lines, stalledStore.outcome keyedCandidate = .ok (.written lines)) ∧
      (∃ failures partly, ended.1 = .error (.batchFailed failures partly) ∧
        partly.tally.invoices = 0) ∧
      ∀ n, afterRuns r n stalledStore = stalledStore := by
  intro r ended
  have hqueue : stalledStore.runQueue r = [malformedCandidate] := by
    show (stalledStore.pending ⟨"org", "loc"⟩ .ocr).take 1 ++ [] = _
    rw [pending_stalled]
    rfl
  have hended : ended = _ := stalledStore.exec_run_uncancelled r 0
  rw [hqueue] at hended
  refine ⟨?_, outcome_keyed, ?_, ?_⟩
  · show keyedCandidate ∈ stalledStore.pending ⟨"org", "loc"⟩ .ocr
    rw [pending_stalled]
    simp
  · rw [hended]
    exact ⟨_, _, rfl, rfl⟩
  · have hstill : stalledStore.afterRun r = stalledStore := by
      rw [afterRun_eq, hqueue]
      rfl
    intro n
    induction n with
    | zero => rfl
    | succ n ih => rw [afterRuns, hstill, ih]

/-- With room for two candidates a run comes past the malformed invoice. -/
theorem runs_advance_stalled :
    let r : Request := ⟨⟨"org", "loc"⟩, .ocr, 2, by decide, by decide⟩
    (afterRuns r 2 stalledStore).pending r.scope .ocr = [malformedCandidate] := by
  intro r
  have hpending : stalledStore.pending r.scope .ocr = [malformedCandidate, keyedCandidate] :=
    pending_stalled
  have hstuck : stalledStore.stuck r.scope .ocr = [malformedCandidate] := by
    have hmalformed : (stalledStore.visit malformedCandidate).isWritten = false := rfl
    have hkeyed : (stalledStore.visit keyedCandidate).isWritten = true :=
      isWritten_visit_iff.mpr outcome_keyed
    rw [stuck, hpending]
    simp [hmalformed, hkeyed]
  have hroom : (stalledStore.stuck r.scope .ocr).length < r.limit := by
    rw [hstuck]
    decide
  have hlength : (stalledStore.pending r.scope .ocr).length ≤ 2 := by
    rw [hpending]
    decide
  have hfeed : Feed.ocr ∈ r.selector.feeds := List.mem_singleton.mpr rfl
  obtain ⟨summary, -, -, -, hadvance⟩ := runs_advance stalledStore r
  rw [(hadvance .ocr hfeed hroom).2 2 hlength, hstuck]

end MemoryStore

end Reconcile
