import Reconcile.Proofs.Memory.Queue

/-! # What a run leaves to be done

    What was pending before a run over a store in memory is pending after it, but for the
    candidates that were written.  A link stands for one candidate only, whatever scope it is
    looked at from, so that a write cannot take anything else away; and a candidate is never
    skipped, because what makes an invoice eligible makes it worth writing.

    Main statement: `pending_run`. -/

namespace Reconcile

open Backfill

def LegacyInvoice.createdAt : LegacyInvoice → Instant
  | .ocr i => i.createdAt
  | .xero i => i.createdAt

def LegacyInvoice.organisation : LegacyInvoice → String
  | .ocr i => i.organisation
  | .xero i => i.organisation

namespace MemoryStore

variable {s : MemoryStore}

/-! ## Section 1: Candidates and their invoices -/

theorem exists_load_of_mem_eligible {scope : Scope} {feed : Feed} {e : Eligible}
    (h : e ∈ s.eligible scope feed) :
    ∃ i, s.load feed e.id = some i ∧ i.createdAt = e.createdAt ∧
      i.organisation = scope.organisation ∧ i.location = some scope.location ∧
      i.hasLines = true := by
  cases feed with
  | ocr =>
    obtain ⟨i, hi, rfl⟩ := List.mem_map.mp h
    obtain ⟨hmem, hcond⟩ := List.mem_filter.mp hi
    obtain ⟨id, hid⟩ := Table.mem_values.mp hmem
    obtain rfl := s.scanned_id hid
    simp only [Bool.and_eq_true, decide_eq_true_eq] at hcond
    exact ⟨.ocr i, by simp [load, hid], rfl, hcond.1.1, hcond.1.2, hcond.2⟩
  | xero =>
    obtain ⟨i, hi, rfl⟩ := List.mem_map.mp h
    obtain ⟨hmem, hcond⟩ := List.mem_filter.mp hi
    obtain ⟨id, hid⟩ := Table.mem_values.mp hmem
    obtain rfl := s.booked_id hid
    simp only [Bool.and_eq_true, decide_eq_true_eq] at hcond
    exact ⟨.xero i, by simp [load, hid], rfl, hcond.1.1, hcond.1.2, hcond.2⟩

/-- Two candidates that are pending anywhere are one if their links are. -/
theorem eq_of_link_eq {scope scope' : Scope} {feed feed' : Feed} {c d : Candidate}
    (hc : c ∈ s.pending scope feed) (hd : d ∈ s.pending scope' feed') (h : c.link = d.link) :
    c = d := by
  obtain ⟨e, he, hce⟩ := mem_pending.mp hc
  obtain ⟨e', he', hde⟩ := mem_pending.mp hd
  obtain ⟨hfeed, hid, hat, hneed⟩ := candidate?_eq_some_iff.mp hce
  obtain ⟨hfeed', hid', hat', hneed'⟩ := candidate?_eq_some_iff.mp hde
  obtain ⟨hf, hi⟩ := Link.ofFeed_inj.mp h
  obtain rfl : feed = feed' := by rw [← hfeed, ← hfeed', hf]
  -- the link names one invoice and one entry, and the candidate is made of nothing else
  have hee : e.id = e'.id := by rw [← hid, ← hid', hi]
  obtain ⟨i, hload, hcreated, -⟩ := exists_load_of_mem_eligible he
  obtain ⟨i', hload', hcreated', -⟩ := exists_load_of_mem_eligible he'
  obtain rfl : i = i' := by
    rw [hee, hload'] at hload
    exact (Option.some.inj hload).symm
  have hneeds : c.need = d.need := by
    rw [hee, hneed'] at hneed
    exact (Option.some.inj hneed).symm
  have hats : c.createdAt = d.createdAt := by rw [hat, hat', ← hcreated, ← hcreated']
  obtain ⟨f, i₁, n, a⟩ := c
  obtain ⟨f', i₂, n', a'⟩ := d
  simp_all

/-- A candidate that was pending is written or fails, as long as its invoice stays what it was. -/
theorem outcome_ne_skipped {t : MemoryStore} {scope : Scope} {feed : Feed} {c : Candidate}
    (hc : c ∈ s.pending scope feed) (hsame : t.load c.feed c.id = s.load c.feed c.id) (why : Skip) :
    t.outcome c ≠ .ok (.skipped why) := by
  intro ho
  obtain ⟨e, he, hce⟩ := mem_pending.mp hc
  obtain ⟨hfeed, hid, -⟩ := candidate?_eq_some_iff.mp hce
  obtain ⟨i, hload, -, -, hlocation, hlines⟩ := exists_load_of_mem_eligible he
  rcases t.processed_cases c with ⟨_, hc', -⟩ | ⟨why', hplan, -, -⟩ | ⟨_, _, _, -, -, -, hc', -⟩
  · simp [hc'] at ho
  · rw [hsame, hfeed, hid, hload] at hplan
    exact plan_ne_skip hlocation hlines why' hplan
  · simp [hc'] at ho

/-! ## Section 2: The backlog -/

variable (s)

theorem written_map_visit (cs : List Candidate) :
    Visits.written (cs.map s.visit) = cs.filter fun c => (s.visit c).isWritten := by
  have hcandidate : (fun c => (s.visit c).candidate) = id := rfl
  simp only [Visits.written, List.filter_map, List.map_map, Function.comp_def, hcandidate,
    List.map_id]

/-- After pending candidates were processed, exactly those that were written are not pending. -/
theorem pending_foldl_processed_eq {scope : Scope} {cs : List Candidate}
    (hcs : ∀ c ∈ cs, c ∈ s.pending scope c.feed) (scope' : Scope) (feed' : Feed) :
    (cs.foldl processed s).pending scope' feed' =
      (s.pending scope' feed').filter (· ∉ Visits.written (cs.map s.visit)) := by
  rw [pending_foldl_processed, written_map_visit]
  apply List.filter_congr
  intro d hd
  have hiff : (∃ c ∈ cs, (s.visit c).isWritten = true ∧ d.link = c.link) ↔
      d ∈ cs ∧ (s.visit d).isWritten = true := by
    constructor
    · rintro ⟨c, hc, hw, hl⟩
      obtain rfl := eq_of_link_eq hd (hcs c hc) hl
      exact ⟨hc, hw⟩
    · rintro ⟨hmem, hw⟩
      exact ⟨d, hmem, hw, rfl⟩
  rw [Bool.eq_iff_iff]
  simp only [Bool.not_eq_true', ← Bool.not_eq_true, List.any_eq_true, Bool.and_eq_true,
    decide_eq_true_eq, List.mem_filter]
  exact not_congr hiff

theorem mem_pending_of_mem_runQueue {r : Request} {c : Candidate} (h : c ∈ s.runQueue r) :
    c ∈ s.pending r.scope c.feed := by
  obtain ⟨feed, -, hc⟩ := List.mem_flatMap.mp h
  have hpending := mem_pending_of_mem_queued hc
  rwa [feed_of_mem_pending hpending]

/-- A run of the same request finds nothing to do if the first one came to everything and nothing
    failed. -/
theorem runQueue_eq_nil {r : Request} (hlimit : ∀ feed ∈ r.selector.feeds,
      (s.pending r.scope feed).length ≤ r.limit)
    (hfailures : Visits.failures ((s.runQueue r).map s.visit) = []) :
    ((s.runQueue r).foldl processed s).runQueue r = [] := by
  have hpending : ∀ c ∈ s.runQueue r, c ∈ s.pending r.scope c.feed :=
    fun c => s.mem_pending_of_mem_runQueue
  -- nothing failed, and what is pending is not skipped
  have hwritten : ∀ c ∈ s.runQueue r, (s.visit c).isWritten = true := by
    intro c hc
    rcases ho : s.outcome c with e | (lines | why)
    · have : s.visit c ∈ (s.runQueue r).map s.visit := List.mem_map_of_mem hc
      have hnone := List.filterMap_eq_nil_iff.mp hfailures _ this
      simp [visit, ho] at hnone
    · simp [visit, ho, Visit.isWritten]
    · exact absurd ho (outcome_ne_skipped (hpending c hc) rfl why)
  apply List.flatMap_eq_nil_iff.mpr
  intro feed hfeed
  rw [queued, s.pending_foldl_processed_eq hpending, written_map_visit]
  have hnothing : (s.pending r.scope feed).filter
      (· ∉ (s.runQueue r).filter fun c => (s.visit c).isWritten) = [] := by
    apply List.filter_eq_nil_iff.mpr
    intro c hc
    have hqueued : c ∈ s.queued r feed := by
      rwa [queued, List.take_of_length_le (hlimit feed hfeed)]
    have hmem : c ∈ s.runQueue r := List.mem_flatMap.mpr ⟨feed, hfeed, hqueued⟩
    simpa using ⟨hmem, hwritten c hmem⟩
  rw [hnothing, List.take_nil]

/-- A run processes some candidates, one after another.  Afterwards, in every scope and feed, that
    is pending which was pending before and was not written, in the same order; what was visited
    and not written stays.  If no invoice failed, the run was not cancelled and the limit was no
    hindrance, any later run of the request does nothing. -/
theorem pending_run (s : MemoryStore) (r : Request) (cancel : Nat → Bool) :
    let a := ((account r).exec (scheduled cancel answer) (s, 0)).1
    let ended := (run r).exec (scheduled cancel answer) (s, 0)
    let t := ended.2.1
    ended.1 = a.result ∧
      processAll answer (a.visits.map (·.candidate)) s = (a.visits, t) ∧
      (∀ scope feed, t.pending scope feed =
        (s.pending scope feed).filter (· ∉ Visits.written a.visits)) ∧
      (∀ v ∈ a.visits, v.isWritten = false →
        v.candidate ∈ t.pending r.scope v.candidate.feed) ∧
      ∀ summary, ended.1 = .ok summary → summary.cancelled = false →
        (∀ feed ∈ r.selector.feeds, (s.pending r.scope feed).length ≤ r.limit) →
        ∀ later : Nat → Bool,
          ((account r).exec (scheduled later answer) (t, 0)).1.visits = [] ∧
            (run r).exec (scheduled later answer) (t, 0) =
              (.ok (Tally.empty.summary false), t, 0) := by
  simp only [exec_account_memory, exec_run_memory]
  generalize attempts cancel 0 (s.runQueue r).length = k
  have hpending : ∀ c ∈ (s.runQueue r).take k, c ∈ s.pending r.scope c.feed :=
    fun c hc => s.mem_pending_of_mem_runQueue (List.mem_of_mem_take hc)
  have hfilter := s.pending_foldl_processed_eq hpending
  refine ⟨trivial, ?_, hfilter, ?_, ?_⟩
  · have hcandidates : ((s.accountOf (s.runQueue r) k).visits.map (·.candidate)) =
        (s.runQueue r).take k := by
      simp [accountOf, visit, Function.comp_def]
    rw [hcandidates, processAll_memory]
    rfl
  · intro v hv hw
    obtain ⟨c, hc, rfl⟩ := List.mem_map.mp hv
    show c ∈ (((s.runQueue r).take k).foldl processed s).pending r.scope c.feed
    rw [hfilter, written_map_visit]
    exact List.mem_filter.mpr ⟨hpending c hc, by simp [hw]⟩
  · intro summary hok hcancelled hlimit later
    obtain ⟨hfailures, cancelled, hending, rfl⟩ := (Account.result_eq_ok_iff _ _).mp hok
    -- a run that was not cancelled came to the end of its queue
    have hall : (s.runQueue r).length ≤ k := by
      have hdecide : decide (k < (s.runQueue r).length) = cancelled := Except.ok.inj hending
      have hcancelled' : cancelled = false := hcancelled
      simpa [hcancelled'] using hdecide
    have hvisits : (s.runQueue r).take k = s.runQueue r := List.take_of_length_le hall
    have hnil := s.runQueue_eq_nil hlimit (by
      rw [← hvisits]
      exact hfailures)
    rw [hvisits]
    simp only [hnil]
    exact ⟨rfl, rfl⟩

/-- A run writes the only invoice of a store, and a second one has nothing to do. -/
theorem pending_run_booked :
    let never : Nat → Bool := fun _ => false
    let t := ((run bookingRequest).exec (scheduled never answer) (bookedStore, 0)).2.1
    bookedStore.pending ⟨"org", "loc"⟩ .xero = [bookedCandidate] ∧
      t.pending ⟨"org", "loc"⟩ .xero = [] ∧
      (run bookingRequest).exec (scheduled never answer) (t, 0) =
        (.ok (Tally.empty.summary false), t, 0) := by
  intro never t
  have hpending : ∀ feed, bookedStore.pending ⟨"org", "loc"⟩ feed =
      if feed = .xero then [bookedCandidate] else [] := by
    intro feed
    cases feed with
    | ocr => exact List.mergeSort_nil
    | xero => exact List.mergeSort_singleton _
  obtain ⟨hresult, -, hleft, -, hagain⟩ := pending_run bookedStore bookingRequest never
  have haccount : ((account bookingRequest).exec (scheduled never answer) (bookedStore, 0)).1 =
      ⟨[⟨bookedCandidate, .ok (.written firstBooking.transcribe.lines)⟩], .ok false⟩ := by
    rw [exec_account_memory, runQueue_booked, ← processed_booked.1]
    rfl
  rw [haccount] at hresult hleft
  refine ⟨hpending .xero, ?_, ?_⟩
  · show t.pending ⟨"org", "loc"⟩ .xero = []
    rw [hleft, hpending]
    rfl
  · refine (hagain _ hresult rfl ?_ never).2
    intro feed _
    show (bookedStore.pending ⟨"org", "loc"⟩ feed).length ≤ 200
    rw [hpending]
    split <;> simp

end MemoryStore

end Reconcile
