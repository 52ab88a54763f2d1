import Reconcile.Proofs.Memory.Settled

/-! # Failures that stay by themselves

    Whatever keeps an invoice from being written comes before the store is touched, so a failure
    or a skip leaves the store as it was, and a success changes one entry.  A run decides when it
    scans what it will visit, and it scans by legacy invoices and entries only.  So which writes
    fail does not show in what the run visits, nor in what it writes under any other link.

    Main statement: `failures_isolated`. -/

namespace Reconcile

open Backfill

namespace MemoryStore

/-! ## Section 1: Stores alike but for their failures -/

/-- The same legacy invoices, and the same canonical ones as far as looking them up tells. -/
structure Alike (s t : MemoryStore) : Prop where
  scanned : t.scanned = s.scanned
  booked : t.booked = s.booked
  entry : ∀ link, t.canonical.get? link = s.canonical.get? link

namespace Alike

variable {s t : MemoryStore} (h : Alike s t)
include h

theorem load_eq (feed : Feed) (id : String) : t.load feed id = s.load feed id :=
  load_congr h.scanned h.booked feed id

theorem pending_eq (scope : Scope) (feed : Feed) : t.pending scope feed = s.pending scope feed :=
  pending_congr h.scanned h.booked fun e _ => h.entry (.ofFeed feed e.id)

theorem runQueue_eq (r : Request) : t.runQueue r = s.runQueue r := by
  simp only [runQueue, queue, List.flatMap_def]
  congr 1
  apply List.map_congr_left
  intro feed _
  rw [queued, queued, h.pending_eq]

/-- A link that fails in neither store settles in both alike. -/
theorem settled_eq {link : Link} (hs : s.failingWrites.get? link = none)
    (ht : t.failingWrites.get? link = none) : t.settled link = s.settled link := by
  have hwriting : t.writing? link = s.writing? link := by
    simp only [writing?, h.load_eq, hs, ht]
  simp only [settled, hwriting, h.entry]

end Alike

/-! ## Section 2: Entries that cannot be written -/

theorem settled_of_failing {s : MemoryStore} {link : Link} {m : String}
    (h : s.failingWrites.get? link = some m) : s.settled link = s.canonical.get? link := by
  rw [settled, writing?_eq_none_of_failing h]

theorem get?_foldl_processed_of_failing {s : MemoryStore} {link : Link} {m : String}
    (h : s.failingWrites.get? link = some m) (cs : List Candidate) :
    (cs.foldl processed s).canonical.get? link = s.canonical.get? link := by
  rw [get?_foldl_processed, settled_of_failing h, ite_self]

/-! ## Section 3: Isolation -/

/-- A candidate that is not written leaves the store as it was; one that is written leaves its
    lines under its link, and all else as it was.  Two runs of one request over stores that
    differ in their failures only, and that are cancelled at the same look if at all, leave the
    same entry under every link that fails in neither store; a link that fails keeps its entry. -/
theorem failures_isolated :
    (∀ (s : MemoryStore) (c : Candidate),
      let ended := (process c).exec answer s
      ((∀ lines, ended.1 ≠ .ok (.written lines)) → ended.2 = s) ∧
      ∀ lines, ended.1 = .ok (.written lines) →
        SameSource s ended.2 ∧
        (∃ e, ended.2.canonical.get? c.link = some e ∧ e.lines.map (·.line) = lines) ∧
        ∀ link, link ≠ c.link → ended.2.canonical.get? link = s.canonical.get? link) ∧
    ∀ s t : MemoryStore, Alike s t → ∀ (r : Request) (cancel : Nat → Bool),
      let s' := ((run r).exec (scheduled cancel answer) (s, 0)).2.1
      let t' := ((run r).exec (scheduled cancel answer) (t, 0)).2.1
      (∀ link, s.failingWrites.get? link = none → t.failingWrites.get? link = none →
        s'.canonical.get? link = t'.canonical.get? link) ∧
      (∀ link m, s.failingWrites.get? link = some m →
        s'.canonical.get? link = s.canonical.get? link) ∧
      ∀ link m, t.failingWrites.get? link = some m →
        t'.canonical.get? link = t.canonical.get? link := by
  constructor
  · intro s c ended
    have houtcome : ended.1 = s.outcome c := rfl
    have hstore : ended.2 = s.processed c := rfl
    rw [houtcome, hstore]
    rcases s.processed_cases c with ⟨e, ho, hs⟩ | ⟨why, -, ho, hs⟩ |
      ⟨i, d, lines, -, -, hlink, ho, hs⟩
    · rw [ho, hs]
      exact ⟨fun _ => rfl, fun _ h => by cases h⟩
    · rw [ho, hs]
      exact ⟨fun _ => rfl, fun _ h => by cases h⟩
    · rw [ho]
      refine ⟨fun h => absurd rfl (h lines), ?_⟩
      rintro _ ⟨⟩
      refine ⟨s.sameSource_processed c, ?_, fun link hne => ?_⟩
      · refine ⟨Entry.replaced (s.canonical.get? d.link) d lines, ?_, ?_⟩
        · rw [hs, written, Table.get?_insert, if_pos hlink.symm]
        · exact Entry.map_line_replaced _ d lines
      · rw [get?_processed, if_neg hne]
  · intro s t h r cancel
    simp only [exec_run_memory, h.runQueue_eq]
    generalize (s.runQueue r).take (attempts cancel 0 (s.runQueue r).length) = cs
    refine ⟨fun link hs ht => ?_, fun link m hs => ?_, fun link m ht => ?_⟩
    · rw [get?_foldl_processed, get?_foldl_processed, h.settled_eq hs ht, h.entry]
    · exact get?_foldl_processed_of_failing hs cs
    · exact get?_foldl_processed_of_failing ht cs

/-- The only invoice is written, and in a store where its write fails it is not; both stores
    agree elsewhere. -/
theorem failures_isolated_booked :
    let full := bookedStore.failWrites (.xero "inv-1") "disk full"
    let never : Nat → Bool := fun _ => false
    let s' := ((run bookingRequest).exec (scheduled never answer) (bookedStore, 0)).2.1
    let t' := ((run bookingRequest).exec (scheduled never answer) (full, 0)).2.1
    (bookedStore.processed bookedCandidate).canonical.get? (.ocr "inv-1") = none ∧
      full.processed bookedCandidate = full ∧
      s'.canonical.get? (.ocr "inv-1") = t'.canonical.get? (.ocr "inv-1") ∧
      (∃ e, s'.canonical.get? (.xero "inv-1") = some e) ∧
      t'.canonical.get? (.xero "inv-1") = none := by
  intro full never s' t'
  obtain ⟨hone, hruns⟩ := failures_isolated
  have halike : Alike bookedStore full := ⟨rfl, rfl, fun _ => rfl⟩
  obtain ⟨hsame, -, hfailing⟩ := hruns bookedStore full halike bookingRequest never
  obtain ⟨hwritten, hbooked⟩ := processed_booked
  have hfull : ∀ lines, full.outcome bookedCandidate ≠ .ok (.written lines) := by
    intro lines ho
    obtain ⟨-, ⟨e, he, -⟩, -⟩ := (hone full bookedCandidate).2 lines ho
    have hnone : (full.processed bookedCandidate).canonical.get? (.xero "inv-1") = none := by
      rw [processed_eq, writing?_eq_none_of_failing (m := "disk full") rfl]
      rfl
    have hsome : (full.processed bookedCandidate).canonical.get? (.xero "inv-1") = some e := he
    rw [hnone] at hsome
    cases hsome
  refine ⟨?_, (hone full bookedCandidate).1 hfull, hsame _ rfl rfl, ?_, ?_⟩
  · exact ((hone bookedStore bookedCandidate).2 _ hwritten).2.2 (.ocr "inv-1") (by decide)
  · refine ⟨Entry.replaced none bookedDraft firstBooking.transcribe.lines, ?_⟩
    have hs' : s' = bookedStore.processed bookedCandidate := by
      simp only [s', never, exec_run_uncancelled, runQueue_booked]
      rfl
    rw [hs', hbooked]
    rfl
  · exact hfailing (.xero "inv-1") "disk full" rfl

end MemoryStore

end Reconcile
