import Reconcile.Proofs.Invoice.Transcribed
import Reconcile.Proofs.Memory.Pending
import Reconcile.Proofs.Run.Schedule

/-! # Runs over a store in memory

    What becomes of a candidate is decided by the legacy invoices and by the writes that are to
    fail.  A run touches neither, so the outcomes of a run can be read off the store it starts
    with, and the candidates it visits are the first ones of a queue that is known beforehand.

    Main statements: `processed_cases`, all that processing one candidate can do, and
    `exec_account_memory`, a run in closed form. -/

namespace Reconcile

open Backfill

namespace MemoryStore

/-! ## Section 1: One candidate -/

/-- What becomes of a candidate. -/
def outcome (s : MemoryStore) (c : Candidate) : Except InvoiceError Outcome :=
  ((process c).exec answer s).1

/-- The store after a candidate was processed. -/
def processed (s : MemoryStore) (c : Candidate) : MemoryStore := ((process c).exec answer s).2

/-- A candidate that is processed now. -/
def visit (s : MemoryStore) (c : Candidate) : Visit := ⟨c, s.outcome c⟩

theorem load_congr {s t : MemoryStore} (hscanned : t.scanned = s.scanned)
    (hbooked : t.booked = s.booked) (feed : Feed) (id : String) :
    t.load feed id = s.load feed id := by
  cases feed with
  | ocr => rw [load, load, hscanned]
  | xero => rw [load, load, hbooked]

theorem link_of_load {s : MemoryStore} {feed : Feed} {id : String} {i : LegacyInvoice}
    (h : s.load feed id = some i) : i.link = .ofFeed feed id := by
  cases feed with
  | ocr =>
    obtain ⟨j, hj, rfl⟩ := Option.map_eq_some_iff.mp h
    exact congrArg Link.ocr (s.scanned_id hj)
  | xero =>
    obtain ⟨j, hj, rfl⟩ := Option.map_eq_some_iff.mp h
    exact congrArg Link.xero (s.booked_id hj)

/-- What is to be written for an invoice goes under the link it is loaded by. -/
theorem link_of_plan_load {s : MemoryStore} {feed : Feed} {id : String} {d : HeaderDraft}
    {lines : List Line} (h : plan (s.load feed id) = .ok (.write d lines)) :
    d.link = .ofFeed feed id := by
  obtain ⟨i, -, -, -, hi, -⟩ := plan_eq_write_iff.mp h
  rw [hi] at h
  rw [link_of_plan h, link_of_load hi]

theorem exec_process_memory (s : MemoryStore) (c : Candidate) :
    (process c).exec answer s =
      match plan (s.load c.feed c.id) with
      | .error e => (.error e, s)
      | .ok (.skip why) => (.ok (.skipped why), s)
      | .ok (.write d lines) =>
        match s.failingWrites.get? d.link with
        | some m => (.error (.store (.protocol m)), s)
        | none => (.ok (.written lines), s.written d lines) := by
  rw [exec_process]
  show finish answer s (.ok (s.load c.feed c.id)) = _
  rw [finish]
  rcases plan (s.load c.feed c.id) with e | (⟨d, lines⟩ | why)
  · rfl
  · have hreplace : answer (.replace d lines) s = s.replace d lines := rfl
    simp only [hreplace, replace_eq]
    rcases s.failingWrites.get? d.link with _ | m <;> rfl
  · rfl

/-- A candidate fails, or is left out, and the store stays as it is; or it is written under the
    link to its invoice. -/
theorem processed_cases (s : MemoryStore) (c : Candidate) :
    (∃ e, s.outcome c = .error e ∧ s.processed c = s) ∨
    (∃ why, plan (s.load c.feed c.id) = .ok (.skip why) ∧
      s.outcome c = .ok (.skipped why) ∧ s.processed c = s) ∨
    (∃ i d lines, s.load c.feed c.id = some i ∧ plan (some i) = .ok (.write d lines) ∧
      d.link = c.link ∧ s.outcome c = .ok (.written lines) ∧
      s.processed c = s.written d lines) := by
  rw [outcome, processed, exec_process_memory]
  rcases hplan : plan (s.load c.feed c.id) with e | (⟨d, lines⟩ | why)
  · exact .inl ⟨e, rfl, rfl⟩
  · rcases hfail : s.failingWrites.get? d.link with _ | m
    · have hlink : d.link = c.link := link_of_plan_load hplan
      obtain ⟨i, -, -, -, hi, -⟩ := plan_eq_write_iff.mp hplan
      rw [hi] at hplan
      exact .inr (.inr ⟨i, d, lines, hi, hplan, hlink, by simp [hfail], by simp [hfail]⟩)
    · exact .inl ⟨.store (.protocol m), by simp [hfail], by simp [hfail]⟩
  · exact .inr (.inl ⟨why, rfl, rfl, rfl⟩)

theorem processed_eq_written {s : MemoryStore} {c : Candidate} {d : HeaderDraft}
    {lines : List Line} (hplan : plan (s.load c.feed c.id) = .ok (.write d lines))
    (hfail : s.failingWrites.get? d.link = none) :
    s.outcome c = .ok (.written lines) ∧ s.processed c = s.written d lines := by
  rw [outcome, processed, exec_process_memory]
  simp [hplan, hfail]

/-- What becomes of a candidate depends on its legacy invoice and on whether its write is to fail,
    and on nothing else of the store. -/
theorem outcome_congr {s t : MemoryStore} {c : Candidate}
    (hload : t.load c.feed c.id = s.load c.feed c.id)
    (hfail : t.failingWrites.get? c.link = s.failingWrites.get? c.link) :
    t.outcome c = s.outcome c := by
  simp only [outcome, exec_process_memory, hload]
  rcases hplan : plan (s.load c.feed c.id) with e | (⟨d, lines⟩ | why)
  · rfl
  · have hlink : d.link = c.link := link_of_plan_load hplan
    simp only [hlink, hfail]
    rcases s.failingWrites.get? c.link with _ | m <;> rfl
  · rfl

/-! ## Section 2: What a run leaves alone -/

/-- The same legacy invoices, and the same writes that are to fail. -/
structure SameSource (s t : MemoryStore) : Prop where
  scanned : t.scanned = s.scanned
  booked : t.booked = s.booked
  failingWrites : t.failingWrites = s.failingWrites

namespace SameSource

theorem refl (s : MemoryStore) : SameSource s s := ⟨rfl, rfl, rfl⟩

theorem trans {s t u : MemoryStore} (h : SameSource s t) (h' : SameSource t u) : SameSource s u :=
  ⟨h'.scanned.trans h.scanned, h'.booked.trans h.booked,
    h'.failingWrites.trans h.failingWrites⟩

variable {s t : MemoryStore} (h : SameSource s t)
include h

theorem load_eq (feed : Feed) (id : String) : t.load feed id = s.load feed id :=
  load_congr h.scanned h.booked feed id

theorem outcome_eq (c : Candidate) : t.outcome c = s.outcome c :=
  outcome_congr (h.load_eq c.feed c.id) (by rw [h.failingWrites])

theorem visit_eq (c : Candidate) : t.visit c = s.visit c := by
  rw [visit, visit, h.outcome_eq]

end SameSource

theorem sameSource_written (s : MemoryStore) (d : HeaderDraft) (lines : List Line) :
    SameSource s (s.written d lines) := ⟨rfl, rfl, rfl⟩

theorem sameSource_processed (s : MemoryStore) (c : Candidate) : SameSource s (s.processed c) := by
  rcases s.processed_cases c with ⟨_, -, hs⟩ | ⟨_, -, -, hs⟩ | ⟨i, d, lines, -, -, -, -, hs⟩
  · rw [hs]
    exact .refl s
  · rw [hs]
    exact .refl s
  · rw [hs]
    exact s.sameSource_written d lines

theorem sameSource_foldl_processed (s : MemoryStore) (cs : List Candidate) :
    SameSource s (cs.foldl processed s) := by
  induction cs generalizing s with
  | nil => exact .refl s
  | cons c cs ih => exact (s.sameSource_processed c).trans (ih (s.processed c))

/-- Candidates that are processed one after another fare as they would have at the start. -/
theorem processAll_memory (s : MemoryStore) (cs : List Candidate) :
    processAll answer cs s = (cs.map s.visit, cs.foldl processed s) := by
  induction cs generalizing s with
  | nil => rfl
  | cons c cs ih =>
    -- the source is left alone, so the others fare after `c` as they would have before
    have hvisits : cs.map (s.processed c).visit = cs.map s.visit :=
      List.map_congr_left fun d _ => (s.sameSource_processed c).visit_eq d
    rw [processAll_cons]
    show (s.visit c :: (processAll answer cs (s.processed c)).1,
      (processAll answer cs (s.processed c)).2) = _
    rw [ih, hvisits]
    rfl

/-! ## Section 3: Pending candidates of a run -/

/-- Processing a candidate takes it out of what is pending if it was written, and else changes
    nothing there. -/
theorem pending_processed (s : MemoryStore) (c : Candidate) (scope : Scope) (feed : Feed) :
    (s.processed c).pending scope feed =
      (s.pending scope feed).filter fun d => !((s.visit c).isWritten && d.link = c.link) := by
  rcases s.processed_cases c with ⟨e, ho, hs⟩ | ⟨why, -, ho, hs⟩ | ⟨i, d, lines, -, hp, hl, ho, hs⟩
  · rw [hs, eq_comm]
    exact List.filter_eq_self.mpr fun d _ => by simp [visit, ho, Visit.isWritten]
  · rw [hs, eq_comm]
    exact List.filter_eq_self.mpr fun d _ => by simp [visit, ho, Visit.isWritten]
  · obtain ⟨-, -, t, -, -, -, -, hne, -, -, rfl⟩ := plan_eq_write_iff.mp hp
    rw [hs, pending_written s scope feed d hne, hl]
    simp [visit, ho, Visit.isWritten]

theorem pending_foldl_processed (s : MemoryStore) (cs : List Candidate) (scope : Scope)
    (feed : Feed) :
    (cs.foldl processed s).pending scope feed =
      (s.pending scope feed).filter fun d =>
        !cs.any fun c => (s.visit c).isWritten && d.link = c.link := by
  induction cs generalizing s with
  | nil => exact (List.filter_eq_self.mpr fun _ _ => rfl).symm
  | cons c cs ih =>
    have hvisit : ∀ d, (s.processed c).visit d = s.visit d :=
      (s.sameSource_processed c).visit_eq
    rw [List.foldl_cons, ih, pending_processed, List.filter_filter]
    apply List.filter_congr
    intro d _
    simp only [hvisit, List.any_cons, Bool.not_or, Bool.and_comm]

/-- Processing candidates of one feed changes nothing that is pending in the other. -/
theorem pending_foldl_processed_of_feed_ne (s : MemoryStore) {cs : List Candidate} {feed : Feed}
    (h : ∀ c ∈ cs, c.feed ≠ feed) (scope : Scope) :
    (cs.foldl processed s).pending scope feed = s.pending scope feed := by
  rw [pending_foldl_processed]
  apply List.filter_eq_self.mpr
  intro d hd
  have hlink : ∀ c ∈ cs, d.link ≠ c.link := by
    intro c hc hl
    have hfeed : d.feed = c.feed := (Link.ofFeed_inj.mp hl).1
    exact h c hc (hfeed ▸ feed_of_mem_pending hd)
  simp only [Bool.not_eq_true', List.any_eq_false, Bool.and_eq_true, decide_eq_true_eq, not_and]
  exact fun c hc _ => hlink c hc

end MemoryStore

end Reconcile
