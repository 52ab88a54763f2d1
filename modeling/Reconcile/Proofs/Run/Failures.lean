import Reconcile.Proofs.Run.Schedule
import Reconcile.Store.Faulty

/-! # What a run tells of its failures

    An invoice that fails does not stop the run, and the run is to name it at its end.  Whoever
    answers the questions of a run, and whatever the answers are, a run that comes to its end
    names exactly the invoices that failed, in the order they were processed.  A scan that fails
    is the one way past that end: the run then tells of the scan alone, and the failures that
    were collected before it are lost.

    Main statement: `batchFailed_iff`; `failing_scan_hides_failures` is a run that loses one. -/

namespace Reconcile.Backfill

/-- A run fails with the failures of its visits, all of them and in order, exactly if there are
    any and no scan of the run failed.  With a scan that failed the run tells of nothing else. -/
theorem batchFailed_iff {σ : Type} (answer : Dialogue.Answerer Question.Answer σ) (r : Request)
    (s : σ) :
    let a := ((account r).exec answer s).1
    let ended := (run r).exec answer s
    ended.2 = ((account r).exec answer s).2 ∧
      (∀ failures partly, ended.1 = .error (.batchFailed failures partly) ↔
        failures = a.visits.filterMap Visit.failure? ∧ failures ≠ [] ∧
          ∃ cancelled, a.ending = .ok cancelled ∧ partly = a.summary cancelled) ∧
      ∀ e, ended.1 = .error (.scanFailed e) ↔ a.ending = .error e := by
  intro a ended
  have hended : ended = (a.result, ((account r).exec answer s).2) := by
    simp only [ended, a, run_eq, Dialogue.exec_bind]
    rfl
  rw [hended]
  exact ⟨rfl, a.result_eq_batchFailed_iff, a.result_eq_scanFailed_iff⟩

/-! ## A failure that is lost -/

/-- A run for both feeds of a location. -/
def wholeRun : Request := ⟨⟨"org", "loc"⟩, .all, 200, one_le_defaultLimit, defaultLimit_le_max⟩

/-- A store with one candidate, which cannot be loaded, and a feed that cannot be scanned. -/
def brokenStore : FaultyStore :=
  ((FaultyStore.empty.scriptScan .ocr (some (.candidates [⟨.ocr, "inv-1", .new, ⟨0, 0⟩⟩]))).failLoad
    "inv-1" "gone").scriptScan .xero (some (.failure "down"))

theorem account_brokenStore :
    ((account wholeRun).exec (scheduled (fun _ => false) FaultyStore.answer) (brokenStore, 0)).1 =
      ⟨[⟨⟨.ocr, "inv-1", .new, ⟨0, 0⟩⟩, .error (.store (.protocol "gone"))⟩],
        .error (.protocol "down")⟩ := by
  have hlimit : wholeRun.limit = 200 := rfl
  have hfeeds : wholeRun.selector.feeds = [.ocr, .xero] := rfl
  have hocr : FaultyStore.answer (.scan wholeRun.scope .ocr 200) brokenStore =
      (.ok [⟨.ocr, "inv-1", .new, ⟨0, 0⟩⟩], brokenStore) := rfl
  have hselect : Candidate.select .ocr 200 [⟨.ocr, "inv-1", .new, ⟨0, 0⟩⟩] =
      [⟨.ocr, "inv-1", .new, ⟨0, 0⟩⟩] := by
    simp [Candidate.select, Candidate.firstById, Candidate.oldest]
  have hload : FaultyStore.answer (.load .ocr "inv-1") brokenStore =
      (.error (.protocol "gone"), brokenStore) := rfl
  have hxero : FaultyStore.answer (.scan wholeRun.scope .xero 200) brokenStore =
      (.error (.protocol "down"), brokenStore) := rfl
  rw [exec_account, hfeeds]
  simp [exec_visitFeeds_cons, exec_visitFeed, exec_scan, hlimit, hocr, hselect, attempts,
    processAll_cons, exec_process, hload, finish, hxero]

/-- An invoice of the first feed fails, then the scan of the second one fails, and the run names
    no invoice. -/
theorem failing_scan_hides_failures :
    let answer := scheduled (fun _ => false) FaultyStore.answer
    let a := ((account wholeRun).exec answer (brokenStore, 0)).1
    a.failures = [⟨.ocr, "inv-1", "database error: " ++
        "encountered unexpected or invalid data: gone"⟩] ∧
      ((run wholeRun).exec answer (brokenStore, 0)).1 =
        .error (.scanFailed (.protocol "down")) := by
  intro answer a
  have ha : a = _ := account_brokenStore
  constructor
  · rw [ha]
    rfl
  · have hrun : ((run wholeRun).exec answer (brokenStore, 0)).1 = a.result := by
      simp only [run_eq, Dialogue.exec_bind, a]
      rfl
    rw [hrun, ha]
    rfl

end Reconcile.Backfill
