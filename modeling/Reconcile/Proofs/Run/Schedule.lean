import Reconcile.Proofs.Invoice.Transcribed
import Reconcile.Proofs.Run.Account

/-! # Runs over a store

    What the dialogues of a run amount to when a store answers them and a schedule says what each
    look at the cancel flag finds.  Looks are counted from zero, and the schedule is any sequence
    of answers.

    Main statement: `exec_visitAll`, the candidates that are visited are a prefix of those that
    were found, and they are processed one after another and nothing else happens to the store. -/

namespace Reconcile.Backfill

variable {σ : Type}

/-! ## Section 1: Dialogues with a store -/

section Store

variable (store : Dialogue.Answerer Store.Call.Answer σ)

theorem exec_call (c : Store.Call) (s : σ) : (call c).exec store s = store c s := rfl

theorem exec_scan (scope : Scope) (feed : Feed) (limit : Nat) (s : σ) :
    (scan scope feed limit).exec store s =
      match store (.scan scope feed limit) s with
      | (.error e, t) => (.error e, t)
      | (.ok rows, t) => (.ok (Candidate.select feed limit rows), t) := by
  rw [scan, Dialogue.bind_eq, Dialogue.exec_bind, exec_call]
  rcases store (.scan scope feed limit) s with ⟨_ | _, t⟩ <;> rfl

/-- What becomes of a legacy invoice that was loaded, or could not be. -/
def finish (s : σ) : Except StoreError (Option LegacyInvoice) → Except InvoiceError Outcome × σ
  | .error e => (.error (.store e), s)
  | .ok found =>
    match plan found with
    | .error e => (.error e, s)
    | .ok (.skip why) => (.ok (.skipped why), s)
    | .ok (.write d lines) =>
      match store (.replace d lines) s with
      | (.error e, t) => (.error (.store e), t)
      | (.ok _, t) => (.ok (.written lines), t)

theorem exec_process (c : Candidate) (s : σ) :
    (process c).exec store s =
      finish store (store (.load c.feed c.id) s).2 (store (.load c.feed c.id) s).1 := by
  rw [process, Dialogue.bind_eq, Dialogue.exec_bind, exec_call]
  rcases store (.load c.feed c.id) s with ⟨_ | found, t⟩
  · rfl
  · simp only [finish]
    rcases plan found with e | (⟨d, lines⟩ | why)
    · rfl
    · simp only [Dialogue.bind_eq, Dialogue.exec_bind, exec_call]
      rcases store (.replace d lines) t with ⟨_ | _, u⟩ <;> rfl
    · rfl

/-- Candidates processed one after another: the visits, and what is left behind. -/
def processAll : List Candidate → σ → List Visit × σ
  | [], s => ([], s)
  | c :: cs, s =>
    let (outcome, t) := (process c).exec store s
    let (visits, u) := processAll cs t
    (⟨c, outcome⟩ :: visits, u)

@[simp] theorem processAll_nil (s : σ) : processAll store [] s = ([], s) := rfl

theorem processAll_cons (c : Candidate) (cs : List Candidate) (s : σ) :
    processAll store (c :: cs) s =
      (⟨c, ((process c).exec store s).1⟩ :: (processAll store cs ((process c).exec store s).2).1,
        (processAll store cs ((process c).exec store s).2).2) := rfl

end Store

/-! ## Section 2: Dialogues of a run -/

/-- Answers the questions of a run over a store: look number `n` at the cancel flag finds
    `cancel n`, and nobody listens to the checkpoints. -/
def scheduled (cancel : Nat → Bool) (store : Dialogue.Answerer Store.Call.Answer σ) :
    Dialogue.Answerer Question.Answer (σ × Nat)
  | .store c, (s, n) => ((store c s).1, (store c s).2, n)
  | .isCancelled, (s, n) => (cancel n, s, n + 1)
  | .report _, t => ((), t)

/-- How many of `count` candidates are visited when the next look has number `n`. -/
def attempts (cancel : Nat → Bool) : (n count : Nat) → Nat
  | _, 0 => 0
  | n, k + 1 => if cancel n then 0 else attempts cancel (n + 1) k + 1

theorem attempts_le (cancel : Nat → Bool) (n count : Nat) : attempts cancel n count ≤ count := by
  induction count generalizing n with
  | zero => exact Nat.le_refl 0
  | succ k ih =>
    unfold attempts
    have := ih (n + 1)
    split <;> omega

/-- Without a cancellation all are visited. -/
theorem attempts_never (n count : Nat) : attempts (fun _ => false) n count = count := by
  induction count generalizing n with
  | zero => rfl
  | succ k ih => simp [attempts, ih]

section Scheduled

variable (cancel : Nat → Bool) (store : Dialogue.Answerer Store.Call.Answer σ)

theorem exec_overStore {α : Type} (d : StoreTalk α) (s : σ) (n : Nat) :
    (overStore d).exec (scheduled cancel store) (s, n) =
      ((d.exec store s).1, (d.exec store s).2, n) := by
  induction d generalizing s with
  | done a => rfl
  | ask c next ih => exact ih _ _

theorem exec_isCancelled (s : σ) (n : Nat) :
    isCancelled.exec (scheduled cancel store) (s, n) = (cancel n, s, n + 1) := rfl

theorem exec_report (c : Checkpoint) (t : σ × Nat) :
    (report c).exec (scheduled cancel store) t = ((), t) := rfl

theorem exec_visitAll (cs : List Candidate) (s : σ) (n : Nat) :
    let k := attempts cancel n cs.length
    (visitAll cs).exec (scheduled cancel store) (s, n) =
      ((decide (k < cs.length), (processAll store (cs.take k) s).1),
        (processAll store (cs.take k) s).2, n + min (k + 1) cs.length) := by
  induction cs generalizing s n with
  | nil => rfl
  | cons c cs ih =>
    simp only [visitAll, Dialogue.bind_eq, Dialogue.exec_bind, exec_isCancelled, attempts,
      List.length_cons]
    -- a look that finds the flag raised counts, though no candidate is visited after it
    by_cases h : cancel n = true
    · simp [h]
    · simp [h, Dialogue.exec_bind, exec_overStore, ih, processAll_cons]
      omega

theorem exec_visitFeed (r : Request) (feed : Feed) (s : σ) (n : Nat) :
    (visitFeed r feed).exec (scheduled cancel store) (s, n) =
      match (scan r.scope feed r.limit).exec store s with
      | (.error e, t) => (⟨[], .error e⟩, t, n)
      | (.ok cs, t) =>
        let k := attempts cancel n cs.length
        (⟨(processAll store (cs.take k) t).1, .ok (decide (k < cs.length))⟩,
          (processAll store (cs.take k) t).2, n + min (k + 1) cs.length) := by
  simp only [visitFeed, Dialogue.bind_eq, Dialogue.exec_bind, exec_overStore]
  rcases (scan r.scope feed r.limit).exec store s with ⟨_ | cs, t⟩
  · rfl
  · simp [Dialogue.exec_bind, exec_report, exec_visitAll]

theorem exec_visitFeeds_cons (r : Request) (feed : Feed) (feeds : List Feed) (t : σ × Nat) :
    (visitFeeds r (feed :: feeds)).exec (scheduled cancel store) t =
      let (a, u) := (visitFeed r feed).exec (scheduled cancel store) t
      match a.ending with
      | .ok false =>
        let (b, v) := (visitFeeds r feeds).exec (scheduled cancel store) u
        (⟨a.visits ++ b.visits, b.ending⟩, v)
      | _ => (a, u) := by
  simp only [visitFeeds, Dialogue.bind_eq, Dialogue.exec_bind]
  rcases (visitFeed r feed).exec (scheduled cancel store) t with ⟨⟨visits, e | (_ | _)⟩, u⟩
  · rfl
  · simp [Dialogue.exec_bind]
  · rfl

theorem exec_account (r : Request) (t : σ × Nat) :
    (account r).exec (scheduled cancel store) t =
      (visitFeeds r r.selector.feeds).exec (scheduled cancel store) t := by
  simp only [account, Dialogue.bind_eq, Dialogue.exec_bind, exec_report]
  rcases (visitFeeds r r.selector.feeds).exec (scheduled cancel store) t with ⟨⟨visits, _ | _⟩, u⟩
  · rfl
  · simp [Dialogue.exec_bind, exec_report]

theorem exec_run (r : Request) (t : σ × Nat) :
    (run r).exec (scheduled cancel store) t =
      let (a, u) := (visitFeeds r r.selector.feeds).exec (scheduled cancel store) t
      (a.result, u) := by
  rw [run_eq, Dialogue.exec_bind, exec_account]
  rfl

end Scheduled

end Reconcile.Backfill
