import Reconcile.Backfill

/-! # Watching a run

    Whoever watches a run collects its checkpoints and may cancel it: before it starts, while a
    certain checkpoint is reported, or when a certain write begins.  A run only looks between
    two candidates, so a write that has begun is finished. -/

namespace Reconcile.Backfill

/-- When a run is cancelled. -/
structure CancelPlan where
  atStart : Bool
  /-- While this checkpoint is reported, counted from zero. -/
  onCheckpoint : Option Nat
  /-- When this write begins, counted from one. -/
  onWrite : Option Nat
deriving DecidableEq, Repr

/-- The plan of a run that is not cancelled. -/
def CancelPlan.never : CancelPlan := ⟨false, none, none⟩

/-- What the watcher has seen, with the store of the run. -/
structure Watch (σ : Type) where
  store : σ
  cancelled : Bool
  checkpoints : List Checkpoint
  writes : Nat

namespace Watch

variable {σ : Type}

def start (plan : CancelPlan) (store : σ) : Watch σ := ⟨store, plan.atStart, [], 0⟩

/-- The call is a write. -/
def isWrite : Store.Call → Bool
  | .replace .. => true
  | _ => false

/-- Takes note of a call before it is answered. -/
def noteCall (plan : CancelPlan) (c : Store.Call) (w : Watch σ) : Watch σ :=
  if isWrite c then
    let writes := w.writes + 1
    { w with writes := writes, cancelled := w.cancelled || plan.onWrite = some writes }
  else w

/-- Takes note of a checkpoint. -/
def noteCheckpoint (plan : CancelPlan) (c : Checkpoint) (w : Watch σ) : Watch σ :=
  { w with
    checkpoints := w.checkpoints ++ [c]
    cancelled := w.cancelled || plan.onCheckpoint = some w.checkpoints.length }

/-- Answers the questions of a run over a store that answers its calls. -/
def answer (plan : CancelPlan) (store : Dialogue.Answerer Store.Call.Answer σ) :
    Dialogue.Answerer Question.Answer (Watch σ)
  | .store c, w =>
    let w := w.noteCall plan c
    let (a, s) := store c w.store
    (a, { w with store := s })
  | .isCancelled, w => (w.cancelled, w)
  | .report c, w => ((), w.noteCheckpoint plan c)

end Watch

/-- A watched run: how it ended, and what the watcher has seen. -/
def watched {σ : Type} (plan : CancelPlan) (store : Dialogue.Answerer Store.Call.Answer σ)
    (r : Request) (s : σ) : Except RunError Summary × Watch σ :=
  (run r).exec (Watch.answer plan store) (.start plan s)

end Reconcile.Backfill
