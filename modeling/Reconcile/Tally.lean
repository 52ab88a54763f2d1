import Reconcile.Binary64
import Reconcile.Invoice.Line

/-! # Counting a run

    A run counts the invoices it wrote and skipped, and the lines it wrote by their grade. -/

namespace Reconcile

structure Tally where
  invoices : Nat
  lines : Nat
  skipped : Nat
  okLines : Nat
  warnLines : Nat
deriving DecidableEq, Repr

/-- The outcome of a run in numbers. -/
structure Summary where
  tally : Tally
  /-- The share of graded lines with a warning. -/
  warnRate : Binary64
  /-- The run was stopped before it was through. -/
  cancelled : Bool
deriving DecidableEq, Repr

namespace Tally

def empty : Tally := ⟨0, 0, 0, 0, 0⟩

/-- One more line. -/
def addLine (t : Tally) (line : Line) : Tally :=
  let t := { t with lines := t.lines + 1 }
  match line.grade with
  | .ok => { t with okLines := t.okLines + 1 }
  | .warn => { t with warnLines := t.warnLines + 1 }

/-- One more invoice, with these lines. -/
def addInvoice (t : Tally) (lines : List Line) : Tally :=
  lines.foldl addLine { t with invoices := t.invoices + 1 }

/-- One more invoice that was skipped. -/
def addSkip (t : Tally) : Tally := { t with skipped := t.skipped + 1 }

/-- The share of graded lines with a warning; zero if there is no line. -/
def warnRate (t : Tally) : Binary64 := Binary64.ofQuotient t.warnLines (t.okLines + t.warnLines)

def summary (t : Tally) (cancelled : Bool) : Summary := ⟨t, t.warnRate, cancelled⟩

end Tally

end Reconcile
