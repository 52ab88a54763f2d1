import Reconcile.Binary64
import Reconcile.Code
import Reconcile.Decimal
import Reconcile.Invoice.Origin
import Reconcile.Unit.Label

/-! # Invoice lines

    A line keeps what the source said, word for word, next to what it was resolved to, and the
    grade it was given with the reasons for it. -/

namespace Reconcile

/-! ## Section 1: Grades and adjustments -/

/-- Whether a line can be relied upon. -/
inductive Grade where
  | ok
  | warn
deriving DecidableEq, Repr

instance : Coded Grade where
  what := "quality status"
  all := [.ok, .warn]
  code
    | .ok => "OK"
    | .warn => "WARN"

/-- Whether a line was changed after the fact: not at all, by hand, or paid back. -/
inductive Adjustment where
  | plain
  | modified
  | credited
deriving DecidableEq, Repr

instance : Coded Adjustment where
  what := "adjustment status"
  all := [.plain, .modified, .credited]
  code
    | .plain => "NONE"
    | .modified => "MODIFIED"
    | .credited => "CREDITED"

/-! ## Section 2: Lines -/

/-- A line of a canonical invoice before it is stored. -/
structure Line where
  number : LineNumber
  origin : Origin
  sourceRef : String
  rawDescription : String
  rawQuantity : Option String
  rawUnit : Option String
  rawUnitPrice : Option String
  rawLineTotal : Option String
  rawProductCode : Option String
  quantity : Option Decimal
  unitPrice : Option Decimal
  lineTotal : Option Decimal
  tax : Option Decimal
  description : String
  unit : Option String
  dimension : Dimension
  currency : Option String
  adjustment : Adjustment
  grade : Grade
  reasons : List String
  confidence : Option Binary64
deriving DecidableEq, Repr

end Reconcile
