import Reconcile.Description
import Reconcile.Quality
import Reconcile.Unit

/-! # From written lines to graded ones

    The one place where description, unit and currency of a line are resolved and the line is
    graded.  A line without a currency has the currency of its header; the header's code only
    fills the gap and is not checked itself. -/

namespace Reconcile

/-- A line as its source wrote it, with its numbers already read. -/
structure WrittenLine where
  description : String
  unit : Option String
  quantity : Option Decimal
  unitPrice : Option Decimal
  lineTotal : Option Decimal
  currency : Option String
  headerCurrency : Option String
  adjustment : Option Adjustment
  notes : NumericNotes
deriving DecidableEq, Repr

/-- What a written line was resolved to. -/
structure GradedLine where
  rawDescription : String
  description : String
  unit : Option String
  dimension : Dimension
  currency : Option String
  adjustment : Adjustment
  grade : Grade
  reasons : List String
deriving DecidableEq, Repr

namespace WrittenLine

/-- What the quality gate is shown of a line. -/
def facts (w : WrittenLine) : LineFacts where
  quantity := w.quantity
  unitPrice := w.unitPrice
  lineTotal := w.lineTotal
  dimension := (ResolvedUnit.resolve w.unit w.description).dimension
  adjustment := w.adjustment.getD .plain
  lineCurrency := Currency.normalize? w.currency
  headerCurrency := Currency.normalize? w.headerCurrency
  notes := w.notes

/-- Resolves and grades a line. -/
def resolve (w : WrittenLine) : GradedLine :=
  let facts := w.facts
  let verdict := facts.assess
  { rawDescription := w.description
    description := Description.normalize w.description
    unit := (ResolvedUnit.resolve w.unit w.description).label
    dimension := facts.dimension
    currency := facts.lineCurrency.or facts.headerCurrency
    adjustment := facts.adjustment
    grade := verdict.grade
    reasons := verdict.reasons }

end WrittenLine

end Reconcile
