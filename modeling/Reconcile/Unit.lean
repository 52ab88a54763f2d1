import Reconcile.Unit.Measure

/-! # The unit of a line

    The label that the line gives counts; only where it gives none is the description searched. -/

namespace Reconcile

/-- A resolved unit: its label, if there is one, and what it measures. -/
structure ResolvedUnit where
  label : Option String
  dimension : Dimension
deriving DecidableEq, Repr

namespace ResolvedUnit

/-- A unit with this label; without a label nothing is known. -/
def ofLabel? : Option String → ResolvedUnit
  | some label => ⟨some label, UnitLabel.dimension label⟩
  | none => ⟨none, .unknown⟩

/-- The unit of a line from its own label or else from its description. -/
def resolve (given : Option String) (description : String) : ResolvedUnit :=
  ofLabel? ((given.bind UnitLabel.canonical?).or (Measure.label? description))

end ResolvedUnit

end Reconcile
