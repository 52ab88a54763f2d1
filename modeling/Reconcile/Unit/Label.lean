import Reconcile.Code

/-! # Unit labels

    A unit of measure is known by a label.  Suppliers write the same unit in many ways; a table
    of synonyms sends each known spelling to its label, and a label that the table does not
    know is kept as it is written, in upper case.  A label says what dimension is measured. -/

namespace Reconcile

/-! ## Section 1: Dimensions -/

/-- What a quantity measures. -/
inductive Dimension where
  | weight
  | volume
  | count
  | unknown
deriving DecidableEq, Repr

instance : Coded Dimension where
  what := "unit category"
  all := [.weight, .volume, .count, .unknown]
  code
    | .weight => "WEIGHT"
    | .volume => "VOLUME"
    | .count => "UNIT"
    | .unknown => "UNKNOWN"

namespace UnitLabel

/-! ## Section 2: The table of synonyms -/

/-- Known spellings and the label each of them stands for. -/
def synonyms : List (String × String) := [
  ("KG", "KG"), ("KGS", "KG"), ("KILO", "KG"), ("KILOS", "KG"), ("KILOGRAM", "KG"),
  ("KILOGRAMS", "KG"),
  ("G", "G"), ("GR", "G"), ("GM", "G"), ("GRAM", "G"), ("GRAMS", "G"),
  ("L", "L"), ("LT", "L"), ("LTR", "L"), ("LITRE", "L"), ("LITRES", "L"), ("LITER", "L"),
  ("LITERS", "L"),
  ("ML", "ML"), ("MILLILITRE", "ML"), ("MILLILITRES", "ML"), ("MILLILITER", "ML"),
  ("MILLILITERS", "ML"),
  ("EACH", "EACH"), ("EA", "EACH"),
  ("UNIT", "UNIT"), ("UNITS", "UNIT"),
  ("PC", "PC"), ("PCS", "PC"), ("PIECE", "PC"), ("PIECES", "PC"),
  ("DOZEN", "DOZEN"), ("DZ", "DOZEN"),
  ("PACK", "PACK"), ("PK", "PACK"),
  ("BOX", "BOX"), ("CASE", "CASE"), ("CTN", "CARTON"), ("CARTON", "CARTON"),
  ("BOTTLE", "BOTTLE"), ("BTL", "BOTTLE"), ("BUNCH", "BUNCH"), ("TRAY", "TRAY")]

/-- The label a known spelling stands for. -/
def ofSpelling? (s : String) : Option String := synonyms.lookup s

/-! ## Section 3: Labels and their dimension -/

/-- The dimension of a label: weights and volumes are named, every other label of the table
    counts pieces, and a label outside the table has no known dimension. -/
def dimension (label : String) : Dimension :=
  if label ∈ ["KG", "G"] then .weight
  else if label ∈ ["L", "ML"] then .volume
  else if label ∈ synonyms.map (·.2) then .count
  else .unknown

/-- A written label in the form the table is asked for: runs of white space are one space, full
    stops at the end are gone, letters are in upper case. -/
def tidy (raw : String) : String :=
  let spaced := Text.squeeze raw.toList
  Text.asciiUpper (String.ofList (spaced.reverse.dropWhile (· == '.')).reverse)

/-- The label for a written unit; none if nothing is written. -/
def canonical? (raw : String) : Option String :=
  let label := tidy raw
  if label.isEmpty then none else some ((ofSpelling? label).getD label)

end UnitLabel

end Reconcile
