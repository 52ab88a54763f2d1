import Reconcile.Text.Pattern
import Reconcile.Unit.Label

/-! # Measures in a description

    A line whose unit is not given may tell it in its description: `Ham Leg 2kg`.  A measure is
    a number and one of the listed unit words, which must end where the word ends.  A pack, such
    as `2 x 2.5kg`, gives a size for each of several pieces, so the unit of the line cannot be
    told from it; a description with a pack in it yields none at all. -/

namespace Reconcile.Measure

open Reconcile.Text

/-! ## Section 1: The parts of a measure -/

/-- The unit words a description is searched for, longer ones before their beginnings. -/
def unitWords : List String := [
  "kilograms", "kilogram", "kilos", "kilo", "kgs", "kg",
  "grams", "gram", "gm", "gr", "g",
  "millilitres", "millilitre", "milliliters", "milliliter", "ml",
  "litres", "litre", "liters", "liter", "ltr", "lt", "l",
  "each", "ea", "units", "unit"]

/-- Equality of a small letter with a character, up to simple case folding: the Kelvin sign is
    a form of `k` and the long s is a form of `s`. -/
def sameLetter (letter c : Char) : Bool :=
  c == letter || c == letter.toUpper || (letter == 'k' && c == '\u212A')
    || (letter == 's' && c == '\u017F')

/-- One of the unit words, in any case. -/
def unitWord : Pattern := .anyOf (unitWords.map fun w => .spelled sameLetter w.toList)

/-- A decimal point or a decimal comma. -/
def isPoint (c : Char) : Bool := c == '.' || c == ','

/-- A measure begins at the start of the text or after a character that does not continue a
    number; that character is read as well. -/
def lead : Pattern := .orElse .start (.one fun c => !(isDigit c || isPoint c))

/-- Digits with an optional fraction. -/
def number : Pattern :=
  .andThen (.run isDigit) (.optional (.andThen (.one isPoint) (.run isDigit)))

/-- Any amount of white space. -/
def gap : Pattern := .many isBlank

/-- The signs that stand between the number of pieces and their size. -/
def isTimes (c : Char) : Bool := c == 'x' || c == 'X' || c == '×' || c == '*'

/-! ## Section 2: Measures and packs -/

/-- What stands before the unit word of a measure. -/
def upToUnit : Pattern := .andThen lead (.andThen number gap)

/-- A pack: a whole number of pieces, a sign, and the measure of one piece. -/
def pack : Pattern :=
  .andThen lead <| .andThen (.run isDigit) <| .andThen gap <| .andThen (.one isTimes) <|
    .andThen gap <| .andThen number <| .andThen gap <| .andThen unitWord .wordEdge

/-- The unit word of the first measure in a description. -/
def word? (description : List Char) : Option (List Char) :=
  Pattern.capture? upToUnit unitWord .wordEdge description

/-- The unit label that a description tells; none if there is a pack in it. -/
def label? (description : String) : Option String :=
  if pack.occursIn description.toList then none
  else (word? description.toList).bind fun w =>
    UnitLabel.ofSpelling? (asciiUpper (String.ofList w))

end Reconcile.Measure
