import Reconcile.Text.Case.Upper
import Reconcile.Text.Case.Lower
import Reconcile.Text.Case.Context

/-! # Upper and lower case

    The full case mappings of Unicode, where one character may become several, and the one rule
    of theirs that looks at the neighbours: a capital sigma at the end of a word becomes the
    final small sigma.  Beside them stands the mapping that touches the 26 letters of ASCII
    only, which the codes of this program are compared by. -/

namespace Reconcile.Text

/-! ## Section 1: Single characters -/

/-- The image of a character under a mapping given by spans and expansions; a character that
    neither mentions stays what it is. -/
def mapChar (spans : List CodeSpan) (expansions : List (Nat × List Nat)) (c : Char) : List Char :=
  match CodeSpan.lookup? spans c.toNat with
  | some n => [Char.ofNat n]
  | none =>
    match expansions.lookup c.toNat with
    | some ns => ns.map Char.ofNat
    | none => [c]

/-- The full upper-case form of a character. -/
def upperChar : Char → List Char := mapChar Case.upperSpans Case.upperExpansions

/-- The full lower-case form of a character inside a word. -/
def lowerChar : Char → List Char := mapChar Case.lowerSpans Case.lowerExpansions

/-! ## Section 2: Texts -/

/-- The full upper-case form of a text. -/
def upper (s : List Char) : List Char := s.flatMap upperChar

/-- The first character that is not skipped has a case. -/
def meetsCased (s : List Char) : Bool :=
  match s.dropWhile Case.ignorableRanges.has with
  | [] => false
  | c :: _ => Case.casedRanges.has c

/-- A sigma with these characters before it (nearest first) and after it ends a word: a cased
    letter is met before it and none after it. -/
def endsWord (before after : List Char) : Bool :=
  meetsCased before && !meetsCased after

/-- Lower case of what follows the characters `before`, which are given nearest first. -/
def lowerAfter : (before : List Char) → List Char → List Char
  | _, [] => []
  | before, c :: s =>
    let image := if c = 'Σ' then (if endsWord before s then ['ς'] else ['σ']) else lowerChar c
    image ++ lowerAfter (c :: before) s

/-- The full lower-case form of a text. -/
def lower (s : List Char) : List Char := lowerAfter [] s

/-! ## Section 3: ASCII letters only -/

/-- Upper case of the 26 letters; every other character stays. -/
def asciiUpper (s : String) : String := s.map Char.toUpper

end Reconcile.Text
