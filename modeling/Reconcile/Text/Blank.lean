import Reconcile.Text.Table

/-! # White space

    The characters that separate words (property White_Space of the Unicode character database),
    and the two operations that depend on them: trimming a text at both ends, and splitting it
    into its words. -/

namespace Reconcile.Text

/-! ## Section 1: The class -/

/-- The characters with the property White_Space. -/
def blankRanges : CodeRanges := [
    (0x9, 0xD), (0x20, 0x20), (0x85, 0x85), (0xA0, 0xA0), (0x1680, 0x1680), (0x2000, 0x200A),
    (0x2028, 0x2029), (0x202F, 0x202F), (0x205F, 0x205F), (0x3000, 0x3000)]

/-- The character is white space. -/
def isBlank (c : Char) : Bool := blankRanges.has c

/-- The text holds nothing but white space. -/
def isBlankText (s : String) : Bool := s.toList.all isBlank

/-! ## Section 2: Trimming -/

/-- The text without the white space at its end. -/
def trimEnd : List Char → List Char
  | [] => []
  | c :: s =>
    match trimEnd s with
    | [] => if isBlank c then [] else [c]
    | t => c :: t

/-- The text without the white space at both ends. -/
def trim (s : List Char) : List Char := trimEnd (s.dropWhile isBlank)

/-- The text without the white space at both ends. -/
def trimmed (s : String) : String := String.ofList (trim s.toList)

/-! ## Section 3: Words -/

/-- Puts a character in front of the first word; there is one if there is none yet. -/
def pushFront (c : Char) : List (List Char) → List (List Char)
  | [] => [[c]]
  | w :: ws => (c :: w) :: ws

/-- The maximal runs of characters other than white space, in order. -/
def words : List Char → List (List Char)
  | [] => []
  | c :: s =>
    if isBlank c then words s
    else
      match s with
      | [] => [[c]]
      | d :: _ => if isBlank d then [c] :: words s else pushFront c (words s)

/-- The words of a text with one space between two of them. -/
def squeeze (s : List Char) : List Char := [' '].intercalate (words s)

end Reconcile.Text
