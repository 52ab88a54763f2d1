import Reconcile.Text.Blank
import Reconcile.Text.Case

/-! # Codes

    Each closed choice of the domain is written as an upper-case code.  Reading is generous: the
    white space around a code and the case of its letters do not matter.  What is no code of the
    choice is an error that names the choice and repeats the text as it was given. -/

namespace Reconcile

/-- A choice whose alternatives have a written code. -/
class Coded (α : Type) where
  /-- What is chosen, in words. -/
  what : String
  /-- The alternatives, in the order they are tried. -/
  all : List α
  code : α → String

/-- A text that is no code of a choice. -/
structure UnknownCode where
  what : String
  text : String
deriving DecidableEq, Repr

namespace UnknownCode

def message (e : UnknownCode) : String :=
  "unrecognized " ++ e.what ++ " value '" ++ e.text ++ "'"

end UnknownCode

namespace Coded

variable {α : Type} [Coded α]

/-- The alternative with exactly this code. -/
def ofCode? (s : String) : Option α := (all : List α).find? (code · == s)

/-- Reads a code, whatever its case and the white space around it. -/
def read (s : String) : Except UnknownCode α :=
  match ofCode? (Text.asciiUpper (Text.trimmed s)) with
  | some a => .ok a
  | none => .error ⟨what α, s⟩

end Coded

end Reconcile
