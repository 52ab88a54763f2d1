import Reconcile.Decimal
import Reconcile.Text.Blank

/-! # Amounts as people write them

    Amounts on a scanned invoice come with currency signs, with groups of thousands, with stray
    spaces, and with parentheses around what is owed back.  They are read as decimal text after
    all of that is taken away. -/

namespace Reconcile.Decimal

open Reconcile.Text

/-- Characters that do not count in an amount: currency signs, separators of thousands, and
    white space. -/
def isFiller (c : Char) : Bool := c ∈ ['$', '€', '£', '¥', ',', '_'] || isBlank c

/-- What stands between an opening parenthesis at the start and a closing one at the end. -/
def enclosed? : List Char → Option (List Char)
  | '(' :: s => if s.getLast? = some ')' then some s.dropLast else none
  | _ => none

/-- The amount in a text without its fillers; nothing is no amount. -/
def ofFilled? (s : List Char) : Option Decimal :=
  match s.filter (!isFiller ·) with
  | [] => none
  | t => readChars? t

/-- Reads an amount.  Parentheses around the whole of it negate the value. -/
def amountChars? (raw : List Char) : Option Decimal :=
  let body := trim raw
  match enclosed? body with
  | some inner => (ofFilled? inner).map neg
  | none => ofFilled? body

/-- Reads an amount. -/
def amount? (raw : String) : Option Decimal := amountChars? raw.toList

end Reconcile.Decimal
