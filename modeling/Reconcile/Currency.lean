import Reconcile.Text.Blank
import Reconcile.Text.Case

/-! # Currency codes

    A written currency is trimmed and put into upper case; nothing written is no currency.
    Whether the result is a valid code is a separate question, because a line with a bad code
    and a line without one are graded differently. -/

namespace Reconcile.Currency

open Reconcile.Text

/-- The code for a written currency; none if nothing but white space is written. -/
def normalize? (raw : Option String) : Option String :=
  raw.bind fun s =>
    match trim s.toList with
    | [] => none
    | t => some (String.ofList (upper t))

/-- The 26 capital letters of ASCII. -/
def isCapital (c : Char) : Bool := 'A' ≤ c && c ≤ 'Z'

/-- A valid code: exactly three capital letters. -/
def isValid (code : String) : Bool := code.length == 3 && code.toList.all isCapital

end Reconcile.Currency
