import Reconcile.Binary64
import Reconcile.Decimal

/-! # Decimals from binary numbers

    Where a decimal is expected and a binary number is given, the decimal has the sixteen
    significant digits of the number, zeros included. -/

namespace Reconcile.Decimal

open Reconcile.Binary64

/-- How many significant digits are kept. -/
def significantDigits : Nat := 16

/-- The sixteen significant digits of a positive fraction, and the power of ten of the first one.
    Rounding up to the next power of ten gives one digit more, of which the last is zero. -/
def leadingDigits (f : Fraction) : Nat × Int :=
  let e := f.decimalExponent
  let n := (f.scale 10 (significantDigits - 1 - e)).round
  if n = Nat.pow 10 significantDigits then (Nat.pow 10 (significantDigits - 1), e + 1) else (n, e)

/-- The decimal with the sixteen significant digits of a finite number. -/
def ofBinary64 (x : Binary64) : Decimal :=
  if x.isZero then ⟨0, significantDigits - 1⟩
  else
    let (n, e) := leadingDigits x.magnitude
    ⟨withSign x.isNegative n, significantDigits - 1 - e⟩

end Reconcile.Decimal
