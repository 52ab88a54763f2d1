import Reconcile.Decimal

/-! # Decimals in a numeric column

    A numeric column holds a number in base 10000, so the scale it was written with is lost: the
    number comes back with the least multiple of four decimal places that holds it.  On the way
    in the column is given plain notation, in which no scale is negative. -/

namespace Reconcile.Decimal

/-- The decimal with scale zero instead of a negative one. -/
def unscaled (d : Decimal) : Decimal :=
  if d.scale < 0 then ⟨d.digits * Int.pow 10 d.scale.natAbs, 0⟩ else d

/-- The decimal with the least scale that holds its value, looked for below `scale`. -/
def reduced (digits : Int) : (scale : Nat) → Decimal
  | 0 => ⟨digits, 0⟩
  | n + 1 => if digits % 10 = 0 then reduced (digits / 10) n else ⟨digits, n + 1⟩

/-- The decimal that a numeric column gives back. -/
def stored (d : Decimal) : Decimal :=
  let u := d.unscaled
  let r := reduced u.digits u.scale.toNat
  if r.digits = 0 then ⟨0, 0⟩
  else
    let places := (r.scale.toNat + 3) / 4 * 4
    ⟨r.digits * Int.pow 10 (places - r.scale.toNat), places⟩

/-- What a numeric parameter shows. -/
def shown (d : Decimal) : String :=
  if d.digits = 0 && d.scale < 0 then "0" else d.unscaled.plain

end Reconcile.Decimal
