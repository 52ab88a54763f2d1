import Reconcile.Binary64

/-! # The shortest decimal text of a number

    A binary number is written with the fewest decimal digits that are read back as the same
    number, and of those with the digits nearest to its value.  The real numbers that are read
    as a given binary number form an interval around it; for each number of digits only the two
    neighbours of the value on that decimal grid can be the nearest ones in the interval. -/

namespace Reconcile.Binary64

/-! ## Section 1: The interval of a number -/

/-- The numbers that round to `x`, as four times the significand units of `x`: the ends of the
    interval are `4 m - low` and `4 m + 2` quarters of a unit. -/
def lowQuarters (x : Binary64) : Nat :=
  if x.fractionField = 0 && 1 < x.exponentField then 1 else 2

/-- The decimal number `d * 10 ^ power` is read back as the positive number `x`.  An end of the
    interval belongs to it when the significand is even. -/
def readsBack (x : Binary64) (d : Nat) (power : Int) : Bool :=
  let quarters := (Fraction.scale ⟨d * 4, 1⟩ 10 power).scale 2 (-x.exponent)
  let value := quarters.num
  let low := (4 * x.significand - x.lowQuarters) * quarters.den
  let high := (4 * x.significand + 2) * quarters.den
  if x.significand % 2 = 0 then low ≤ value && value ≤ high else low < value && value < high

/-! ## Section 2: The shortest digits -/

/-- Digits without a point, and the power of ten they are multiplied by. -/
structure Digits where
  coefficient : Nat
  power : Int
deriving DecidableEq, Repr

/-- Which of two equally near numbers of a grid is taken. -/
inductive Tie where
  | even
  | up
deriving DecidableEq, Repr

/-- The number below is taken rather than the one above it. -/
def takesBelow (tie : Tie) (below : Nat) (f : Fraction) : Bool :=
  let twice := 2 * (f.num % f.den)
  twice < f.den || (twice = f.den && tie = .even && below % 2 = 0)

/-- The nearest number of the grid `10 ^ power` that is read back as `x`, if there is one. -/
def onGrid? (tie : Tie) (x : Binary64) (power : Int) : Option Digits :=
  let f := x.magnitude.scale 10 (-power)
  let below := f.floor
  let candidates :=
    if takesBelow tie below f then [below, below + 1] else [below + 1, below]
  (candidates.find? fun d => x.readsBack d power).map fun d => ⟨d, power⟩

/-- The first grid, from the coarse ones to the fine ones, with a number that is read back.  At
    the latest this is the one with seventeen digits. -/
def firstGrid (tie : Tie) (x : Binary64) (top : Int) : (left : Nat) → (digits : Nat) → Digits
  | 0, n => ⟨(x.magnitude.scale 10 (n - 1 - top)).round, top + 1 - n⟩
  | left + 1, n =>
    match onGrid? tie x (top + 1 - n) with
    | some d => d
    | none => firstGrid tie x top left (n + 1)

/-- The same number without zeros at the end of its digits. -/
def Digits.strip : (fuel : Nat) → Digits → Digits
  | 0, d => d
  | fuel + 1, d =>
    if d.coefficient ≠ 0 && d.coefficient % 10 = 0 then
      strip fuel ⟨d.coefficient / 10, d.power + 1⟩
    else d

/-- So many digits tell any two numbers apart. -/
def maxDigits : Nat := 17

/-- The shortest digits of a finite number other than zero, without its sign. -/
def shortest (tie : Tie) (x : Binary64) : Digits :=
  (firstGrid tie x x.magnitude.decimalExponent maxDigits 1).strip 20

/-! ## Section 3: Texts -/

/-- Digits with the point `point` places from their start, and at least one digit on both sides
    of it. -/
def positional (ds : List Char) (point : Int) : List Char :=
  if point ≤ 0 then '0' :: '.' :: (List.replicate (-point).toNat '0' ++ ds)
  else
    let n := point.toNat
    if ds.length ≤ n then ds ++ List.replicate (n - ds.length) '0' ++ ['.', '0']
    else ds.take n ++ '.' :: ds.drop n

/-- One digit before the point, and a signed exponent. -/
def scientific (ds : List Char) (exponent : Int) : List Char :=
  let mantissa := match ds with
    | [] => []
    | [d] => [d]
    | d :: rest => d :: '.' :: rest
  mantissa ++ 'e' :: (if exponent < 0 then '-' else '+') :: Nat.toDigits 10 exponent.natAbs

def withSign (x : Binary64) (s : List Char) : String :=
  String.ofList (if x.isNegative then '-' :: s else s)

/-- The text of a finite number: positional, always with a point, if the point is more than
    `lowest` and at most sixteen places from the start of the digits, and with an exponent
    otherwise. -/
def textAbove (tie : Tie) (lowest : Int) (x : Binary64) : String :=
  x.withSign <|
    if x.isZero then ['0', '.', '0']
    else
      let d := shortest tie x
      let ds := Nat.toDigits 10 d.coefficient
      let point := ds.length + d.power
      if lowest < point && point ≤ 16 then positional ds point else scientific ds (point - 1)

/-- The text of a finite number in a record: positional from `0.00001` up to sixteen digits
    before the point. -/
def text (x : Binary64) : String := textAbove .even (-5) x

/-- The text of a finite number in positional notation, without a point if it is whole. -/
def wholeText (x : Binary64) : String :=
  x.withSign <|
    if x.isZero then ['0']
    else
      let d := shortest .up x
      let ds := Nat.toDigits 10 d.coefficient
      if 0 ≤ d.power then ds ++ List.replicate d.power.toNat '0'
      else positional ds (ds.length + d.power)

end Reconcile.Binary64
