/-! # Binary floating-point numbers

    A number of 64 bits in the binary format: a sign, eleven bits of exponent and 52 bits of
    fraction.  It is held as its bits, so that two of them are equal only if they are the same
    number with the same sign.  All arithmetic on them here is exact: a fraction of two natural
    numbers is rounded to the nearest number of the format. -/

namespace Reconcile

structure Binary64 where
  bits : UInt64
deriving DecidableEq, Repr, Inhabited

namespace Binary64

/-! ## Section 1: Parts -/

def zero : Binary64 := ⟨0⟩

def isNegative (x : Binary64) : Bool := x.bits.toNat / Nat.pow 2 63 == 1

/-- The exponent field. -/
def exponentField (x : Binary64) : Nat := x.bits.toNat / Nat.pow 2 52 % Nat.pow 2 11

/-- The fraction field. -/
def fractionField (x : Binary64) : Nat := x.bits.toNat % Nat.pow 2 52

/-- The number is neither infinite nor undefined. -/
def isFinite (x : Binary64) : Bool := x.exponentField != 2047

/-- A finite number is `significand * 2 ^ exponent`, up to its sign. -/
def significand (x : Binary64) : Nat :=
  if x.exponentField = 0 then x.fractionField else Nat.pow 2 52 + x.fractionField

/-- A finite number is `significand * 2 ^ exponent`, up to its sign. -/
def exponent (x : Binary64) : Int :=
  if x.exponentField = 0 then -1074 else x.exponentField - 1075

def isZero (x : Binary64) : Bool := x.exponentField = 0 && x.fractionField = 0

/-- The number with the opposite sign. -/
def neg (x : Binary64) : Binary64 := ⟨x.bits ^^^ 0x8000000000000000⟩

/-! ## Section 2: Fractions -/

/-- A fraction of natural numbers. -/
structure Fraction where
  num : Nat
  den : Nat
deriving DecidableEq, Repr

namespace Fraction

/-- The fraction times `base ^ power`. -/
def scale (f : Fraction) (base : Nat) (power : Int) : Fraction :=
  if 0 ≤ power then ⟨f.num * Nat.pow base power.toNat, f.den⟩
  else ⟨f.num, f.den * Nat.pow base (-power).toNat⟩

def floor (f : Fraction) : Nat := f.num / f.den

/-- The nearest natural number; of two that are equally near, the even one. -/
def round (f : Fraction) : Nat :=
  let q := f.num / f.den
  let twice := 2 * (f.num % f.den)
  if f.den < twice || (twice = f.den && q % 2 = 1) then q + 1 else q

/-- The value is at least `10 ^ power`. -/
def reachesPower (f : Fraction) (power : Int) : Bool :=
  (f.scale 10 (-power)).den ≤ (f.scale 10 (-power)).num

/-- The number of leading powers that are reached, from `start` upwards, at most `steps`. -/
def climb (f : Fraction) : (steps : Nat) → (start : Int) → Int
  | 0, k => k
  | n + 1, k => if f.reachesPower (k + 1) then climb f n (k + 1) else k

/-- The largest power of ten that a positive fraction reaches.  The logarithms of its two parts
    give it up to three. -/
def decimalExponent (f : Fraction) : Int :=
  let binary : Int := (f.num.log2 : Int) - (f.den.log2 : Int) - 1
  f.climb 4 ((binary * 30103).fdiv 100000 - 1)

/-- The positive number of the format nearest to a fraction; the largest ones round to
    infinity. -/
def toBinary64 (f : Fraction) : Binary64 :=
  if f.num = 0 then Binary64.zero
  else
    let guess : Int := (f.num.log2 : Int) - (f.den.log2 : Int) - 52
    let exact : Int := if (f.scale 2 (-guess)).floor < Nat.pow 2 52 then guess - 1 else guess
    let e : Int := max exact (-1074)
    let m := (f.scale 2 (-e)).round
    let field : Nat := if m < Nat.pow 2 52 then m
      else (e + 1075).toNat * Nat.pow 2 52 + (m - Nat.pow 2 52)
    ⟨UInt64.ofNat (min field (2047 * Nat.pow 2 52))⟩

end Fraction

/-- The value of a finite number without its sign. -/
def magnitude (x : Binary64) : Fraction := Fraction.scale ⟨x.significand, 1⟩ 2 x.exponent

/-- The number nearest to the quotient of two natural numbers; zero if the divisor is zero. -/
def ofQuotient (num den : Nat) : Binary64 :=
  if den = 0 then zero else (Fraction.mk num den).toBinary64

/-- The number nearest to an integer. -/
def ofInt (n : Int) : Binary64 :=
  if n < 0 then (ofQuotient n.natAbs 1).neg else ofQuotient n.natAbs 1

/-- The number nearest to `digits * 10 ^ power`, or none if it is too large for the format.
    Powers that leave no doubt are answered without computing them. -/
def ofDigits? (digits : Nat) (power : Int) : Option Binary64 :=
  let reach := (Nat.toDigits 10 digits).length + power
  if digits = 0 || reach < -400 then some zero
  else if 400 < reach then none
  else
    let x := (Fraction.scale ⟨digits, 1⟩ 10 power).toBinary64
    if x.isFinite then some x else none

end Binary64

end Reconcile
