/-! # Decimal numbers

    A decimal number is an integer together with a scale, the number of its digits that stand
    behind the point.  The scale is kept as it was written, so `1.50` and `1.5` are different
    decimals of the same value; a negative scale stands for zeros in front of the point. -/

namespace Reconcile

/-- The number `digits / 10 ^ scale`. -/
structure Decimal where
  digits : Int
  scale : Int
deriving DecidableEq, Repr

namespace Decimal

/-! ## Section 1: Sign -/

def isPositive (d : Decimal) : Bool := 0 < d.digits

def isNegative (d : Decimal) : Bool := d.digits < 0

def neg (d : Decimal) : Decimal := { d with digits := -d.digits }

def ofInt (n : Int) : Decimal := ⟨n, 0⟩

/-! ## Section 2: Plain notation -/

/-- The decimal digits of a natural number, without leading zeros. -/
def digitsOf (n : Nat) : List Char := Nat.toDigits 10 n

/-- A natural number with its point `scale` digits from the right: zeros are put behind the
    digits where the scale is negative, and before them where there are too few. -/
def unsignedPlain (n : Nat) (scale : Int) : List Char :=
  let ds := digitsOf n
  if scale ≤ 0 then ds ++ List.replicate scale.natAbs '0'
  else
    let places := scale.toNat
    if ds.length ≤ places then '0' :: '.' :: (List.replicate (places - ds.length) '0' ++ ds)
    else ds.take (ds.length - places) ++ '.' :: ds.drop (ds.length - places)

/-- The number without an exponent.  There is a minus sign only before a number below zero. -/
def plainChars (d : Decimal) : List Char :=
  let body := unsignedPlain d.digits.natAbs d.scale
  if d.isNegative then '-' :: body else body

/-- The number without an exponent, as text. -/
def plain (d : Decimal) : String := String.ofList d.plainChars

/-! ## Section 3: Reading -/

/-- A sign, if there is one, and what follows it. -/
def splitSign : List Char → Bool × List Char
  | '-' :: s => (true, s)
  | '+' :: s => (false, s)
  | s => (false, s)

def withSign (negative : Bool) (n : Nat) : Int := if negative then -n else n

/-- At least one digit, and nothing but digits. -/
def natural? (s : List Char) : Option Nat :=
  if !s.isEmpty && s.all Char.isDigit then some (Nat.ofDigitChars 10 s 0) else none

/-- The integers an exponent can be. -/
def isWord64 (n : Int) : Bool := -9223372036854775808 ≤ n && n ≤ 9223372036854775807

/-- An integer of at most 64 bits with an optional sign. -/
def word64? (s : List Char) : Option Int :=
  let (negative, body) := splitSign s
  (natural? body).bind fun n =>
    if isWord64 (withSign negative n) then some (withSign negative n) else none

/-- An exponent: one plus sign may stand before the integer, which may have a sign itself. -/
def exponent? : List Char → Option Int
  | '+' :: s => word64? s
  | s => word64? s

/-- A run of digits that may be grouped by underscores, but not begin with one. -/
def grouped? : List Char → Option Nat
  | [] => none
  | '_' :: _ => none
  | s =>
    if s.all fun c => c.isDigit || c == '_' then
      some (Nat.ofDigitChars 10 (s.filter (· != '_')) 0)
    else none

/-- A grouped run of digits with an optional sign. -/
def coefficient? (s : List Char) : Option Int :=
  let (negative, body) := splitSign s
  (grouped? body).map (withSign negative)

/-- A base with at most one point that counts, before an exponent of the given value.  The point
    is taken out before the digits are read, so a sign may follow it. -/
def ofBase? (base : List Char) (exponent : Int) : Option Decimal :=
  if base.isEmpty then none
  else
    let whole := base.takeWhile (· != '.')
    let fraction := (base.dropWhile (· != '.')).drop 1
    (coefficient? (whole ++ fraction)).map fun n => ⟨n, fraction.length - exponent⟩

def isExponentMark (c : Char) : Bool := c == 'e' || c == 'E'

/-- Reads decimal text: a base, and an exponent after the first `e` or `E`. -/
def readChars? (s : List Char) : Option Decimal :=
  let base := s.takeWhile (!isExponentMark ·)
  match s.dropWhile (!isExponentMark ·) with
  | [] => ofBase? base 0
  | _ :: e => (exponent? e).bind (ofBase? base)

/-- Reads decimal text. -/
def read? (s : String) : Option Decimal := readChars? s.toList

end Decimal

end Reconcile
