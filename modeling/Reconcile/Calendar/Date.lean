import Reconcile.Text.Blank
import Reconcile.Decimal

/-! # Dates

    Dates of the Gregorian calendar, extended to all years.  Days are counted from the first of
    January 1970, which lets instants be moved between time zones. -/

namespace Reconcile

structure Date where
  year : Int
  month : Nat
  day : Nat
deriving DecidableEq, Repr

namespace Date

open Reconcile.Text

/-! ## Section 1: The calendar -/

def isLeap (year : Int) : Bool := year % 4 = 0 && (year % 100 ≠ 0 || year % 400 = 0)

def daysInMonth (year : Int) (month : Nat) : Nat :=
  if month = 2 then (if isLeap year then 29 else 28)
  else if month ∈ [4, 6, 9, 11] then 30 else 31

/-- The first and the last year that are accepted. -/
def yearInRange (year : Int) : Bool := -262143 ≤ year && year ≤ 262142

/-- The date with these parts, if there is one. -/
def ofParts? (year month day : Int) : Option Date :=
  if yearInRange year && 1 ≤ month && month ≤ 12 && 1 ≤ day
      && day ≤ daysInMonth year month.toNat then
    some ⟨year, month.toNat, day.toNat⟩
  else none

/-- Days since the first of January 1970.  Years are counted from March, so that the leap day is
    the last one, in spans of 400 years. -/
def dayNumber (d : Date) : Int :=
  let y := if d.month ≤ 2 then d.year - 1 else d.year
  let era := y.fdiv 400
  let yearOfEra := y - era * 400
  let monthFromMarch : Int := (d.month + 9) % 12
  let dayOfYear : Int := (153 * monthFromMarch + 2) / 5 + d.day - 1
  let dayOfEra := yearOfEra * 365 + yearOfEra / 4 - yearOfEra / 100 + dayOfYear
  era * 146097 + dayOfEra - 719468

/-- The date of a day number. -/
def ofDayNumber (n : Int) : Date :=
  let z := n + 719468
  let era := z.fdiv 146097
  let dayOfEra := z - era * 146097
  let yearOfEra := (dayOfEra - dayOfEra / 1460 + dayOfEra / 36524 - dayOfEra / 146096) / 365
  let dayOfYear := dayOfEra - (365 * yearOfEra + yearOfEra / 4 - yearOfEra / 100)
  let monthFromMarch := (5 * dayOfYear + 2) / 153
  let day := dayOfYear - (153 * monthFromMarch + 2) / 5 + 1
  let month := if monthFromMarch < 10 then monthFromMarch + 3 else monthFromMarch - 9
  let year := yearOfEra + era * 400
  ⟨if month ≤ 2 then year + 1 else year, month.toNat, day.toNat⟩

/-! ## Section 2: Text -/

/-- A number with zeros in front up to a width. -/
def padded (width n : Nat) : List Char :=
  let ds := Nat.toDigits 10 n
  List.replicate (width - ds.length) '0' ++ ds

/-- A year has four digits, or a sign and as many as it needs, at least four. -/
def yearText (year : Int) : List Char :=
  if 0 ≤ year && year ≤ 9999 then padded 4 year.toNat
  else (if year < 0 then '-' else '+') :: padded 4 year.natAbs

def chars (d : Date) : List Char :=
  yearText d.year ++ '-' :: (padded 2 d.month ++ '-' :: padded 2 d.day)

/-- Year, month and day with hyphens between them. -/
def text (d : Date) : String := String.ofList d.chars

/-! ## Section 3: Reading -/

/-- At most `width` digits and at least one, after white space; and what follows them. -/
def number? (width : Nat) (s : List Char) : Option (Int × List Char) :=
  let s := s.dropWhile isBlank
  let ds := (s.takeWhile Char.isDigit).take width
  if ds.isEmpty then none else some (Nat.ofDigitChars 10 ds 0, s.drop ds.length)

/-- A year: four digits, or a sign and any number of digits. -/
def yearNumber? (s : List Char) : Option (Int × List Char) :=
  let digitsAfter (t : List Char) := if t.head?.any Char.isDigit then number? t.length t else none
  match s.dropWhile isBlank with
  | '-' :: t => (digitsAfter t).map fun (n, rest) => (-n, rest)
  | '+' :: t => digitsAfter t
  | t => number? 4 t

/-- The character `c`, after white space; and what follows it. -/
def sign? (c : Char) (s : List Char) : Option (List Char) :=
  match s.dropWhile isBlank with
  | d :: rest => if d = c then some rest else none
  | [] => none

/-- A date at the start of a text, and what follows it. -/
def readFront? (s : List Char) : Option (Date × List Char) := do
  let (year, s) ← yearNumber? s
  let (month, s) ← number? 2 (← sign? '-' s)
  let (day, s) ← number? 2 (← sign? '-' s)
  some (← ofParts? year month day, s)

/-- Reads a date. -/
def read? (s : String) : Option Date :=
  match readFront? s.toList with
  | some (d, rest) => if rest.all isBlank then some d else none
  | none => none

end Date

end Reconcile
