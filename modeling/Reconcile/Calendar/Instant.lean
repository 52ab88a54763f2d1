import Reconcile.Calendar.Date

/-! # Instants

    A point in time: seconds since the start of 1970 in universal time, and nanoseconds.  A leap
    second is the second before it with a thousand million nanoseconds more.  Instants are read
    with any offset from universal time and written without one. -/

namespace Reconcile

structure Instant where
  second : Int
  nano : Nat
deriving DecidableEq, Repr

namespace Instant

open Reconcile.Text

/-! ## Section 1: Order -/

/-- The first instant is not after the second one. -/
def le (a b : Instant) : Bool := a.second < b.second || (a.second = b.second && a.nano ≤ b.nano)

/-- The instant with whole microseconds, counted from the start of the year 2000; what is left
    over is dropped towards that time. -/
def wholeMicros (t : Instant) : Instant :=
  let nanos := (t.second - 946684800) * 1000000000 + t.nano
  let micros := nanos.tdiv 1000
  ⟨946684800 + micros.fdiv 1000000, (micros.fmod 1000000).toNat * 1000⟩

/-! ## Section 2: Text -/

/-- A fraction of a second with none, three, six or nine digits, the fewest that are exact. -/
def fractionText (nano : Nat) : List Char :=
  if nano = 0 then []
  else if nano % 1000000 = 0 then '.' :: Date.padded 3 (nano / 1000000)
  else if nano % 1000 = 0 then '.' :: Date.padded 6 (nano / 1000)
  else '.' :: Date.padded 9 nano

/-- Date and time of day in universal time. -/
def text (t : Instant) : String :=
  let date := Date.ofDayNumber (t.second.fdiv 86400)
  let ofDay := (t.second.fmod 86400).toNat
  let leap := 1000000000 ≤ t.nano
  let second := if leap then ofDay % 60 + 1 else ofDay % 60
  let nano := if leap then t.nano - 1000000000 else t.nano
  String.ofList (date.chars ++ 'T' :: (Date.padded 2 (ofDay / 3600) ++ ':' ::
    (Date.padded 2 (ofDay / 60 % 60) ++ ':' ::
      (Date.padded 2 second ++ fractionText nano ++ ['Z']))))

/-! ## Section 3: Reading -/

/-- The nanoseconds of a fraction, if there is one; digits after the ninth do not count. -/
def fraction? : List Char → Option (Nat × List Char)
  | '.' :: s =>
    let ds := s.takeWhile Char.isDigit
    if ds.isEmpty then none
    else
      let kept := ds.take 9
      some (Nat.ofDigitChars 10 kept 0 * Nat.pow 10 (9 - kept.length), s.drop ds.length)
  | s => some (0, s)

/-- Two digits, and what follows them. -/
def twoDigits? : List Char → Option (Nat × List Char)
  | a :: b :: s =>
    if a.isDigit && b.isDigit then some (Nat.ofDigitChars 10 [a, b] 0, s) else none
  | _ => none

/-- Hours and minutes of an offset in seconds; a colon may stand between them. -/
def offsetBody? (s : List Char) : Option (Int × List Char) := do
  let (hours, s) ← twoDigits? s
  let (minutes, s) ← twoDigits? (s.dropWhile fun c => c == ':' || isBlank c)
  if minutes < 60 then some ((hours * 3600 + minutes * 60 : Nat), s) else none

/-- An offset from universal time in seconds, and what follows it. -/
def offset? (s : List Char) : Option (Int × List Char) :=
  if (s.take 3).map Char.toUpper = ['U', 'T', 'C'] then some (0, s.drop 3)
  else
    match s with
    | 'Z' :: t => some (0, t)
    | 'z' :: t => some (0, t)
    | '+' :: t => offsetBody? t
    | '-' :: t => (offsetBody? t).map fun (n, rest) => (-n, rest)
    | '−' :: t => (offsetBody? t).map fun (n, rest) => (-n, rest)
    | _ => none

/-- The character between date and time, and what follows it. -/
def separator? : List Char → Option (List Char)
  | c :: s => if c ∈ ['T', 't', ' '] then some s else none
  | [] => none

/-- The instant of a local time. -/
def ofLocal? (date : Date) (hour minute second : Int) (nano : Nat) (offset : Int) :
    Option Instant :=
  if hour ≤ 23 && minute ≤ 59 && second ≤ 60 && offset.natAbs < 86400 then
    let leap := second = 60
    let s := if leap then 59 else second
    let n := if leap then nano + 1000000000 else nano
    some ⟨date.dayNumber * 86400 + hour * 3600 + minute * 60 + s - offset, n⟩
  else none

/-- Reads a date, a time of day and an offset. -/
def read? (text : String) : Option Instant := do
  let (date, s) ← Date.readFront? text.toList
  let (hour, s) ← Date.number? 2 (← separator? s)
  let (minute, s) ← Date.number? 2 (← Date.sign? ':' s)
  let (second, s) ← Date.number? 2 (← Date.sign? ':' s)
  let (nano, s) ← fraction? s
  let (offset, s) ← offset? (s.dropWhile isBlank)
  if s.all isBlank then ofLocal? date hour minute second nano offset else none

end Instant

end Reconcile
