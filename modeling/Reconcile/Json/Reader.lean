import Reconcile.Decimal
import Reconcile.Json

/-! # Reading JSON text

    The reader takes exactly the JSON grammar: no leading zeros, no control characters inside
    quotes, escaped surrogates only in pairs, nothing but white space after the value.  Values
    may be nested up to 127 deep.  A number without a point and an exponent is whole if 64 bits
    hold it, with or without a sign; minus zero, and every other number, is floating-point, and
    one that is too large for that is refused. -/

namespace Reconcile.Json

/-! ## Section 1: Numbers -/

def isSpace (c : Char) : Bool := c == ' ' || c == '\t' || c == '\n' || c == '\r'

def skipSpace (s : List Char) : List Char := s.dropWhile isSpace

/-- A run of digits and what follows it. -/
def digits (s : List Char) : List Char × List Char :=
  (s.takeWhile Char.isDigit, s.dropWhile Char.isDigit)

/-- The digits behind a point, if there is a point; there must be some. -/
def fraction? : List Char → Option (List Char × List Char)
  | '.' :: s =>
    let (ds, rest) := digits s
    if ds.isEmpty then none else some (ds, rest)
  | s => some ([], s)

/-- The value of an exponent, if there is one. -/
def exponentPart? : List Char → Option (Option Int × List Char)
  | c :: s =>
    if c == 'e' || c == 'E' then
      let (negative, body) := Decimal.splitSign s
      let (ds, rest) := digits body
      if ds.isEmpty then none
      else some (some (Decimal.withSign negative (Nat.ofDigitChars 10 ds 0)), rest)
    else some (none, c :: s)
  | [] => some (none, [])

/-- The value with these digits before and behind the point, and this exponent. -/
def numberOf? (negative : Bool) (whole frac : List Char) (exponent : Option Int) : Option Json :=
  let n := Nat.ofDigitChars 10 whole 0
  let signed := Decimal.withSign negative n
  if frac.isEmpty && exponent.isNone && (Decimal.isWord64 signed || (!negative && n < Nat.pow 2 64))
      && !(negative && n = 0) then
    some (.integer signed)
  else
    let all := Nat.ofDigitChars 10 (whole ++ frac) 0
    (Binary64.ofDigits? all (exponent.getD 0 - frac.length)).map fun x =>
      .float (if negative then x.neg else x)

/-- A number and what follows it. -/
def number? (s : List Char) : Option (Json × List Char) := do
  let (negative, body) := match s with
    | '-' :: t => (true, t)
    | t => (false, t)
  let (whole, rest) := digits body
  if whole.isEmpty || (whole.head? = some '0' && whole.length ≠ 1) then none
  let (frac, rest) ← fraction? rest
  let (exponent, rest) ← exponentPart? rest
  let v ← numberOf? negative whole frac exponent
  some (v, rest)

/-! ## Section 2: Texts -/

def hexDigit? (c : Char) : Option Nat :=
  if '0' ≤ c ∧ c ≤ '9' then some (c.toNat - '0'.toNat)
  else if 'a' ≤ c ∧ c ≤ 'f' then some (c.toNat - 'a'.toNat + 10)
  else if 'A' ≤ c ∧ c ≤ 'F' then some (c.toNat - 'A'.toNat + 10)
  else none

/-- The number that four hexadecimal digits give. -/
def unit? (a b c d : Char) : Option Nat := do
  some (((← hexDigit? a) * 16 + (← hexDigit? b)) * 256 + (← hexDigit? c) * 16 + (← hexDigit? d))

def simpleEscape? : Char → Option Char
  | '"' => some '"'
  | '\\' => some '\\'
  | '/' => some '/'
  | 'b' => some '\x08'
  | 'f' => some '\x0c'
  | 'n' => some '\n'
  | 'r' => some '\r'
  | 't' => some '\t'
  | _ => none

def isHighSurrogate (n : Nat) : Bool := 0xD800 ≤ n && n ≤ 0xDBFF

def isLowSurrogate (n : Nat) : Bool := 0xDC00 ≤ n && n ≤ 0xDFFF

/-- The rest of a text after its opening quote, with what was read of it so far, last first. -/
def textTail? : (done : List Char) → List Char → Option (List Char × List Char)
  | done, '"' :: s => some (done.reverse, s)
  | done, '\\' :: 'u' :: a :: b :: c :: d :: s =>
    match unit? a b c d with
    | none => none
    | some n =>
      if isHighSurrogate n then
        match s with
        | '\\' :: 'u' :: e :: f :: g :: h :: t =>
          match unit? e f g h with
          | none => none
          | some m =>
            if isLowSurrogate m then
              textTail? (Char.ofNat (0x10000 + (n - 0xD800) * 1024 + (m - 0xDC00)) :: done) t
            else none
        | _ => none
      else if isLowSurrogate n then none
      else textTail? (Char.ofNat n :: done) s
  | done, '\\' :: e :: s =>
    match simpleEscape? e with
    | none => none
    | some c => textTail? (c :: done) s
  | done, c :: s => if c.toNat < 32 then none else textTail? (c :: done) s
  | _, [] => none

/-! ## Section 3: Values -/

/-- A bare word of the grammar and what follows it. -/
def word? (w : String) (v : Json) (s : List Char) : Option (Json × List Char) :=
  let n := w.toList.length
  if s.take n = w.toList then some (v, s.drop n) else none

mutual

/-- A value and what follows it.  The first number bounds the steps, the second the nesting. -/
def value? : (fuel depth : Nat) → List Char → Option (Json × List Char)
  | 0, _, _ => none
  | fuel + 1, depth, s =>
    match skipSpace s with
    | 'n' :: t => word? "null" .null ('n' :: t)
    | 't' :: t => word? "true" (.bool true) ('t' :: t)
    | 'f' :: t => word? "false" (.bool false) ('f' :: t)
    | '"' :: t => (textTail? [] t).map fun (cs, rest) => (.text (String.ofList cs), rest)
    | '[' :: t =>
      match depth with
      | 0 => none
      | depth + 1 =>
        match skipSpace t with
        | ']' :: rest => some (.array [], rest)
        | t => (items? fuel depth t).map fun (vs, rest) => (.array vs, rest)
    | '{' :: t =>
      match depth with
      | 0 => none
      | depth + 1 =>
        match skipSpace t with
        | '}' :: rest => some (ofMembers [], rest)
        | t => (memberList? fuel depth t).map fun (ms, rest) => (ofMembers ms, rest)
    | t => number? t

/-- The values of an array from the next one on, and what follows the array. -/
def items? : (fuel depth : Nat) → List Char → Option (List Json × List Char)
  | 0, _, _ => none
  | fuel + 1, depth, s =>
    match value? fuel depth s with
    | none => none
    | some (v, rest) =>
      match skipSpace rest with
      | ']' :: t => some ([v], t)
      | ',' :: t => (items? fuel depth t).map fun (vs, rest) => (v :: vs, rest)
      | _ => none

/-- The members of an object from the next one on, and what follows the object. -/
def memberList? : (fuel depth : Nat) → List Char → Option (List (String × Json) × List Char)
  | 0, _, _ => none
  | fuel + 1, depth, s =>
    match skipSpace s with
    | '"' :: t =>
      match textTail? [] t with
      | none => none
      | some (name, rest) =>
        match skipSpace rest with
        | ':' :: t =>
          match value? fuel depth t with
          | none => none
          | some (v, rest) =>
            let m := (String.ofList name, v)
            match skipSpace rest with
            | '}' :: t => some ([m], t)
            | ',' :: t => (memberList? fuel depth t).map fun (ms, rest) => (m :: ms, rest)
            | _ => none
        | _ => none
    | _ => none

end

/-- How deep values may be nested. -/
def maxDepth : Nat := 127

/-- Reads a JSON text. -/
def read? (s : String) : Option Json :=
  let cs := s.toList
  match value? (cs.length + 1) maxDepth cs with
  | some (v, rest) => if (skipSpace rest).isEmpty then some v else none
  | none => none

end Reconcile.Json
