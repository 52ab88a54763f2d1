/-! # Texts from bytes

    The text that a list of bytes stands for in UTF-8, whatever the bytes are.  Where they stand
    for no text, the replacement character takes the place of every longest beginning of a
    character, and of every byte that begins none. -/

namespace Reconcile.Text.Utf8

/-! ## Section 1: One byte after another -/

/-- The beginning of a character: the bits so far, the number of bytes to come, and the range of
    the next one. -/
structure Partial where
  bits : Nat
  left : Nat
  low : Nat
  high : Nat

/-- The beginning of a character of more than one byte. -/
def lead? (b : Nat) : Option Partial :=
  if b < 0xC2 then none
  else if b < 0xE0 then some ⟨b % 32, 1, 0x80, 0xBF⟩
  else if b < 0xF0 then
    some ⟨b % 16, 2, if b = 0xE0 then 0xA0 else 0x80, if b = 0xED then 0x9F else 0xBF⟩
  else if b < 0xF5 then
    some ⟨b % 8, 3, if b = 0xF0 then 0x90 else 0x80, if b = 0xF4 then 0x8F else 0xBF⟩
  else none

/-- What stands where bytes stand for nothing. -/
def replacement : Char := '\uFFFD'

/-- The characters of a byte between two characters, and the character that begins with it. -/
def start (b : Nat) : List Char × Option Partial :=
  if b < 0x80 then ([Char.ofNat b], none)
  else
    match lead? b with
    | some p => ([], some p)
    | none => ([replacement], none)

/-- The characters of a byte after the beginning of a character, and what begins with it. -/
def extend (p : Partial) (b : Nat) : List Char × Option Partial :=
  if p.low ≤ b && b ≤ p.high then
    let bits := p.bits * 64 + b % 64
    if p.left = 1 then ([Char.ofNat bits], none) else ([], some ⟨bits, p.left - 1, 0x80, 0xBF⟩)
  else
    let (cs, next) := start b
    (replacement :: cs, next)

/-! ## Section 2: Texts -/

/-- The characters of bytes that follow the beginning of a character, if there is one. -/
def decodeAfter : Option Partial → List UInt8 → List Char
  | none, [] => []
  | some _, [] => [replacement]
  | p, b :: bs =>
    let (cs, next) := match p with
      | none => start b.toNat
      | some p => extend p b.toNat
    cs ++ decodeAfter next bs

/-- The text that bytes stand for. -/
def decode (bs : List UInt8) : List Char := decodeAfter none bs

end Reconcile.Text.Utf8
