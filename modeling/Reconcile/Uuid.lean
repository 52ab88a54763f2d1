import Reconcile.Digest.Sha1

/-! # Stable identifiers

    Identifiers of 128 bits that are made from a name: the same name in the same namespace gives
    the same identifier on every run. -/

namespace Reconcile

structure Uuid where
  high : UInt64
  low : UInt64
deriving DecidableEq, Repr, Inhabited

namespace Uuid

open Reconcile.Digest

/-! ## Section 1: Bytes and text -/

/-- The sixteen bytes of an identifier. -/
def bytes (u : Uuid) : List UInt8 := toBytes 8 u.high.toNat ++ toBytes 8 u.low.toNat

/-- Two lower-case hexadecimal digits for each byte. -/
def hex (bs : List UInt8) : List Char :=
  bs.flatMap fun b => [Nat.digitChar (b.toNat / 16), Nat.digitChar (b.toNat % 16)]

/-- The lengths of the groups of digits between the hyphens. -/
def groups : List Nat := [8, 4, 4, 4, 12]

/-- A list cut into pieces of the given lengths. -/
def cutAt {α : Type} : List Nat → List α → List (List α)
  | [], _ => []
  | n :: ns, xs => xs.take n :: cutAt ns (xs.drop n)

/-- The written form: lower-case hexadecimal digits in five groups. -/
def text (u : Uuid) : String :=
  String.ofList (['-'].intercalate (cutAt groups (hex u.bytes)))

/-- The value of a hexadecimal digit in either case. -/
def hexValue? (c : Char) : Option Nat :=
  if c.isDigit then some (c.toNat - '0'.toNat)
  else
    let l := c.toLower
    if 'a' ≤ l ∧ l ≤ 'f' then some (l.toNat - 'a'.toNat + 10) else none

/-- The number that hexadecimal digits give. -/
def hexNumber? (ds : List Char) : Option Nat :=
  ds.foldlM (fun n c => (hexValue? c).map (n * 16 + ·)) 0

/-- Reads the written form, digits in either case. -/
def read? (s : String) : Option Uuid :=
  let cs := s.toList
  let ds := cs.filter (· != '-')
  if ds.length = 32 && ['-'].intercalate (cutAt groups ds) = cs then
    match hexNumber? (ds.take 16), hexNumber? (ds.drop 16) with
    | some high, some low => some ⟨UInt64.ofNat high, UInt64.ofNat low⟩
    | _, _ => none
  else none

/-! ## Section 2: Identifiers of names -/

/-- The namespace of object identifiers. -/
def oidNamespace : Uuid := ⟨0x6BA7B8129DAD11D1, 0x80B400C04FD430C8⟩

/-- The identifier of a name in a namespace: the first sixteen bytes of a digest of both, of
    which six bits are set to say how it was made. -/
def ofName (space : Uuid) (name : List UInt8) : Uuid :=
  let d := sha1 (space.bytes ++ name)
  let high := UInt64.ofNat (ofBytes (d.take 8))
  let low := UInt64.ofNat (ofBytes ((d.drop 8).take 8))
  ⟨(high &&& 0xFFFFFFFFFFFF0FFF) ||| 0x5000, (low &&& 0x3FFFFFFFFFFFFFFF) ||| 0x8000000000000000⟩

end Uuid

end Reconcile
