/-! # The SHA-1 digest

    Names are turned into stable identifiers by this digest: twenty bytes from any number of
    bytes.  A message is padded to blocks of 64 bytes; each block is stretched to eighty words
    of 32 bits, which are mixed one after another into five words of state. -/

namespace Reconcile.Digest

/-! ## Section 1: Bytes and words -/

/-- The number that bytes give, the most significant one first. -/
def ofBytes (bs : List UInt8) : Nat := bs.foldl (fun n b => n * 256 + b.toNat) 0

/-- The lowest `count` bytes of a number, the most significant one first. -/
def toBytes : (count : Nat) → Nat → List UInt8
  | 0, _ => []
  | k + 1, n => toBytes k (n / 256) ++ [UInt8.ofNat (n % 256)]

/-- A list cut into pieces of `size`; the last one may be shorter.  The first number bounds the
    count of pieces. -/
def cut {α : Type} (size : Nat) : (fuel : Nat) → List α → List (List α)
  | 0, _ => []
  | _, [] => []
  | fuel + 1, xs => xs.take size :: cut size fuel (xs.drop size)

/-- A list cut into pieces of `size`; the last one may be shorter. -/
def pieces {α : Type} (size : Nat) (xs : List α) : List (List α) := cut size xs.length xs

/-- A message with a one bit, as few zero bits as fill the last block, and its length in bits in
    `lengthBytes` bytes. -/
def pad (block lengthBytes : Nat) (message : List UInt8) : List UInt8 :=
  let used := (message.length + 1 + lengthBytes) % block
  let zeros := (block - used) % block
  message ++ 0x80 :: (List.replicate zeros 0 ++ toBytes lengthBytes (message.length * 8))

namespace Sha1

/-! ## Section 2: The digest -/

def rotateLeft (x : UInt32) (n : UInt32) : UInt32 := (x <<< n) ||| (x >>> (32 - n))

/-- Five words of state. -/
structure State where
  a : UInt32
  b : UInt32
  c : UInt32
  d : UInt32
  e : UInt32

def start : State := ⟨0x67452301, 0xEFCDAB89, 0x98BADCFE, 0x10325476, 0xC3D2E1F0⟩

/-- Puts `count` more words in front of a schedule that is held with its last word first. -/
def stretch : (count : Nat) → List UInt32 → List UInt32
  | 0, ws => ws
  | k + 1, ws =>
    let word (i : Nat) := ws.getD i 0
    stretch k (rotateLeft (word 2 ^^^ word 7 ^^^ word 13 ^^^ word 15) 1 :: ws)

/-- The eighty words of a block. -/
def schedule (block : List UInt8) : List UInt32 :=
  (stretch 64 ((pieces 4 block).map fun w => UInt32.ofNat (ofBytes w)).reverse).reverse

/-- The mixing function and the constant of a round. -/
def mix (t : Nat) (s : State) : UInt32 :=
  if t < 20 then ((s.b &&& s.c) ||| (~~~s.b &&& s.d)) + 0x5A827999
  else if t < 40 then (s.b ^^^ s.c ^^^ s.d) + 0x6ED9EBA1
  else if t < 60 then ((s.b &&& s.c) ||| (s.b &&& s.d) ||| (s.c &&& s.d)) + 0x8F1BBCDC
  else (s.b ^^^ s.c ^^^ s.d) + 0xCA62C1D6

def round (s : State) (w : UInt32 × Nat) : State :=
  ⟨rotateLeft s.a 5 + mix w.2 s + s.e + w.1, s.a, rotateLeft s.b 30, s.c, s.d⟩

/-- The state after one more block. -/
def absorb (s : State) (block : List UInt8) : State :=
  let t := (schedule block).zipIdx.foldl round s
  ⟨s.a + t.a, s.b + t.b, s.c + t.c, s.d + t.d, s.e + t.e⟩

end Sha1

/-- The twenty bytes of the SHA-1 digest of a message. -/
def sha1 (message : List UInt8) : List UInt8 :=
  let s := (pieces 64 (pad 64 8 message)).foldl Sha1.absorb Sha1.start
  [s.a, s.b, s.c, s.d, s.e].flatMap fun w => toBytes 4 w.toNat

end Reconcile.Digest
