/-! # Tables of code points

    A class of characters is a list of closed ranges of code points; a mapping of characters is
    a list of spans, each of which moves its members by one fixed distance. -/

namespace Reconcile.Text

/-! ## Section 1: Classes -/

/-- A class of characters, as closed ranges of code points in ascending order. -/
abbrev CodeRanges := List (Nat × Nat)

/-- The character lies in one of the ranges. -/
def CodeRanges.has (t : CodeRanges) (c : Char) : Bool :=
  t.any fun r => r.1 ≤ c.toNat && c.toNat ≤ r.2

/-! ## Section 2: Mappings -/

/-- The code points `first`, `first + stride`, … up to `last`, which go to `image`,
    `image + stride`, … in this order. -/
structure CodeSpan where
  first : Nat
  last : Nat
  stride : Nat
  image : Nat
deriving DecidableEq, Repr

namespace CodeSpan

def has (s : CodeSpan) (n : Nat) : Bool :=
  s.first ≤ n && n ≤ s.last && (n - s.first) % s.stride == 0

def apply (s : CodeSpan) (n : Nat) : Nat :=
  s.image + (n - s.first)

end CodeSpan

/-- Where the spans send a code point, if one of them has it. -/
def CodeSpan.lookup? (spans : List CodeSpan) (n : Nat) : Option Nat :=
  (spans.find? (·.has n)).map (·.apply n)

end Reconcile.Text
