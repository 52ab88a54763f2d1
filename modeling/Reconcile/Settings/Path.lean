import Reconcile.Decimal
import Reconcile.Json
import Reconcile.Text.Case

/-! # Paths to settings

    A setting is found by a path: the name of a table or a value, then names and places in lists
    further in, as in `a.b[0]`.  To assign a value at a path makes every value on the way what
    the path takes it for: a table where a name follows, a list that is long enough where a place
    follows.  A table that is assigned over another one is merged with it name by name. -/

namespace Reconcile.Settings

/-! ## Section 1: Tables -/

/-- The entries of a table; anything else has none. -/
def entries (v : Json) : List (String × Json) := (v.members?).getD []

/-- The table with a value under a name; what is no table becomes one. -/
def put (v : Json) (name : String) (value : Json) : Json :=
  .object (Json.insertMember name value (entries v))

/-- The value under a name, or an empty table. -/
def sub (v : Json) (name : String) : Json := (v.member? name).getD (.object [])

mutual

/-- A value laid over an old one. -/
def overlay : (new old : Json) → Json
  | .object ms, old => overlayAll ms old
  | v, _ => v

/-- The entries of a table laid over an old value one by one. -/
def overlayAll : List (String × Json) → (old : Json) → Json
  | [], old => old
  | (name, v) :: ms, old => overlayAll ms (put old name (overlay v (sub old name)))

end

/-! ## Section 2: Lists -/

/-- The items of a list; anything else has none. -/
def items : Json → List Json
  | .array vs => vs
  | _ => []

/-- The index of a place in a list of some length.  A place below zero counts from the end, but
    not beyond the first item. -/
def index (length : Nat) (place : Int) : Nat :=
  if 0 ≤ place then place.toNat else (length + place).toNat

/-- The list with a value at an index; a list that ends before it is filled up with nulls. -/
def putItem (vs : List Json) (n : Nat) (value : Json) : List Json :=
  (vs ++ List.replicate (n + 1 - vs.length) Json.null).set n value

/-! ## Section 3: Paths -/

/-- A step from a value to a part of it. -/
inductive Step where
  /-- To the value under a name of a table. -/
  | name (s : String)
  /-- To an item of a list. -/
  | place (i : Int)
deriving DecidableEq, Repr

/-- Steps from the outside in. -/
abbrev Path := List Step

namespace Path

/-- Characters of a name in a path. -/
def isNameChar (c : Char) : Bool :=
  c.isAlpha || c.isDigit || c == ' ' || c == '_' || c == '-'

/-- Characters that may stand around a place in its brackets. -/
def isGap (c : Char) : Bool := c == ' ' || c == '\t'

/-- A place after its opening bracket, and what follows the closing one.  A place is a whole
    number that 64 bits hold. -/
def place? (s : List Char) : Option (Int × List Char) :=
  let s := s.dropWhile isGap
  let (negative, s) := match s with
    | '-' :: t => (true, t)
    | t => (false, t)
  let ds := s.takeWhile Char.isDigit
  let i := Decimal.withSign negative (Nat.ofDigitChars 10 ds 0)
  match (s.dropWhile Char.isDigit).dropWhile isGap with
  | ']' :: rest => if ds.isEmpty || !Decimal.isWord64 i then none else some (i, rest)
  | _ => none

/-- A name at the start of a text, and what follows it. -/
def name? (s : List Char) : Option (String × List Char) :=
  let name := s.takeWhile isNameChar
  if name.isEmpty then none else some (String.ofList name, s.dropWhile isNameChar)

/-- The steps of a path behind its first name. -/
def tail? : (fuel : Nat) → List Char → Option Path
  | _, [] => some []
  | 0, _ => none
  | fuel + 1, '.' :: s => (name? s).bind fun (n, rest) => (tail? fuel rest).map (.name n :: ·)
  | fuel + 1, '[' :: s => (place? s).bind fun (i, rest) => (tail? fuel rest).map (.place i :: ·)
  | _, _ => none

/-- Reads a path. -/
def read? (s : List Char) : Option Path :=
  (name? s).bind fun (n, rest) => (tail? rest.length rest).map (.name n :: ·)

/-- The path a name stands for; a name that is no path stands for itself. -/
def ofName (s : List Char) : Path := (read? s).getD [.name (String.ofList s)]

end Path

/-- The settings with a value laid over them at a path.  At a place in a list the new value
    replaces the old one, even if both are tables. -/
def assign : (path : Path) → (value root : Json) → Json
  | [], value, root => overlay value root
  | .name n :: path, value, root => put root n (assign path value (sub root n))
  | .place i :: path, value, root =>
    let vs := items root
    let n := index vs.length i
    .array (putItem vs n (if path.isEmpty then value else assign path value (vs.getD n .null)))

end Reconcile.Settings
