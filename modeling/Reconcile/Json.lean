import Reconcile.Binary64.Shortest
import Reconcile.Pairs

/-! # JSON values

    A scanned invoice carries what the recognition service found as a JSON value.  Whole numbers
    are kept apart from numbers with a fraction or an exponent, and the members of an object are
    kept in the order of their names, each name once. -/

namespace Reconcile

/-! ## Section 1: Values -/

inductive Json where
  | null
  | bool (b : Bool)
  | integer (n : Int)
  | float (x : Binary64)
  | text (s : String)
  | array (items : List Json)
  | object (members : List (String × Json))
deriving Repr, Inhabited

namespace Json

open Pairs

/-- Puts a member at its place among members sorted by name; an old member of the same name
    goes. -/
def insertMember (name : String) (value : Json) : List (String × Json) → List (String × Json)
  | [] => [(name, value)]
  | m :: ms =>
    if name = m.1 then (name, value) :: ms
    else if name < m.1 then (name, value) :: m :: ms
    else m :: insertMember name value ms

theorem lookup_insertMember (name other : String) (value : Json) (ms : List (String × Json)) :
    (insertMember name value ms).lookup other =
      if other = name then some value else ms.lookup other := by
  induction ms with
  | nil => simp [insertMember, lookup_cons_ite]
  | cons m ms ih =>
    obtain ⟨n, v⟩ := m
    by_cases hn : name = n
    · subst hn
      by_cases h : other = name <;> simp [insertMember, lookup_cons_ite, h]
    · by_cases hlt : name < n
      · simp [insertMember, lookup_cons_ite, hn, hlt]
      · by_cases h : other = n
        · subst h
          simp [insertMember, hn, hlt, Ne.symm hn]
        · simp [insertMember, lookup_cons_ite, hn, hlt, h, ih]

/-- The object with these members; of two with the same name the later one counts. -/
def ofMembers (members : List (String × Json)) : Json :=
  .object (members.foldl (fun ms m => insertMember m.1 m.2 ms) [])

/-- The members of an object. -/
def members? : Json → Option (List (String × Json))
  | .object ms => some ms
  | _ => none

/-- The member of this name; any other value than an object has none. -/
def member? (name : String) : Json → Option Json
  | .object ms => ms.lookup name
  | _ => none

/-! ## Section 2: Compact text -/

/-- The four hexadecimal digits of a character below U+10000. -/
def hexDigits (n : Nat) : List Char :=
  [n / 4096 % 16, n / 256 % 16, n / 16 % 16, n % 16].map Nat.digitChar

/-- A character as it stands inside quotes: only quotes, backslashes and control characters are
    escaped. -/
def escape (c : Char) : List Char :=
  match c with
  | '"' => ['\\', '"']
  | '\\' => ['\\', '\\']
  | '\n' => ['\\', 'n']
  | '\r' => ['\\', 'r']
  | '\t' => ['\\', 't']
  | '\x08' => ['\\', 'b']
  | '\x0c' => ['\\', 'f']
  | c => if c.toNat < 32 then '\\' :: 'u' :: hexDigits c.toNat else [c]

/-- A text in quotes. -/
def quote (s : String) : String :=
  "\"" ++ String.ofList (s.toList.flatMap escape) ++ "\""

mutual

/-- The value without any white space, members in order. -/
def compact : Json → String
  | .null => "null"
  | .bool true => "true"
  | .bool false => "false"
  | .integer n => toString n
  | .float x => x.text
  | .text s => quote s
  | .array items => "[" ++ ",".intercalate (compactItems items) ++ "]"
  | .object members => "\x7b" ++ ",".intercalate (compactMembers members) ++ "\x7d"

/-- The values of an array, each as text. -/
def compactItems : List Json → List String
  | [] => []
  | v :: vs => compact v :: compactItems vs

/-- The members of an object, each as text. -/
def compactMembers : List (String × Json) → List String
  | [] => []
  | (name, v) :: ms => (quote name ++ ":" ++ compact v) :: compactMembers ms

end

end Json

end Reconcile
