import Reconcile.Exchange.Database

/-! # Replies of a database

    What a database replies to a statement, as JSON: rows, the number of rows that were changed,
    or an error with a message. -/

namespace Reconcile.Database

open Exchange

inductive Reply where
  | rows (rows : List Json)
  | affected (count : Nat)
  | error (message : String)

/-- The message of an error. -/
def errorMessage? (v : Json) : Option String := field text? v "message"

/-- Reads a reply; an empty object is a reply without rows. -/
def Reply.ofJson? (v : Json) : Option Reply :=
  match given? v "error", given? v "rows", given? v "affected" with
  | some e, _, _ => (errorMessage? e).map .error
  | none, some vs, _ => (list? some vs).map .rows
  | none, none, some n => (natural? (Nat.pow 2 64) n).map .affected
  | none, none, none => v.members?.map fun _ => .rows []

/-- The bytes that pairs of hexadecimal digits give. -/
def hexBytes? : List Char → Option (List UInt8)
  | [] => some []
  | a :: b :: s => do
    let n := (← Uuid.hexValue? a) * 16 + (← Uuid.hexValue? b)
    return UInt8.ofNat n :: (← hexBytes? s)
  | _ => none

def integer? : Json → Option Int
  | .integer n => some n
  | _ => none

/-- The account of a migration in a row. -/
def AppliedMigration.ofJson? (v : Json) : Option AppliedMigration := do
  let checksum ← field text? v "checksum"
  return ⟨← field integer? v "version", ← hexBytes? checksum.toList⟩

end Reconcile.Database
