import Reconcile.Calendar.Instant
import Reconcile.Decimal.Rounded
import Reconcile.Invoice.Origin
import Reconcile.Json

/-! # Fields of exchanged records

    Records are exchanged as JSON objects.  A field that may be left out may also be null; a
    field that is there must have the form its record asks for, or the record is refused.
    Members that a record does not know are passed over. -/

namespace Reconcile.Exchange

variable {α : Type}

/-! ## Section 1: Looking up fields -/

def isNull : Json → Bool
  | .null => true
  | _ => false

/-- The member under a name unless it is null. -/
def given? (v : Json) (name : String) : Option Json := (v.member? name).filter (!isNull ·)

/-- A field that must be there. -/
def field (read : Json → Option α) (v : Json) (name : String) : Option α :=
  (given? v name).bind read

/-- A field that may be left out; the outer result is none if it has the wrong form. -/
def optionalField (read : Json → Option α) (v : Json) (name : String) : Option (Option α) :=
  match given? v name with
  | none => some none
  | some m => (read m).map some

/-! ## Section 2: Reading values -/

def text? : Json → Option String
  | .text s => some s
  | _ => none

def boolean? : Json → Option Bool
  | .bool b => some b
  | _ => none

/-- A whole number that is not negative and less than `bound`. -/
def natural? (bound : Nat) : Json → Option Nat
  | .integer n => if 0 ≤ n && n < bound then some n.toNat else none
  | _ => none

/-- A count that 32 bits hold. -/
def count? : Json → Option Nat := natural? (Nat.pow 2 32)

def lineNumber? : Json → Option LineNumber
  | .integer n => if (Int32.ofInt n).toInt = n then some (Int32.ofInt n) else none
  | _ => none

/-- A number, whole or not. -/
def number? : Json → Option Binary64
  | .integer n => some (Binary64.ofInt n)
  | .float x => some x
  | _ => none

/-- Decimal text. -/
def decimalText? : Json → Option Decimal
  | .text s => Decimal.read? s
  | _ => none

/-- A decimal number as text or as a number. -/
def decimal? : Json → Option Decimal
  | .integer n => some (Decimal.ofInt n)
  | .float x => some (Decimal.ofBinary64 x)
  | v => decimalText? v

def date? (v : Json) : Option Date := (text? v).bind Date.read?

def instant? (v : Json) : Option Instant := (text? v).bind Instant.read?

def uuid? (v : Json) : Option Uuid := (text? v).bind Uuid.read?

/-- The code of an alternative, exactly as it is written. -/
def code? [Coded α] (v : Json) : Option α := (text? v).bind Coded.ofCode?

/-- An array of values of one form. -/
def list? (read : Json → Option α) : Json → Option (List α)
  | .array items => items.mapM read
  | _ => none

/-! ## Section 3: Writing values -/

/-- A value that may be absent; null stands for absence. -/
def orNull (write : α → Json) : Option α → Json
  | none => .null
  | some a => write a

def ofCode [Coded α] (a : α) : Json := .text (Coded.code a)

def ofDecimal (d : Decimal) : Json := .text d.plain

def ofDate (d : Date) : Json := .text d.text

def ofInstant (t : Instant) : Json := .text t.text

def ofUuid (u : Uuid) : Json := .text u.text

def ofLineNumber (n : LineNumber) : Json := .integer n.toInt

def ofNat (n : Nat) : Json := .integer n

def ofList (write : α → Json) (as : List α) : Json := .array (as.map write)

end Reconcile.Exchange
