import Reconcile.Calendar.Instant
import Reconcile.Decimal.Numeric
import Reconcile.Json
import Reconcile.Store
import Reconcile.Uuid

/-! # Values in a database

    What stands in a column of a row, and what is bound to a parameter of a statement, is a value
    of one of a few kinds or null.  A row is read by the names of its columns. -/

namespace Reconcile.Database

/-! ## Section 1: Values -/

/-- What a column can hold. -/
inductive Kind where
  | text
  | uuid
  | date
  | instant
  | integer
  | boolean
  | double
  | numeric
  | json
  | texts
deriving DecidableEq, Repr

inductive Value where
  | null
  | text (s : String)
  | uuid (u : Uuid)
  | date (d : Date)
  | instant (t : Instant)
  | integer (n : Int)
  | boolean (b : Bool)
  | double (x : Binary64)
  | numeric (d : Decimal)
  | json (v : Json)
  | texts (ss : List String)
deriving Repr

namespace Value

def asText? : Value → Option String
  | .text s => some s
  | _ => none

def asUuid? : Value → Option Uuid
  | .uuid u => some u
  | _ => none

def asDate? : Value → Option Date
  | .date d => some d
  | _ => none

def asInstant? : Value → Option Instant
  | .instant t => some t
  | _ => none

def asBoolean? : Value → Option Bool
  | .boolean b => some b
  | _ => none

def asDouble? : Value → Option Binary64
  | .double x => some x
  | _ => none

def asNumeric? : Value → Option Decimal
  | .numeric d => some d
  | _ => none

def asJson? : Value → Option Json
  | .json v => some v
  | _ => none

def asTexts? : Value → Option (List String)
  | .texts ss => some ss
  | _ => none

/-- A whole number that is a line number. -/
def asLineNumber? : Value → Option LineNumber
  | .integer n => if (Int32.ofInt n).toInt = n then some (Int32.ofInt n) else none
  | _ => none

def ofLineNumber (n : LineNumber) : Value := .integer n.toInt

/-- A value that may be absent. -/
def ofOption {α : Type} (f : α → Value) : Option α → Value
  | none => .null
  | some a => f a

end Value

/-! ## Section 2: Rows -/

/-- The name and the kind of a column. -/
structure Column where
  name : String
  kind : Kind
deriving DecidableEq, Repr

/-- The columns of a row with their values. -/
abbrev Row := List (String × Value)

namespace Row

/-- The row that has these values in these columns, one by one. -/
def ofValues (columns : List Column) (values : List Value) : Row :=
  (columns.map (·.name)).zip values

/-- The value in a column; a column that is not there is null. -/
def value (r : Row) (name : String) : Value := (r.lookup name).getD .null

/-- A value that may be absent. -/
def optional {α : Type} (r : Row) (name : String) (as : Value → Option α) : Option α :=
  as (r.value name)

/-- A value that must be there. -/
def required {α : Type} (r : Row) (name : String) (as : Value → Option α) : Except StoreError α :=
  match as (r.value name) with
  | some a => .ok a
  | none => .error (.emptyColumn name)

end Row

end Reconcile.Database
