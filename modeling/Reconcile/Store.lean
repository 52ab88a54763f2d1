import Reconcile.Candidate
import Reconcile.Dialogue
import Reconcile.Invoice.Header
import Reconcile.Invoice.Legacy
import Reconcile.Invoice.Pointer
import Reconcile.Request

/-! # Stores

    A store holds legacy invoices and canonical ones.  It is asked four things: which invoices
    are candidates, what a legacy invoice says, to replace a canonical invoice as a whole, and
    to list the lines of a location. -/

namespace Reconcile

/-! ## Section 1: What can go wrong -/

/-- Why a row cannot be made into a record. -/
inductive DecodeError where
  | code (e : UnknownCode)
  | link (e : LinkError)
deriving DecidableEq, Repr

def DecodeError.message : DecodeError → String
  | .code e => e.message
  | .link e => e.message

/-- Why the schema cannot be brought up to date. -/
inductive MigrationError where
  | dirty (version : Int)
  | missing (version : Int)
  | modified (version : Int)
  | failed (message : String)
deriving DecidableEq, Repr

def MigrationError.message : MigrationError → String
  | .dirty v => "migration " ++ toString v ++
    " is partially applied; fix and remove row from `_sqlx_migrations` table"
  | .missing v => "migration " ++ toString v ++
    " was previously applied but is missing in the resolved migrations"
  | .modified v => "migration " ++ toString v ++
    " was previously applied but has been modified"
  | .failed m => "while executing migrations: error returned from database: " ++ m

/-- Why a store could not do what it was asked. -/
inductive StoreError where
  /-- The store gave something that makes no sense. -/
  | protocol (text : String)
  | decode (e : DecodeError)
  /-- A column that must hold a value is empty. -/
  | emptyColumn (name : String)
  | rowNotFound
  /-- The database refused. -/
  | server (message : String)
  /-- The address of the database makes no sense. -/
  | configuration (text : String)
  | migration (e : MigrationError)
deriving DecidableEq, Repr

def StoreError.message : StoreError → String
  | .protocol text => "encountered unexpected or invalid data: " ++ text
  | .decode e => "error occurred while decoding: " ++ e.message
  | .emptyColumn name => "error occurred while decoding column \"" ++ name ++
    "\": unexpected null; try decoding as an `Option`"
  | .rowNotFound => "no rows returned by a query that expected to return at least one row"
  | .server m => "error returned from database: " ++ m
  | .configuration text => "error with configuration: " ++ text
  | .migration e => e.message

/-! ## Section 2: What a store is asked -/

namespace Store

inductive Call where
  /-- The candidates of a feed in a scope, at most `limit`. -/
  | scan (scope : Scope) (feed : Feed) (limit : Nat)
  /-- The legacy invoice with this identifier. -/
  | load (feed : Feed) (id : String)
  /-- Write the header and put these lines in place of all it had. -/
  | replace (draft : HeaderDraft) (lines : List Line)
  /-- All lines of a scope. -/
  | list (scope : Scope)

/-- What a store answers if nothing goes wrong. -/
def Call.Result : Call → Type
  | .scan .. => List Candidate
  | .load .. => Option LegacyInvoice
  | .replace .. => Header
  | .list .. => List StoredLine

def Call.Answer (c : Call) : Type := Except StoreError c.Result

end Store

end Reconcile
