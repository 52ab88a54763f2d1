import Reconcile.Request
import Reconcile.Settings
import Reconcile.Settings.Toml

/-! # Configuration

    What a run of the program needs to know: where the database is, and what to fill in.  Both
    come from the layered settings, and all of it has a default except the scope. -/

namespace Reconcile

structure DatabaseConfig where
  address : String
  maxConnections : Nat
  /-- Bring the schema up to date before the run. -/
  migrate : Bool
deriving DecidableEq, Repr

/-- What is to be filled in; the selector is still in writing. -/
structure BackfillConfig where
  scope : Scope
  selector : String
  limit : Nat
deriving DecidableEq, Repr

structure Config where
  database : DatabaseConfig
  backfill : BackfillConfig
deriving DecidableEq, Repr

namespace Config

open Settings

/-! ## Section 1: Layers -/

/-- The settings that hold if nothing else is said. -/
def defaults : Json := .ofMembers [
  ("database", .ofMembers [
    ("url", .text "postgres://localhost/invoices"),
    ("max_connections", .integer 5),
    ("run_migrations", .bool false)]),
  ("backfill", .ofMembers [
    ("source", .text "ALL"),
    ("limit", .integer defaultLimit)])]

/-- The variables of the environment that are settings begin with this word. -/
def variableStart : String := "canonical"

/-- The variable with the address of the database, which counts more than anything else. -/
def addressVariable : String := "DATABASE_URL"

/-- The address of the database laid over the settings, if the environment has one. -/
def addAddress (env : List (String × String)) (root : Json) : Json :=
  match env.lookup addressVariable with
  | some address => assign [.name "database", .name "url"] (.text address) root
  | none => root

/-- What a settings file says; no file says nothing. -/
def fileSettings? : (file : Option String) → Option Json
  | none => some (.object [])
  | some text => Toml.read? text

/-- All settings: defaults, the file, the environment, the address of the database. -/
def settings (file : Json) (env : List (String × String)) : Json :=
  addAddress env (addEnvironment variableStart env (addFile file defaults))

/-! ## Section 2: Values -/

/-- A field of a section. -/
def read? {α : Type} (names : List String) (v : Json) (name : String) (read : Json → Option α) :
    Option α :=
  (fieldOf? names name v).bind read

def databaseFields : List String := ["url", "max_connections", "run_migrations"]

def database? (v : Json) : Option DatabaseConfig := do
  return {
    address := ← read? databaseFields v "url" text?
    maxConnections := ← read? databaseFields v "max_connections" count?
    migrate := ← read? databaseFields v "run_migrations" boolean? }

def backfillFields : List String := ["organisation_id", "location_id", "source", "limit"]

def backfill? (v : Json) : Option BackfillConfig := do
  return {
    scope := ⟨← read? backfillFields v "organisation_id" text?,
      ← read? backfillFields v "location_id" text?⟩
    selector := ← read? backfillFields v "source" text?
    limit := ← read? backfillFields v "limit" count? }

/-- The configuration from the text of a settings file, if there is one, and the environment;
    none if the file is unreadable, or a value is missing or does not fit. -/
def load? (file : Option String) (env : List (String × String)) : Option Config := do
  let root := settings (← fileSettings? file) env
  return {
    database := ← (root.member? "database").bind database?
    backfill := ← (root.member? "backfill").bind backfill? }

end Config

/-- The request that is configured. -/
def BackfillConfig.request (c : BackfillConfig) : Except RequestError Request :=
  Request.read c.scope c.selector (some c.limit)

end Reconcile
