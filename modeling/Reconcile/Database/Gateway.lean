import Reconcile.Database.Reply
import Reconcile.Database.Schema

/-! # A gateway to a database

    A gateway passes statements on to a database: it takes a JSON object with the text and the
    parameters of a statement, and gives its reply back.  The account of migrations is a table
    like any other here. -/

namespace Reconcile.Database.Gateway

open Exchange

/-! ## Section 1: Requests -/

/-- A statement with its parameters. -/
def request (sql : String) (params : List Json) : Json :=
  .ofMembers [("sql", .text sql), ("params", .array params)]

def ofStatement (s : Statement) : Json := request s.sql (s.params.map Value.toJson)

/-- Makes the table with the account of migrations. -/
def accountTable : String :=
  "CREATE TABLE IF NOT EXISTS _sqlx_migrations ( version BIGINT PRIMARY KEY, " ++
    "description TEXT NOT NULL, installed_on TIMESTAMPTZ NOT NULL DEFAULT now(), " ++
    "success BOOLEAN NOT NULL, checksum BYTEA NOT NULL, execution_time BIGINT NOT NULL )"

def dirtyVersion : String :=
  "SELECT version FROM _sqlx_migrations WHERE success = false ORDER BY version LIMIT 1"

def appliedMigrations : String :=
  "SELECT version, encode(checksum, 'hex') AS checksum FROM _sqlx_migrations ORDER BY version"

def recordMigration : String :=
  "INSERT INTO _sqlx_migrations ( version, description, success, checksum, execution_time ) " ++
    "VALUES ( $1, $2, TRUE, decode($3, 'hex'), -1 )"

/-- What is sent for a question, one after another until there is an error. -/
def requests : Question → List Json
  | .begin => [request "BEGIN" []]
  | .commit => [request "COMMIT" []]
  | .rollback => [request "ROLLBACK" []]
  | .query s => [ofStatement s]
  | .execute s => [ofStatement s]
  | .dirtyVersion => [request accountTable [], request dirtyVersion []]
  | .appliedMigrations => [request appliedMigrations []]
  | .runScript sql => [request sql []]
  | .record m => [request recordMigration [.integer m.version, .text m.description,
      .text (String.ofList (Uuid.hex m.checksum))]]

/-! ## Section 2: Answers -/

/-- Success, unless the reply is an error. -/
def done : Reply → Except String Unit
  | .error m => .error m
  | _ => .ok ()

/-- The rows of a reply. -/
def rows : Reply → Except String (List Json)
  | .error m => .error m
  | .rows vs => .ok vs
  | .affected _ => .ok []

/-- The count of a reply. -/
def count : Reply → Except String Nat
  | .error m => .error m
  | .rows _ => .ok 0
  | .affected n => .ok n

/-- The answer to a question from the last reply. -/
def answer : (q : Question) → Reply → q.Answer
  | .begin, r => done r
  | .commit, r => done r
  | .rollback, _ => ()
  | .query s, r => (rows r).map fun vs => vs.map (Row.ofJson s.columns)
  | .execute _, r => count r
  | .dirtyVersion, r => (rows r).map fun vs => vs.head?.bind fun v => field integer? v "version"
  | .appliedMigrations, r => (rows r).map fun vs => vs.filterMap AppliedMigration.ofJson?
  | .runScript _, r => done r
  | .record _, r => done r

end Reconcile.Database.Gateway
