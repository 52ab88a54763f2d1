import Reconcile.Database.Value

/-! # Talking to a database

    A connection takes statements with parameters and answers with rows, with a count, or with
    the message of an error.  Beginning and ending a transaction, and the few statements that
    keep account of the schema, are questions of their own. -/

namespace Reconcile.Database

/-! ## Section 1: Statements -/

/-- A statement, the values of its parameters, and the columns of the rows it gives. -/
structure Statement where
  sql : String
  params : List Value
  columns : List Column

/-- A change of the schema. -/
structure Migration where
  version : Int
  description : String
  script : String
deriving DecidableEq, Repr

/-- The account of a change of the schema that was made before. -/
structure AppliedMigration where
  version : Int
  checksum : List UInt8
deriving DecidableEq, Repr

/-! ## Section 2: Questions -/

inductive Question where
  | begin
  | commit
  | rollback
  /-- The rows of a statement. -/
  | query (s : Statement)
  /-- How many rows a statement changed. -/
  | execute (s : Statement)
  /-- A version of the schema that was left half-way. -/
  | dirtyVersion
  | appliedMigrations
  | runScript (sql : String)
  /-- Keep account of a change of the schema. -/
  | record (m : Migration)

/-- Answers; an error is the message of the database. -/
def Question.Answer : Question → Type
  | .begin => Except String Unit
  | .commit => Except String Unit
  | .rollback => Unit
  | .query _ => Except String (List Row)
  | .execute _ => Except String Nat
  | .dirtyVersion => Except String (Option Int)
  | .appliedMigrations => Except String (List AppliedMigration)
  | .runScript _ => Except String Unit
  | .record _ => Except String Unit

/-- A dialogue with a database. -/
abbrev Talk := Dialogue Question.Answer

/-! ## Section 3: Steps that may fail -/

/-- Goes on with the value of a step unless it failed. -/
def andThen {ε α β : Type} (d : Talk (Except ε α)) (k : α → Talk (Except ε β)) :
    Talk (Except ε β) :=
  d.bind fun
    | .error e => .done (.error e)
    | .ok a => k a

/-- The rows of a statement. -/
def query (s : Statement) : Talk (Except StoreError (List Row)) :=
  (Dialogue.question (A := Question.Answer) (.query s)).bind fun
    | .error m => .done (.error (.server m))
    | .ok rows => .done (.ok rows)

/-- How many rows a statement changed. -/
def execute (s : Statement) : Talk (Except StoreError Nat) :=
  (Dialogue.question (A := Question.Answer) (.execute s)).bind fun
    | .error m => .done (.error (.server m))
    | .ok n => .done (.ok n)

/-- Ends a transaction without effect. -/
def giveUp {ε α : Type} (e : ε) : Talk (Except ε α) :=
  (Dialogue.question (A := Question.Answer) .rollback).bind fun _ => .done (.error e)

/-- Makes a transaction of some steps: they take effect together when all of them succeed and
    the database confirms it, and otherwise none of them does. -/
def inTransaction {ε α : Type} (refused : String → ε) (steps : Talk (Except ε α)) :
    Talk (Except ε α) :=
  (Dialogue.question (A := Question.Answer) .begin).bind fun
    | .error m => giveUp (refused m)
    | .ok () => steps.bind fun
      | .error e => giveUp e
      | .ok a => (Dialogue.question (A := Question.Answer) .commit).bind fun
        | .error m => giveUp (refused m)
        | .ok () => .done (.ok a)

end Reconcile.Database
