import Reconcile.Database.Reply

/-! # Rehearsing with a database

    A rehearsal plays the part of a database from a script: it gives the replies of the script
    one after another, and remembers what it was asked.  When the replies are used up, statements
    find nothing and change nothing. -/

namespace Reconcile.Database

open Exchange

/-! ## Section 1: The script -/

structure Script where
  replies : List Reply
  beginError : Option String
  commitError : Option String
  /-- What the script of a migration fails with. -/
  migrationError : Option String
  /-- The versions of the schema that were left half-way. -/
  dirty : List Int
  applied : List AppliedMigration

/-- The script of an obliging database without any data. -/
def Script.empty : Script := ⟨[], none, none, none, [], []⟩

/-- A rehearsal under way: what is left of the script, and what was asked, the latest first. -/
structure Rehearsal where
  script : Script
  asked : List Question

namespace Rehearsal

def start (script : Script) : Rehearsal := ⟨script, []⟩

/-! ## Section 2: Playing the part -/

/-- What a column gives back of a value that was put into it: whole microseconds, and numbers
    without the scale they were written with. -/
def kept : Value → Value
  | .instant t => .instant t.wholeMicros
  | .numeric d => .numeric d.stored
  | v => v

/-- The row of a reply in the columns of a statement. -/
def row (columns : List Column) (v : Json) : Row :=
  (Row.ofJson columns v).map fun (name, value) => (name, kept value)

/-- The next reply. -/
def next (r : Rehearsal) : Option Reply × Rehearsal :=
  match r.script.replies with
  | [] => (none, r)
  | a :: as => (some a, { r with script := { r.script with replies := as } })

/-- Success, unless the script has an error for it. -/
def refusal : Option String → Except String Unit
  | none => .ok ()
  | some m => .error m

/-- The rows of the next reply. -/
def queryAnswer (s : Statement) (r : Rehearsal) : Except String (List Row) × Rehearsal :=
  match r.next with
  | (some (.rows vs), r) => (.ok (vs.map (row s.columns)), r)
  | (some (.error m), r) => (.error m, r)
  | (_, r) => (.ok [], r)

/-- The count of the next reply. -/
def executeAnswer (r : Rehearsal) : Except String Nat × Rehearsal :=
  match r.next with
  | (some (.affected n), r) => (.ok n, r)
  | (some (.error m), r) => (.error m, r)
  | (_, r) => (.ok 0, r)

/-- Answers a question that was noted already. -/
def reply : Dialogue.Answerer Question.Answer Rehearsal
  | .begin, r => (refusal r.script.beginError, r)
  | .commit, r => (refusal r.script.commitError, r)
  | .rollback, r => ((), r)
  | .query s, r => r.queryAnswer s
  | .execute _, r => r.executeAnswer
  | .dirtyVersion, r => (.ok r.script.dirty.head?, r)
  | .appliedMigrations, r => (.ok r.script.applied, r)
  | .runScript _, r => (refusal r.script.migrationError, r)
  | .record _, r => (.ok (), r)

/-- Notes a question and answers it. -/
def answer : Dialogue.Answerer Question.Answer Rehearsal := fun q r =>
  reply q { r with asked := q :: r.asked }

/-- What was asked, in order, as far as it is put on record. -/
def record (r : Rehearsal) : List Json := r.asked.reverse.filterMap Question.toJson?

end Rehearsal

/-! ## Section 3: Scripts as JSON -/

/-- A script has its fields among those of a larger record, and may leave out any of them. -/
def Script.ofJson? (v : Json) : Option Script := do
  return {
    replies := (← optionalField (list? Reply.ofJson?) v "replies").getD []
    beginError := ← optionalField errorMessage? v "beginError"
    commitError := ← optionalField errorMessage? v "commitError"
    migrationError := ← optionalField errorMessage? v "migrationError"
    dirty := (← optionalField (list? integer?) v "dirty").getD []
    applied := (← optionalField (list? AppliedMigration.ofJson?) v "applied").getD [] }

end Reconcile.Database
