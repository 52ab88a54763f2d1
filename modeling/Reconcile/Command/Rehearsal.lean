import Reconcile.Command
import Reconcile.Database.Rehearsal

/-! # Rehearsing the command

    The command against a scripted database, with everything it logs and prints kept. -/

namespace Reconcile.Command

/-- A line of the log. -/
structure LogLine where
  level : Level
  message : String
deriving DecidableEq, Repr

/-- A rehearsal of the command under way. -/
structure Rehearsal where
  database : Database.Rehearsal
  /-- What the database says when it refuses to be connected to. -/
  refusal : Option String
  log : List LogLine
  printed : String

namespace Rehearsal

def start (script : Database.Script) (refusal : Option String) : Rehearsal :=
  ⟨.start script, refusal, [], ""⟩

def answer : Dialogue.Answerer Question.Answer Rehearsal
  | .connect _, r => (Database.Rehearsal.refusal r.refusal, r)
  | .database q, r =>
    let (a, d) := Database.Rehearsal.answer q r.database
    (a, { r with database := d })
  | .log level message, r => ((), { r with log := r.log ++ [⟨level, message⟩] })
  | .print text, r => ((), { r with printed := r.printed ++ text })

end Rehearsal

/-- The exit code of the command, and the rehearsal when it is over. -/
def rehearse (config : Option Config) (script : Database.Script) (refusal : Option String) :
    UInt32 × Rehearsal :=
  (command config).exec Rehearsal.answer (.start script refusal)

end Reconcile.Command
