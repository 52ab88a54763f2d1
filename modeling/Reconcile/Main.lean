import Reconcile.Command
import Reconcile.Database.Gateway

/-! # The program

    Reads the settings file of the working directory and the environment, and performs the
    command.  The log and the outcome go to standard output.  The database is spoken to through
    a gateway, a line of JSON for each statement and a line for each reply; it is reached by two
    named pipes in the working directory. -/

namespace Reconcile.Program

open Command

/-- The settings file. -/
def settingsFile : String := "canonical-backfill.toml"

/-- Where the variables of the environment are listed, each with a null character behind it. -/
def environmentFile : String := "/proc/self/environ"

/-- The pipe for what is asked of the gateway. -/
def questionPipe : String := "canonical-backfill.questions"

/-- The pipe for what the gateway replies. -/
def replyPipe : String := "canonical-backfill.replies"

/-- The name of the program in its log. -/
def programName : String := "canonical_backfill"

/-- Name and value of a variable. -/
def readVariable? (s : String) : Option (String × String) :=
  match s.toList.dropWhile (· != '=') with
  | '=' :: value => some (String.ofList (s.toList.takeWhile (· != '=')), String.ofList value)
  | _ => none

def readVariables (text : String) : List (String × String) :=
  (text.splitOn "\x00").filterMap readVariable?

/-- The text of a file, if it can be read. -/
def fileText? (path : String) : IO (Option String) := do
  try
    return some (← IO.FS.readFile path)
  catch _ => return none

/-- The configuration; a settings file that is there must be readable. -/
def config? : IO (Option Config) := do
  let env := readVariables ((← fileText? environmentFile).getD "")
  return Config.load? (← fileText? settingsFile) env

/-- The two ends of a gateway. -/
structure Gateway where
  questions : IO.FS.Handle
  replies : IO.FS.Handle

/-- The connection to the gateway, once there is one. -/
abbrev ProgramM := StateT (Option Gateway) IO

/-- Sends a line and waits for the reply to it. -/
def exchange (line : Json) : ProgramM Database.Reply := do
  match ← get with
  | none => return .error "not connected"
  | some g =>
    g.questions.putStrLn line.compact
    g.questions.flush
    let reply ← g.replies.getLine
    return ((Json.read? reply).bind Database.Reply.ofJson?).getD (.error "no reply")

/-- Sends lines one after another until there is an error. -/
def exchangeAll : List Json → ProgramM Database.Reply
  | [] => return .rows []
  | [line] => exchange line
  | line :: lines => do
    match ← exchange line with
    | .error m => return .error m
    | _ => exchangeAll lines

/-- Opens the pipes and asks the gateway to connect to the database. -/
def connect (c : DatabaseConfig) : ProgramM (Except String Unit) := do
  try
    let questions ← IO.FS.Handle.mk questionPipe .write
    let replies ← IO.FS.Handle.mk replyPipe .read
    set (some (Gateway.mk questions replies))
    let reply ← exchange (.ofMembers [
      ("connect", .text c.address), ("maxConnections", .integer c.maxConnections)])
    return Database.Gateway.done reply
  catch e => return .error (toString e)

/-- The level of a line in the log, set to the right. -/
def levelText : Level → String
  | .info => " INFO "
  | .error => "ERROR "

/-- Answers what the command asks for. -/
def answer : (q : Question) → ProgramM q.Answer
  | .connect c => connect c
  | .database q => do return Database.Gateway.answer q (← exchangeAll (Database.Gateway.requests q))
  | .log level message => IO.println (levelText level ++ programName ++ ": " ++ message)
  | .print text => IO.print text

end Reconcile.Program

def main : IO UInt32 := do
  let config ← Reconcile.Program.config?
  let (code, _) ← ((Reconcile.Command.command config).execM Reconcile.Program.answer).run none
  return code
