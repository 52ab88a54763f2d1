import Reconcile.Config
import Reconcile.Database.Address
import Reconcile.Database.Schema
import Reconcile.Database.Store
import Reconcile.Exchange.Run

/-! # The command

    The command makes one run as it is configured: it connects to the database, brings the
    schema up to date if it is told to, and fills in what is missing.  On its way it keeps a
    log; at the end it prints the outcome, also when some invoices failed. -/

namespace Reconcile.Command

/-! ## Section 1: What the command asks for -/

inductive Level where
  | info
  | error
deriving DecidableEq, Repr

instance : Coded Level where
  what := "level"
  all := [.info, .error]
  code
    | .info => "INFO"
    | .error => "ERROR"

inductive Question where
  | connect (c : DatabaseConfig)
  | database (q : Database.Question)
  | log (level : Level) (message : String)
  | print (text : String)

/-- Answers; connecting can be refused with a message of the database. -/
def Question.Answer : Question → Type
  | .connect _ => Except String Unit
  | .database q => q.Answer
  | .log .. => Unit
  | .print _ => Unit

abbrev Talk := Dialogue Question.Answer

def log (level : Level) (message : String) : Talk Unit :=
  Dialogue.question (A := Question.Answer) (.log level message)

def print (text : String) : Talk Unit := Dialogue.question (A := Question.Answer) (.print text)

def overDatabase {α : Type} (d : Database.Talk α) : Talk α :=
  Dialogue.refine (A := Database.Question.Answer) (B := Question.Answer)
    (fun q => Dialogue.question (Question.database q)) d

/-! ## Section 2: Texts -/

/-- The name of a feed in the log. -/
def feedName : Feed → String
  | .ocr => "Ocr"
  | .xero => "Xero"

/-- A summary in one line of the log. -/
def summaryText (s : Summary) : String :=
  "BackfillResult \x7b invoices_processed: " ++ toString s.tally.invoices ++
    ", lines_processed: " ++ toString s.tally.lines ++
    ", skipped: " ++ toString s.tally.skipped ++
    ", ok_lines: " ++ toString s.tally.okLines ++
    ", warn_lines: " ++ toString s.tally.warnLines ++
    ", warn_rate: " ++ s.warnRate.textAbove .up (-4) ++
    ", cancelled: " ++ (if s.cancelled then "true" else "false") ++ " \x7d"

/-- A checkpoint in one line of the log. -/
def checkpointText : Checkpoint → String
  | .scanStarted feeds limit =>
    "扫描开始: [" ++ ", ".intercalate (feeds.map feedName) ++ "], limit " ++ toString limit
  | .feedScanned feed count =>
    Coded.code feed ++ " 候选: NEW " ++ toString count.new ++ ", REPAIR " ++
      toString count.repair ++ ", REBUILD " ++ toString count.rebuild
  | .feedCompleted feed invoices skipped failed =>
    Coded.code feed ++ " 完成: 处理 " ++ toString invoices ++ ", 跳过 " ++ toString skipped ++
      ", 失败 " ++ toString failed
  | .completed summary => "全部完成: " ++ summaryText summary

/-- A summary as it is printed: a JSON object with a line for each field. -/
def printed (s : Summary) : String :=
  "\x7b\n" ++ ",\n".intercalate (s.members.map fun (name, v) =>
    "  " ++ Json.quote name ++ ": " ++ v.compact) ++ "\n\x7d\n"

/-! ## Section 3: Failures -/

/-- Why the command fails. -/
inductive CommandError where
  | config
  | request (e : RequestError)
  | store (e : StoreError)
  | run (e : RunError)
deriving DecidableEq, Repr

def CommandError.message : CommandError → String
  | .config => "configuration error"
  | .request e => "invalid backfill request: " ++ e.message
  | .store e => "database error: " ++ e.message
  | .run e => e.message

/-- The invoices that failed, and the outcome in spite of them. -/
def CommandError.batch? : CommandError → Option (List Failure × Summary)
  | .run (.batchFailed failures partly) => some (failures, partly)
  | _ => none

def failureText (f : Failure) : String :=
  "  " ++ Coded.code f.feed ++ " " ++ f.id ++ ": " ++ f.message

def logAll (level : Level) : List String → Talk Unit
  | [] => .done ()
  | m :: ms => (log level m).bind fun () => logAll level ms

/-- Tells why the command failed. -/
def reportError (e : CommandError) : Talk Unit :=
  (log .error ("回填失败: " ++ e.message)).bind fun () =>
    match e.batch? with
    | none => .done ()
    | some (failures, partly) =>
      (logAll .error (failures.map failureText)).bind fun () => print (printed partly)

/-! ## Section 4: The run -/

/-- Goes on with the value of a step unless it failed. -/
def andThen {ε α β : Type} (d : Talk (Except ε α)) (k : α → Talk (Except ε β)) :
    Talk (Except ε β) :=
  d.bind fun
    | .error e => .done (.error e)
    | .ok a => k a

/-- Connects to the database if its address makes sense. -/
def connect (c : DatabaseConfig) : Talk (Except CommandError Unit) :=
  match Database.Address.check c.address with
  | .error e => .done (.error (.store (.configuration e.message)))
  | .ok () => (Dialogue.question (A := Question.Answer) (.connect c)).bind fun
    | .error m => .done (.error (.store (.server m)))
    | .ok () => .done (.ok ())

/-- Brings the schema up to date if it is wanted. -/
def prepare (wanted : Bool) : Talk (Except CommandError Unit) :=
  if wanted then
    (overDatabase Database.migrate).bind fun
      | .error e => .done (.error (.store (.migration e)))
      | .ok () => .done (.ok ())
  else .done (.ok ())

/-- Finds the answer to what a run asks; nobody cancels a run of the command. -/
def find : (q : Backfill.Question) → Talk q.Answer
  | .store c => overDatabase (Database.find c)
  | .isCancelled => .done false
  | .report c => log .info (checkpointText c)

def backfill (r : Request) : Talk (Except CommandError Summary) :=
  (Dialogue.refine (A := Backfill.Question.Answer) (B := Question.Answer) find
    (Backfill.run r)).bind fun
      | .error e => .done (.error (.run e))
      | .ok s => .done (.ok s)

/-- What the log says when a run begins. -/
def startText (r : Request) : String :=
  "Starting backfill for " ++ r.scope.organisation ++ "/" ++ r.scope.location ++ " (source " ++
    Coded.code r.selector ++ ", limit " ++ toString r.limit ++ ")"

/-- The run that is configured. -/
def perform (config : Option Config) : Talk (Except CommandError Summary) :=
  match config with
  | none => .done (.error .config)
  | some c =>
    match c.backfill.request with
    | .error e => .done (.error (.request e))
    | .ok r =>
      (log .info (startText r)).bind fun () =>
        andThen (connect c.database) fun () =>
          (log .info "Database pool created").bind fun () =>
            andThen (prepare c.database.migrate) fun () => backfill r

/-- The command; its answer is the exit code. -/
def command (config : Option Config) : Talk UInt32 :=
  (perform config).bind fun
    | .ok s => (print (printed s)).bind fun () => .done 0
    | .error e => (reportError e).bind fun () => .done 1

end Reconcile.Command
