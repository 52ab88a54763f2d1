import Reconcile.Proofs.Command.Courses
import Reconcile.Proofs.Json.Printed
import Reconcile.Proofs.Run.Bookkeeping

/-! # How the command ends

    The exit code of the command, what it says and what it prints are read off its course,
    whatever its settings file and its environment say and whoever answers it.  What it prints is
    a JSON text that tells of the run; it is printed last, after all lines of the log.

    Main statement: `command_outcome`. -/

namespace Reconcile

/-! ## Section 1: What is printed -/

/-- 64 bits hold every count. -/
structure Tally.Fits (t : Tally) : Prop where
  invoices : t.invoices < 2 ^ 64
  lines : t.lines < 2 ^ 64
  skipped : t.skipped < 2 ^ 64
  okLines : t.okLines < 2 ^ 64
  warnLines : t.warnLines < 2 ^ 64

namespace Command

open Backfill (Visit)
open Database (Connection)
open Dialogue (Turn Answerer)

/-- The members of a summary are read back if 64 bits hold its counts. -/
theorem isReadBack_members {t : Tally} (h : t.Fits) (cancelled : Bool) :
    ∀ m ∈ (t.summary cancelled).members, Json.IsReadBack m.2 := by
  have hrate : Json.IsReadBack (.float t.warnRate) :=
    Json.isReadBack_float (Binary64.isFinite_ofQuotient (Nat.le_add_left _ _))
      (Binary64.isNegative_ofQuotient _ _)
  simp only [Summary.members, Tally.members, List.cons_append, List.nil_append,
    List.forall_mem_cons]
  refine ⟨Json.isReadBack_integer h.invoices, Json.isReadBack_integer h.lines,
    Json.isReadBack_integer h.skipped, Json.isReadBack_integer h.okLines,
    Json.isReadBack_integer h.warnLines, hrate, ?_⟩
  cases cancelled with
  | false => exact List.forall_mem_nil _
  | true => exact List.forall_mem_singleton.mpr Json.isReadBack_true

/-- A summary that is printed is read back. -/
theorem read?_printed {t : Tally} (h : t.Fits) (cancelled : Bool) :
    Json.read? (printed (t.summary cancelled)) = some (t.summary cancelled).toJson :=
  Json.read?_printedObject _ _ (isReadBack_members h cancelled)

namespace Course

variable {σ : Type} {connection : Connection σ} {c : DatabaseConfig} {r : Request}
  {course : Course}

/-- What there is to tell of a course, name by name. -/
def members (r : Request) (course : Course) : List (String × Json) :=
  let warned := course.lines.countP (·.grade = .warn)
  [("invoicesProcessed", .integer (course.commits r)),
    ("linesProcessed", .integer course.lines.length),
    ("skipped", .integer (course.visits.countP Visit.isSkipped)),
    ("okLines", .integer (course.lines.countP (·.grade = .ok))),
    ("warnLines", .integer warned),
    ("warnRate", .float (Binary64.ofQuotient warned course.lines.length))]

def report (r : Request) (course : Course) : Json := .ofMembers (course.members r)

/-- The report as it is printed, with a line for each name. -/
def text (r : Request) (course : Course) : String := Json.printedObject (course.members r)

theorem member?_report (r : Request) (course : Course) :
    (course.report r).member? "invoicesProcessed" = some (.integer (course.commits r)) := by
  simp only [report, members, Json.ofMembers, Json.member?, List.foldl_cons, List.foldl_nil,
    Json.lookup_insertMember]
  simp

/-- The tally of the visits is what there is to tell. -/
theorem Sound.members_tally (h : course.Sound connection c r) :
    ((Backfill.Visits.tally course.visits).summary false).members = course.members r := by
  have hrate : (Backfill.Visits.tally course.visits).warnRate =
      Binary64.ofQuotient (course.lines.countP (·.grade = .warn)) course.lines.length := by
    rw [Tally.warnRate, Backfill.Visits.okLines_add_warnLines]
    rfl
  rw [members, h.commits_eq, ← hrate]
  rfl

theorem Sound.printed_tally (h : course.Sound connection c r) :
    printed ((Backfill.Visits.tally course.visits).summary false) = course.text r := by
  rw [text, ← h.members_tally]
  rfl

theorem Sound.read?_text (h : course.Sound connection c r)
    (hlines : course.lines.length < 2 ^ 64) :
    Json.read? (course.text r) = some (course.report r) := by
  have hvisits : course.visits.length < 2 ^ 64 := lt_of_le_of_lt h.length_visits_le (by decide)
  have hfits : (Backfill.Visits.tally course.visits).Fits :=
    { invoices := lt_of_le_of_lt List.countP_le_length hvisits
      lines := hlines
      skipped := lt_of_le_of_lt List.countP_le_length hvisits
      okLines := lt_of_le_of_lt List.countP_le_length hlines
      warnLines := lt_of_le_of_lt List.countP_le_length hlines }
  rw [← h.printed_tally, read?_printed hfits, Summary.toJson, h.members_tally, report]

end Course

/-! ## Section 2: Standard output -/

def printTurn (text : String) : Turn Question.Answer := ⟨.print text, ()⟩

/-- What goes to standard output: the lines of the log, and what is printed. -/
def isOutput : Turn Question.Answer → Bool
  | ⟨.log .., _⟩ => true
  | ⟨.print _, _⟩ => true
  | _ => false

/-- What is printed at the very end, if there is anything to tell. -/
def lastTurns (result : Except CommandError Summary) : List (Turn Question.Answer) :=
  ((told? result).map fun summary => printTurn (printed summary)).toList

theorem lastTurns_of_none {result : Except CommandError Summary} (h : told? result = none) :
    lastTurns result = [] := by
  rw [lastTurns, h]
  rfl

theorem lastTurns_of_some {result : Except CommandError Summary} {summary : Summary}
    (h : told? result = some summary) : lastTurns result = [printTurn (printed summary)] := by
  rw [lastTurns, h]
  rfl

section Output

variable {σ α : Type} (world : Answerer Question.Answer σ)

def output (d : Talk α) (s : σ) : List (Turn Question.Answer) :=
  (d.transcript world s).filter isOutput

/-- What is not said goes to standard output only as a part of the log. -/
theorem isLogged_of_mem_output {d : Talk α} {s : σ}
    (h : ∀ t ∈ said world d s, isOutput t = false) :
    ∀ t ∈ output world d s, isLogged t = true := by
  intro t ht
  obtain ⟨hmem, hout⟩ := List.mem_filter.mp ht
  by_contra hlogged
  have hsaid : t ∈ said world d s := List.mem_filter.mpr ⟨hmem, by simpa using hlogged⟩
  rw [h t hsaid] at hout
  cases hout

/-- A course does not print anything. -/
theorem isOutput_of_mem_said (c : DatabaseConfig) (r : Request) (course : Course) :
    ∀ t ∈ course.said c r, isOutput t = false := by
  have hdatabase : ∀ ts : List (Turn Database.Question.Answer), ∀ t ∈ ts.map ofDatabase,
      isOutput t = false := by
    intro ts
    exact List.forall_mem_map.mpr fun _ _ => rfl
  cases course with
  | lost => exact List.forall_mem_nil _
  | refused m => exact List.forall_mem_singleton.mpr rfl
  | unprepared schema e => exact List.forall_mem_cons.mpr ⟨rfl, hdatabase _⟩
  | ran schema legs => exact List.forall_mem_cons.mpr ⟨rfl, hdatabase _⟩

theorem isLogged_of_mem_logAll (level : Level) (messages : List String) (s : σ) :
    ∀ t ∈ (logAll level messages).transcript world s, isLogged t = true := by
  induction messages generalizing s with
  | nil => exact List.forall_mem_nil _
  | cons m ms ih =>
    rw [logAll, Dialogue.transcript_bind]
    exact List.forall_mem_append.mpr ⟨List.forall_mem_singleton.mpr rfl, ih _⟩

/-- The command does what it performs, then it logs why it failed, and at the very end it prints
    what there is to tell. -/
theorem command_eq (config : Option Config) (s : σ) :
    let result := ((perform config).exec world s).1
    ((command config).exec world s).1 = (if result.isOk then 0 else 1) ∧
      ∃ logged, (∀ t ∈ logged, isLogged t = true) ∧
        (command config).transcript world s =
          (perform config).transcript world s ++ (logged ++ lastTurns result) := by
  simp only [command, Dialogue.exec_bind, Dialogue.transcript_bind]
  rcases ((perform config).exec world s).1 with e | summary
  · refine ⟨by simp only [Dialogue.exec_bind]; rfl, ?_⟩
    simp only [reportError, Dialogue.transcript_bind, Dialogue.transcript_done, List.append_nil,
      lastTurns, told?]
    rcases e.batch? with _ | ⟨failures, partly⟩
    · exact ⟨_, List.forall_mem_singleton.mpr rfl, rfl⟩
    · -- the failures of single invoices go to the log, and the summary comes after them
      simp only [Dialogue.transcript_bind]
      refine ⟨_ :: _, List.forall_mem_cons.mpr ⟨rfl, isLogged_of_mem_logAll world .error
        (failures.map failureText) _⟩, rfl⟩
  · exact ⟨rfl, [], List.forall_mem_nil _, rfl⟩

end Output

/-! ## Section 3: The end -/

/-- How the command ends after a course.  It succeeds if and only if the course does.  If no scan
    failed, what there is to tell of the course is printed, once and last of all, and the text is
    read back as the report as long as 64 bits hold the number of lines; otherwise nothing is
    printed.  Whatever else goes to standard output is part of the log. -/
structure Course.IsOutcome (c : DatabaseConfig) (r : Request) (course : Course) (code : UInt32)
    (said output : List (Turn Question.Answer)) : Prop where
  code : code = 0 ↔ course.Succeeds
  told : course.Completes → said = course.said c r ++ [printTurn (course.text r)] ∧
    ∃ logged, output = logged ++ [printTurn (course.text r)] ∧ ∀ t ∈ logged, isLogged t = true
  readable : course.lines.length < 2 ^ 64 → Json.read? (course.text r) = some (course.report r)
  untold : ¬ course.Completes → said = course.said c r ∧ ∀ t ∈ output, isLogged t = true

section End

variable {σ : Type} (world : Answerer Question.Answer σ) (s : σ)

/-- What is said is said by what the command performs; only what there is to tell comes after. -/
theorem said_command (config : Option Config) :
    said world (command config) s =
      said world (perform config) s ++ lastTurns ((perform config).exec world s).1 := by
  obtain ⟨-, logged, hlogged, htranscript⟩ := command_eq world config s
  have hunsaid : logged.filter (fun t => !isLogged t) = [] := by
    simpa [List.filter_eq_nil_iff] using hlogged
  rw [said, htranscript, List.filter_append, List.filter_append, hunsaid, List.nil_append,
    lastTurns]
  rcases told? ((perform config).exec world s).1 with _ | summary <;> rfl

/-- What goes to standard output is part of the log; only what there is to tell comes after. -/
theorem exists_output_command (config : Option Config)
    (hsaid : ∀ t ∈ said world (perform config) s, isOutput t = false) :
    ∃ logged, (∀ t ∈ logged, isLogged t = true) ∧
      output world (command config) s =
        logged ++ lastTurns ((perform config).exec world s).1 := by
  obtain ⟨-, logged, hlogged, htranscript⟩ := command_eq world config s
  refine ⟨output world (perform config) s ++ logged.filter isOutput, ?_, ?_⟩
  · refine List.forall_mem_append.mpr ⟨isLogged_of_mem_output world hsaid, fun t ht => ?_⟩
    exact hlogged t (List.mem_filter.mp ht).1
  · rw [output, htranscript, List.filter_append, List.filter_append, ← List.append_assoc,
      lastTurns]
    rcases told? ((perform config).exec world s).1 with _ | summary <;> rfl

/-- What fails before it says anything has nothing to tell. -/
theorem command_of_error {config : Option Config} {e : CommandError}
    (hresult : ((perform config).exec world s).1 = .error e) (hbatch : e.batch? = none)
    (hnothing : said world (perform config) s = []) :
    ((command config).exec world s).1 = 1 ∧ said world (command config) s = [] ∧
      ∀ t ∈ output world (command config) s, isLogged t = true := by
  have hlast : lastTurns ((perform config).exec world s).1 = [] := lastTurns_of_none (by
    rw [hresult, told?, hbatch]
    rfl)
  obtain ⟨logged, hlogged, houtput⟩ := exists_output_command world s config (by simp [hnothing])
  refine ⟨?_, ?_, ?_⟩
  · rw [(command_eq world config s).1, hresult]
    rfl
  · rw [said_command, hnothing, hlast, List.nil_append]
  · rw [houtput, hlast, List.append_nil]
    exact hlogged

/-- With a request the command goes through a course and ends as the course says. -/
theorem exists_outcome {c : Config} {r : Request} (h : c.backfill.request = .ok r) :
    ∃ course : Course, course.Sound (connectionOf world) c.database r ∧
      course.IsOutcome c.database r ((command (some c)).exec world s).1
        (said world (command (some c)) s) (output world (command (some c)) s) := by
  obtain ⟨course, hsound, hcourse, hok, hcompletes, hfails⟩ := exists_course world h s
  have hsaid := said_command world s (some c)
  obtain ⟨logged, hlogged, houtput⟩ := exists_output_command world s (some c) (by
    rw [hcourse]
    exact isOutput_of_mem_said c.database r course)
  rw [hcourse] at hsaid
  refine ⟨course, hsound, ?_, fun hall => ?_, hsound.read?_text, fun hfailed => ?_⟩
  · rw [(command_eq world (some c) s).1, ← hok]
    cases ((perform (some c)).exec world s).1.isOk <;> decide
  · rw [lastTurns_of_some (hcompletes hall), hsound.printed_tally] at hsaid houtput
    exact ⟨hsaid, logged, houtput, hlogged⟩
  · rw [lastTurns_of_none (hfails hfailed), List.append_nil] at hsaid houtput
    refine ⟨hsaid, ?_⟩
    rw [houtput]
    exact hlogged

end End

/-- This is what the command does, whatever its settings file and its environment say and whoever
    answers it.  Without a configuration, or with a request that cannot be made, it fails, says
    nothing to the database and prints nothing.  Otherwise it goes through a course for the
    request that is configured; the course says whether it succeeds and what it prints.  The
    invoices that are reported are the commits that the database confirmed. -/
theorem command_outcome {σ : Type} (world : Answerer Question.Answer σ) (file : Option String)
    (env : List (String × String)) (s : σ) :
    let config := Config.load? file env
    let code := ((command config).exec world s).1
    let said := said world (command config) s
    let output := output world (command config) s
    let idle := code = 1 ∧ said = [] ∧ ∀ t ∈ output, isLogged t = true
    (code = 0 ∨ code = 1) ∧ (config = none → idle) ∧
      ∀ c, config = some c → (¬ c.backfill.IsValid → idle) ∧
        (c.backfill.IsValid → ∃ (r : Request) (course : Course), r.IsFor c.backfill ∧
          course.Sound (connectionOf world) c.database r ∧
          course.IsOutcome c.database r code said output) := by
  refine ⟨?_, fun hnone => ?_, fun c hc => ⟨fun hinvalid => ?_, fun hvalid => ?_⟩⟩
  · have hcode := (command_eq world (Config.load? file env) s).1
    rw [hcode]
    split <;> simp
  · rw [hnone]
    exact command_of_error world s rfl rfl rfl
  · obtain ⟨⟨e, hresult⟩, hnothing⟩ := perform_of_not_isValid world hinvalid s
    rw [hc]
    exact command_of_error world s hresult rfl hnothing
  · obtain ⟨r, hr⟩ := c.backfill.exists_request_iff.mpr hvalid
    obtain ⟨course, hsound, hends⟩ := exists_outcome world s hr
    rw [hc]
    exact ⟨r, course, BackfillConfig.isFor_of_request hr, hsound, hends⟩

/-! ## Section 4: A command that succeeds -/

/-- An environment that asks for the invoices of the accounting system, and for the schema to be
    brought up to date. -/
def oneLineEnvironment : List (String × String) := [
  ("CANONICAL__DATABASE__RUN_MIGRATIONS", "true"),
  ("CANONICAL__BACKFILL__ORGANISATION_ID", "org"),
  ("CANONICAL__BACKFILL__LOCATION_ID", "loc"),
  ("CANONICAL__BACKFILL__SOURCE", "xero")]

def oneLineConfig : Config :=
  ⟨⟨"postgres://localhost/invoices", 5, true⟩, ⟨⟨"org", "loc"⟩, "xero", 200⟩⟩

theorem oneLineConfig_isValid : oneLineConfig.backfill.IsValid where
  source := ⟨.xero, by decide +kernel⟩
  limit := by decide
  organisation := ⟨'o', by decide, by decide⟩
  location := ⟨'l', by decide, by decide⟩

/-- A database that can be connected to and has one invoice to be written. -/
def oneLineWorld : Answerer Question.Answer Nat
  | .connect _, n => (.ok (), n)
  | .database q, n => Database.oneLineConnection q n
  | .log .., n => ((), n)
  | .print _, n => ((), n)

/-- The text that is printed in a turn. -/
def printed? : Turn Question.Answer → Option String
  | ⟨.print text, _⟩ => some text
  | _ => none

/-- What the command prints in this world. -/
def oneLineText : String :=
  "\x7b\n  \"invoicesProcessed\": 1,\n  \"linesProcessed\": 1,\n  \"skipped\": 0,\n" ++
    "  \"okLines\": 0,\n  \"warnLines\": 1,\n  \"warnRate\": 1.0\n\x7d\n"

/-- The command makes the schema, writes the invoice and succeeds.  The last that goes to standard
    output tells of one invoice, and the database confirmed one commit of an invoice. -/
theorem command_outcome_oneLine :
    let config := Config.load? none oneLineEnvironment
    config = some oneLineConfig ∧ ((command config).exec oneLineWorld 0).1 = 0 ∧
      ∃ (r : Request) (course : Course),
        course.Sound (connectionOf oneLineWorld) oneLineConfig.database r ∧ course.Succeeds ∧
        course.commits r = 1 ∧
        (output oneLineWorld (command config) 0).getLast? = some (printTurn oneLineText) ∧
        Json.read? oneLineText = some (course.report r) := by
  intro config
  have hload : config = some oneLineConfig := by decide +kernel
  have hcode : ((command config).exec oneLineWorld 0).1 = 0 := by decide +kernel
  have hlength : (said oneLineWorld (command config) 0).length = 16 := by decide +kernel
  have hlast : ((output oneLineWorld (command config) 0).getLast?.bind printed?) =
      some oneLineText := by decide +kernel
  have hcount : ((Json.read? oneLineText).bind (Json.member? "invoicesProcessed")).bind
      Exchange.count? = some 1 := by decide +kernel
  obtain ⟨-, -, houtcome⟩ := command_outcome oneLineWorld none oneLineEnvironment 0
  obtain ⟨r, course, -, hsound, hends⟩ := (houtcome oneLineConfig hload).2 oneLineConfig_isValid
  have hsucceeds : course.Succeeds := hends.code.mp hcode
  obtain ⟨hsaid, logged, houtput, -⟩ := hends.told hsucceeds.completes
  have hprinted : (output oneLineWorld (command config) 0).getLast? =
      some (printTurn (course.text r)) := by
    rw [show output oneLineWorld (command config) 0 = _ from houtput, List.getLast?_concat]
  have htext : course.text r = oneLineText := by
    rw [hprinted] at hlast
    exact Option.some.inj hlast
  have hlines : course.lines.length < 2 ^ 64 := by
    have hle := hsound.length_lines_le
    have hcourse : (course.said oneLineConfig.database r).length + 1 = 16 := by
      rw [← hlength, show said oneLineWorld (command config) 0 = _ from hsaid]
      simp
    omega
  have hread := hends.readable hlines
  rw [htext] at hprinted hread
  refine ⟨hload, hcode, r, course, hsound, hsucceeds, ?_, hprinted, hread⟩
  rw [hread, Option.bind_some, Course.member?_report, Option.bind_some] at hcount
  have hcommits : course.commits r < 2 ^ 32 ∧ course.commits r = 1 := by
    simpa [Exchange.count?, Exchange.natural?] using hcount
  exact hcommits.2

end Command

end Reconcile
