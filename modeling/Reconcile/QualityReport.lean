import Reconcile.Backfill

/-! # The quality report

    The lines of a location as a table with comma-separated fields, for people to look through:
    where each line is from, what it was resolved to, and its grade with the reasons. -/

namespace Reconcile.QualityReport

/-! ## Section 1: Comma-separated fields -/

/-- Characters that make quotes around a field necessary. -/
def needsQuotes (c : Char) : Bool := c == ',' || c == '"' || c == '\r' || c == '\n'

/-- The characters of a field between quotes, in which a quote is written twice. -/
def doubled (s : List Char) : List Char := s.flatMap fun c => if c = '"' then ['"', '"'] else [c]

/-- A field, in quotes only if it needs them. -/
def field (s : String) : List Char :=
  if s.toList.any needsQuotes then '"' :: (doubled s.toList ++ ['"']) else s.toList

/-- Fields with commas between them and a line end behind them. -/
def record (fields : List String) : List Char :=
  [','].intercalate (fields.map field) ++ ['\n']

/-! ## Section 2: The table -/

def columnNames : List String := [
  "canonical_invoice_id", "line_number", "source", "source_line_ref", "normalized_description",
  "unit_label", "unit_category", "currency_code", "adjustment_status", "quality_status",
  "warn_reasons", "normalization_version"]

/-- The fields of a line in the order of the columns. -/
def fields (s : StoredLine) : List String := [
  s.headerId.text,
  toString s.line.number.toInt,
  Coded.code s.line.origin,
  s.line.sourceRef,
  s.line.description,
  s.line.unit.getD "",
  Coded.code s.line.dimension,
  s.line.currency.getD "",
  Coded.code s.line.adjustment,
  Coded.code s.line.grade,
  "|".intercalate s.line.reasons,
  s.rules]

/-- The lines that are reported: all of them, or those with a warning. -/
def reported (warnOnly : Bool) (lines : List StoredLine) : List StoredLine :=
  lines.filter fun s => !warnOnly || s.line.grade = .warn

/-- The table of some lines under the names of its columns. -/
def table (lines : List StoredLine) : String :=
  String.ofList (record columnNames ++ lines.flatMap fun s => record (fields s))

/-! ## Section 3: Writing the report -/

/-- Why a report was not written. -/
inductive ReportError where
  | store (e : StoreError)
  /-- The system refused to write the file. -/
  | file (message : String)
deriving DecidableEq, Repr

def ReportError.message : ReportError → String
  | .store e => "database error: " ++ e.message
  | .file m => "i/o error: " ++ m

inductive Question where
  | store (call : Store.Call)
  /-- Write the file. -/
  | save (text : String)

def Question.Answer : Question → Type
  | .store call => call.Answer
  | .save _ => Except String Unit

/-- Lists the lines of a scope and writes the table; the answer is the number of lines in it. -/
def export? (scope : Scope) (warnOnly : Bool) :
    Dialogue Question.Answer (Except ReportError Nat) :=
  (Dialogue.question (A := Question.Answer) (.store (.list scope))).bind fun
    | .error e => .done (.error (.store e))
    | .ok all =>
      let lines := reported warnOnly all
      (Dialogue.question (A := Question.Answer) (.save (table lines))).bind fun
        | .error m => .done (.error (.file m))
        | .ok () => .done (.ok lines.length)

/-- A store together with the file that was written last, if files can be written at all. -/
structure Desk (σ : Type) where
  store : σ
  refusal : Option String
  file : Option String

/-- Answers the questions of an export. -/
def Desk.answer {σ : Type} (store : Dialogue.Answerer Store.Call.Answer σ) :
    Dialogue.Answerer Question.Answer (Desk σ)
  | .store c, d =>
    let (a, s) := store c d.store
    (a, { d with store := s })
  | .save text, d =>
    match d.refusal with
    | some m => (.error m, d)
    | none => (.ok (), { d with file := some text })

end Reconcile.QualityReport
