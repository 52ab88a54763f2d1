import Reconcile.Database.Talk
import Reconcile.Exchange.Field
import Reconcile.Text.Blank

/-! # Database values and statements as JSON

    A row is a JSON object with a member for each column that is not null.  What is sent to a
    database is put on record with the values of its parameters; of a statement with very many
    parameters only the ends are. -/

namespace Reconcile.Database

open Exchange

/-! ## Section 1: Values and rows -/

/-- The value of a column of a kind.  What does not have the form of the kind is null. -/
def Kind.ofJson (kind : Kind) (v : Json) : Value :=
  match kind with
  | .text => .ofOption .text (text? v)
  | .uuid => .ofOption .uuid (uuid? v)
  | .date => .ofOption .date (date? v)
  | .instant => .ofOption .instant (instant? v)
  | .integer => match v with
    | .integer n => .integer n
    | _ => .null
  | .boolean => .ofOption .boolean (boolean? v)
  | .double => .ofOption .double (number? v)
  | .numeric => .ofOption .numeric (decimal? v)
  | .json => if isNull v then .null else .json v
  | .texts => .ofOption .texts (list? text? v)

/-- The row with these columns. -/
def Row.ofJson (columns : List Column) (v : Json) : Row :=
  columns.map fun c => (c.name, c.kind.ofJson ((v.member? c.name).getD .null))

/-- A value as it is put on record. -/
def Value.toJson : Value → Json
  | .null => .null
  | .text s => .text s
  | .uuid u => ofUuid u
  | .date d => ofDate d
  | .instant t => ofInstant t.wholeMicros
  | .integer n => .integer n
  | .boolean b => .bool b
  | .double x => .float x
  | .numeric d => .text d.shown
  | .json v => v
  | .texts ss => ofList .text ss

/-! ## Section 2: Statements -/

/-- How many parameters a statement may have to be put on record as a whole. -/
def maxRecordedParams : Nat := 300

/-- How much of the text of a longer statement is kept. -/
def recordedHead : Nat := 600

/-- How many parameters of a longer statement are kept at either end. -/
def recordedEnd : Nat := 27

/-- The text of a statement with single spaces between its words. -/
def tidySql (sql : String) : List Char := Text.squeeze sql.toList

def Statement.toJson (s : Statement) : Json :=
  let sql := tidySql s.sql
  let params := s.params.map Value.toJson
  if params.length ≤ maxRecordedParams then
    .ofMembers [("sql", .text (String.ofList sql)), ("params", .array params)]
  else .ofMembers [
    ("sqlHead", .text (String.ofList (sql.take recordedHead))),
    ("sqlLength", ofNat sql.length),
    ("paramCount", ofNat params.length),
    ("firstParams", .array (params.take recordedEnd)),
    ("lastParams", .array (params.drop (params.length - recordedEnd)))]

/-- A statement without parameters. -/
def bareStatement (sql : String) : Json := .ofMembers [("sql", .text sql)]

/-- What is put on record of a question; looking at the account of migrations is not. -/
def Question.toJson? : Question → Option Json
  | .begin => some (bareStatement "BEGIN")
  | .commit => some (bareStatement "COMMIT")
  | .rollback => some (bareStatement "ROLLBACK")
  | .query s => some s.toJson
  | .execute s => some s.toJson
  | .dirtyVersion => none
  | .appliedMigrations => none
  | .runScript sql => some (bareStatement (String.ofList (tidySql sql)))
  | .record m => some (.ofMembers [
      ("migrationVersion", .integer m.version),
      ("migrationDescription", .text m.description)])

end Reconcile.Database
