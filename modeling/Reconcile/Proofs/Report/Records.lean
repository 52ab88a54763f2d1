import Mathlib.Data.List.Forall2
import Reconcile.QualityReport
import Reconcile.Store.Memory

/-! # Reading a quality report

    Whoever opens a report gets back what was put into it.  The reader knows nothing of lines: it
    goes through the characters and is at every moment at the start of a field, in one without
    quotes, between quotes, or behind a quote that may be the last of its field or the first of
    two.  Fields are written so that the reader is led back to the end of a field by the very
    character that follows it, and so the text of a cell can be anything.

    Main statements: `read?_records`, records of any texts are read back, and
    `report_read_back`, the two reports of a scope and how they compare. -/

namespace Reconcile.QualityReport

/-! ## Section 1: A reader -/

/-- Where a reader is. -/
inductive Place where
  /-- Before the first character of a field. -/
  | start
  /-- In a field without quotes. -/
  | plain
  /-- Between the quotes of a field. -/
  | quoted
  /-- Behind a quote that closes a field, unless another one follows. -/
  | closed
deriving DecidableEq, Repr

/-- What there is to read from some place on: the rest of a field, the other fields of its
    record, and the records below. -/
structure Rest where
  field : List Char
  fields : List (List Char)
  records : List (List (List Char))
deriving DecidableEq, Repr

namespace Rest

/-- Nothing follows but some records. -/
def below (records : List (List (List Char))) : Rest := ⟨[], [], records⟩

/-- Some more characters of the field come first. -/
def prepend (w : List Char) (r : Rest) : Rest := { r with field := w ++ r.field }

/-- A field ends, and another one begins. -/
def afterField (r : Rest) : Rest := ⟨[], r.field :: r.fields, r.records⟩

/-- A record and all below it. -/
def allRecords (r : Rest) : List (List (List Char)) := (r.field :: r.fields) :: r.records

@[simp] theorem map_prepend_nil (r : Option Rest) : r.map (prepend []) = r := by
  cases r <;> rfl

@[simp] theorem map_prepend_map_prepend (v w : List Char) (r : Option Rest) :
    (r.map (prepend w)).map (prepend v) = r.map (prepend (v ++ w)) := by
  cases r <;> simp [prepend]

end Rest

/-- Reads on from a place.  Between quotes a quote must be doubled and all else stands for
    itself.  Elsewhere a comma ends the field and a line feed the record, with or without a
    carriage return before it; a quote may open a field and go nowhere else. -/
def readFrom : Place → List Char → Option Rest
  | .quoted, [] => none
  | _, [] => some (.below [])
  | .quoted, c :: s =>
    if c = '"' then readFrom .closed s else (readFrom .quoted s).map (.prepend [c])
  | place, c :: s =>
    if c = ',' then (readFrom .start s).map .afterField
    else if c = '\n' then
      if s = [] then some (.below []) else (readFrom .start s).map fun r => .below r.allRecords
    else if c = '\r' then if s.head? = some '\n' then readFrom .closed s else none
    else if c = '"' then
      match place with
      | .start => readFrom .quoted s
      | .closed => (readFrom .quoted s).map (.prepend ['"'])
      | _ => none
    else if place = .closed then none
    else (readFrom .plain s).map (.prepend [c])

/-- All records, from the start of one on. -/
def readRecords (s : List Char) : Option (List (List (List Char))) :=
  if s = [] then some [] else (readFrom .start s).map Rest.allRecords

/-- The records of a text. -/
def read? (text : String) : Option (List (List String)) :=
  (readRecords text.toList).map fun rs => rs.map fun fields => fields.map String.ofList

/-! ## Section 2: Fields and records are read back -/

theorem readFrom_comma {place : Place} (h : place ≠ .quoted) (s : List Char) :
    readFrom place (',' :: s) = (readFrom .start s).map .afterField := by
  cases place <;> simp [readFrom] at h ⊢

theorem readFrom_lineEnd {place : Place} (h : place ≠ .quoted) (s : List Char) :
    readFrom place ('\n' :: s) = (readRecords s).map .below := by
  by_cases hs : s = []
  · cases place <;> simp [readFrom, readRecords, hs] at h ⊢
  · cases place <;> simp [readFrom, readRecords, hs, Function.comp_def] at h ⊢

/-- A character that ends a field outside of quotes. -/
def EndsField (c : Char) : Prop := c = ',' ∨ c = '\n'

theorem EndsField.readFrom_eq {c : Char} (h : EndsField c) {place : Place} (hp : place ≠ .quoted)
    (s : List Char) : readFrom place (c :: s) = readFrom .closed (c :: s) := by
  rcases h with rfl | rfl
  · rw [readFrom_comma hp, readFrom_comma (by simp)]
  · rw [readFrom_lineEnd hp, readFrom_lineEnd (by simp)]

theorem needsQuotes_eq_false_iff {c : Char} :
    needsQuotes c = false ↔ c ≠ ',' ∧ c ≠ '"' ∧ c ≠ '\r' ∧ c ≠ '\n' := by
  simp [needsQuotes, and_assoc]

/-- A character that needs no quotes belongs to its field. -/
theorem readFrom_plain_cons {c : Char} (hc : needsQuotes c = false) {place : Place}
    (hp : place = .start ∨ place = .plain) (s : List Char) :
    readFrom place (c :: s) = (readFrom .plain s).map (.prepend [c]) := by
  obtain ⟨hcomma, hquote, hreturn, hfeed⟩ := needsQuotes_eq_false_iff.mp hc
  rcases hp with rfl | rfl <;> simp [readFrom, hcomma, hquote, hreturn, hfeed]

theorem readFrom_plain_append {w : List Char} (hw : ∀ c ∈ w, needsQuotes c = false)
    (s : List Char) : readFrom .plain (w ++ s) = (readFrom .plain s).map (.prepend w) := by
  induction w with
  | nil => simp
  | cons c w ih =>
    rw [List.cons_append, readFrom_plain_cons (hw c List.mem_cons_self) (.inr rfl),
      ih fun d hd => hw d (List.mem_cons_of_mem c hd), Rest.map_prepend_map_prepend]
    rfl

/-- Between quotes the reader goes on to the quote that is not doubled. -/
theorem readFrom_doubled (w s : List Char) :
    readFrom .quoted (doubled w ++ '"' :: s) = (readFrom .closed s).map (.prepend w) := by
  induction w with
  | nil => simp [doubled, readFrom]
  | cons d w ih =>
    by_cases hd : d = '"'
    · subst hd
      have hsplit : doubled ('"' :: w) = '"' :: '"' :: doubled w := by simp [doubled]
      -- the first of two quotes closes the field for the moment, the second opens it again
      have hopen : readFrom .quoted ('"' :: '"' :: (doubled w ++ '"' :: s)) =
          (readFrom .quoted (doubled w ++ '"' :: s)).map (.prepend ['"']) := by
        simp [readFrom]
      rw [hsplit, List.cons_append, List.cons_append, hopen, ih, Rest.map_prepend_map_prepend,
        List.singleton_append]
    · have hsplit : doubled (d :: w) = d :: doubled w := by simp [doubled, hd]
      have hstep : readFrom .quoted (d :: (doubled w ++ '"' :: s)) =
          (readFrom .quoted (doubled w ++ '"' :: s)).map (.prepend [d]) := by
        simp [readFrom, hd]
      rw [hsplit, List.cons_append, hstep, ih, Rest.map_prepend_map_prepend,
        List.singleton_append]

/-- A field is read back as the text it was written for, whatever that is. -/
theorem readFrom_field (t : String) {c : Char} (hc : EndsField c) (s : List Char) :
    readFrom .start (field t ++ c :: s) = (readFrom .closed (c :: s)).map (.prepend t.toList) := by
  by_cases hneeds : t.toList.any needsQuotes = true
  · have hquoted : field t ++ c :: s = '"' :: (doubled t.toList ++ '"' :: c :: s) := by
      simp [field, hneeds]
    have hopen : readFrom .start ('"' :: (doubled t.toList ++ '"' :: c :: s)) =
        readFrom .quoted (doubled t.toList ++ '"' :: c :: s) := by
      simp [readFrom]
    rw [hquoted, hopen, readFrom_doubled]
  · have hplain : ∀ d ∈ t.toList, needsQuotes d = false := by
      simpa using hneeds
    have hself : field t = t.toList := by simp [field, hneeds]
    rw [hself]
    -- an empty field ends where it starts
    rcases ht : t.toList with _ | ⟨d, w⟩
    · rw [List.nil_append, hc.readFrom_eq (by simp), Rest.map_prepend_nil]
    · rw [ht] at hplain
      have hfirst : needsQuotes d = false := hplain d List.mem_cons_self
      rw [List.cons_append, readFrom_plain_cons hfirst (.inl rfl),
        ← readFrom_plain_cons hfirst (.inr rfl), ← List.cons_append,
        readFrom_plain_append hplain, hc.readFrom_eq (by simp)]

/-- A record is read back field by field, and what follows it is read as if it stood alone. -/
theorem readRecords_record (f : String) (fs : List String) (s : List Char) :
    readRecords (record (f :: fs) ++ s) =
      (readRecords s).map fun rs => ((f :: fs).map String.toList) :: rs := by
  have hfrom : readFrom .start (record (f :: fs) ++ s) =
      (readRecords s).map fun rs => ⟨f.toList, fs.map String.toList, rs⟩ := by
    -- each field but the last leads to a comma, behind which the reader starts afresh
    induction fs generalizing f with
    | nil =>
      have hlast : record [f] ++ s = field f ++ '\n' :: s := by simp [record]
      rw [hlast, readFrom_field f (.inr rfl), readFrom_lineEnd (by simp), Option.map_map]
      simp [Function.comp_def, Rest.prepend, Rest.below]
    | cons g gs ih =>
      have hnext : record (f :: g :: gs) ++ s = field f ++ ',' :: (record (g :: gs) ++ s) := by
        simp [record]
      rw [hnext, readFrom_field f (.inl rfl), readFrom_comma (by simp), ih g, Option.map_map,
        Option.map_map]
      simp [Function.comp_def, Rest.prepend, Rest.afterField]
  have hne : record (f :: fs) ++ s ≠ [] := by simp [record]
  rw [readRecords, if_neg hne, hfrom, Option.map_map]
  simp [Function.comp_def, Rest.allRecords]

/-- Records of one field or more are read back, whatever the texts in them. -/
theorem read?_records {rows : List (List String)} (h : ∀ r ∈ rows, r ≠ []) :
    read? (String.ofList (rows.flatMap record)) = some rows := by
  have hchars : readRecords (rows.flatMap record) =
      some (rows.map fun r => r.map String.toList) := by
    induction rows with
    | nil => rfl
    | cons r rows ih =>
      obtain ⟨f, fs, rfl⟩ := List.exists_cons_of_ne_nil (h r List.mem_cons_self)
      rw [List.flatMap_cons, readRecords_record,
        ih fun r hr => h r (List.mem_cons_of_mem _ hr)]
      simp
  simp [read?, hchars, Function.comp_def]

/-! ## Section 3: Reports -/

theorem fields_ne_nil (s : StoredLine) : fields s ≠ [] := by simp [fields]

/-- A table is read back as the names of its columns and a record for each line. -/
theorem read?_table (lines : List StoredLine) :
    read? (table lines) = some (columnNames :: lines.map fields) := by
  have hrows : record columnNames ++ lines.flatMap (fun s => record (fields s)) =
      (columnNames :: lines.map fields).flatMap record := by
    simp [List.flatMap_map]
  rw [table, hrows, read?_records]
  intro r hr
  rcases List.mem_cons.mp hr with rfl | hr
  · simp [columnNames]
  · obtain ⟨s, -, rfl⟩ := List.mem_map.mp hr
    exact fields_ne_nil s

/-- The cell of a record in the column of some name. -/
def cell? (cells : List String) (name : String) : Option String :=
  (columnNames.zip cells).lookup name

/-- The record has a cell in each column, and they show the line; what the line has not is an
    empty cell. -/
structure Shows (s : StoredLine) (cells : List String) : Prop where
  length : cells.length = 12
  header : cell? cells "canonical_invoice_id" = some s.headerId.text
  number : cell? cells "line_number" = some (toString s.line.number.toInt)
  origin : cell? cells "source" = some (Coded.code s.line.origin)
  sourceRef : cell? cells "source_line_ref" = some s.line.sourceRef
  description : cell? cells "normalized_description" = some s.line.description
  unit : cell? cells "unit_label" = some (s.line.unit.getD "")
  dimension : cell? cells "unit_category" = some (Coded.code s.line.dimension)
  currency : cell? cells "currency_code" = some (s.line.currency.getD "")
  adjustment : cell? cells "adjustment_status" = some (Coded.code s.line.adjustment)
  grade : cell? cells "quality_status" = some (Coded.code s.line.grade)
  reasons : cell? cells "warn_reasons" = some ("|".intercalate s.line.reasons)
  rules : cell? cells "normalization_version" = some s.rules

theorem shows_fields (s : StoredLine) : Shows s (fields s) :=
  ⟨rfl, rfl, rfl, rfl, rfl, rfl, rfl, rfl, rfl, rfl, rfl, rfl, rfl⟩

theorem forall₂_shows (lines : List StoredLine) :
    List.Forall₂ Shows lines (lines.map fields) :=
  List.forall₂_map_right_iff.mpr (List.forall₂_same.mpr fun s _ => shows_fields s)

/-- The record is of a line that is good. -/
def isGood (cells : List String) : Bool := cell? cells "quality_status" = some "OK"

theorem isGood_fields (s : StoredLine) : isGood (fields s) = decide (s.line.grade = .ok) := by
  rw [isGood, (shows_fields s).grade]
  cases s.line.grade <;> rfl

/-- The records with a warning are those of the lines with a warning. -/
theorem filter_map_fields (lines : List StoredLine) :
    (lines.map fields).filter (!isGood ·) =
      (lines.filter (·.line.grade = .warn)).map fields := by
  rw [List.filter_map]
  congr 1
  apply List.filter_congr
  intro s _
  rw [Function.comp_apply, isGood_fields]
  cases s.line.grade <;> rfl

theorem reported_eq (warnOnly : Bool) (lines : List StoredLine) :
    reported warnOnly lines = if warnOnly then lines.filter (·.line.grade = .warn) else lines := by
  cases warnOnly <;> simp [reported]

variable {σ : Type}

/-- An export lists once and then writes once, if listing gave anything and the file can be
    written. -/
theorem exec_export (answer : Dialogue.Answerer Store.Call.Answer σ) (scope : Scope)
    (warnOnly : Bool) {d : Desk σ} {all : List StoredLine} {after : σ}
    (hlist : answer (.list scope) d.store = (.ok all, after)) (hfile : d.refusal = none) :
    (export? scope warnOnly).exec (Desk.answer answer) d =
      (.ok (reported warnOnly all).length,
        ⟨after, none, some (table (reported warnOnly all))⟩) := by
  have hasked : Desk.answer answer (.store (.list scope)) d =
      (.ok all, { d with store := after }) := by
    simp [Desk.answer, hlist]
  rw [export?, Dialogue.question, Dialogue.ask_bind, Dialogue.exec_ask, hasked, Dialogue.done_bind]
  simp [Dialogue.question, Desk.answer, hfile]

/-- Of the lines that a store lists, the full report has a record each, in the same order and
    under the names of the columns, and the report of warnings has the full one's records without
    those of good lines, which are the records of the lines with a warning.  Either is read back
    from its text, and what is counted are the records that are read. -/
theorem report_read_back (answer : Dialogue.Answerer Store.Call.Answer σ) (scope : Scope)
    (d : Desk σ) {all : List StoredLine} {after : σ}
    (hlist : answer (.list scope) d.store = (.ok all, after)) (hfile : d.refusal = none) :
    ∃ full warned : List (List String),
      List.Forall₂ Shows all full ∧
      List.Forall₂ Shows (all.filter (·.line.grade = .warn)) warned ∧
      warned = full.filter (!isGood ·) ∧
      ∀ warnOnly, ∃ text,
        let records := if warnOnly then warned else full
        (export? scope warnOnly).exec (Desk.answer answer) d =
          (.ok records.length, ⟨after, none, some text⟩) ∧
        read? text = some (columnNames :: records) := by
  refine ⟨all.map fields, (all.filter (·.line.grade = .warn)).map fields, forall₂_shows all,
    forall₂_shows _, (filter_map_fields all).symm, ?_⟩
  intro warnOnly
  refine ⟨table (reported warnOnly all), ?_, ?_⟩
  · rw [exec_export answer scope warnOnly hlist hfile, reported_eq]
    cases warnOnly <;> simp
  · rw [read?_table, reported_eq]
    cases warnOnly <;> simp

/-- A header of an invoice whose identifier has a comma and quotes. -/
def awkwardHeader : Header :=
  HeaderDraft.toHeader ⟨"org", "loc", none, .ocr, .ocr "a,\"b\"", none, none, none⟩
    (Link.headerId (.ocr "a,\"b\""))

/-- A line with a line end, a comma and quotes in what it complains about. -/
def awkwardLine : Line where
  number := 1
  origin := .ocr
  sourceRef := "ocr:a,\"b\":1"
  rawDescription := "\rHam, \"leg\""
  rawQuantity := some "\"1,\r\n2\""
  rawUnit := none
  rawUnitPrice := none
  rawLineTotal := none
  rawProductCode := none
  quantity := none
  unitPrice := none
  lineTotal := none
  tax := none
  description := "ham \"leg\""
  unit := none
  dimension := .unknown
  currency := some "EUR"
  adjustment := .plain
  grade := .warn
  reasons := ["FAILED_NUMERIC_PARSE", "MISSING_QUANTITY", "quantity: unparseable '\"1,\r\n2\"'"]
  confidence := none

/-- A second line of the same invoice, with nothing to complain about. -/
def goodLine : Line :=
  { awkwardLine with number := 2, sourceRef := "ocr:a,\"b\":2", grade := .ok, reasons := [] }

def awkwardStore : MemoryStore :=
  MemoryStore.empty.seed awkwardHeader
    [awkwardHeader.storedLine awkwardLine, awkwardHeader.storedLine goodLine]

theorem list_awkwardStore : awkwardStore.list ⟨"org", "loc"⟩ =
    [awkwardHeader.storedLine awkwardLine, awkwardHeader.storedLine goodLine] := by
  have hvalues : awkwardStore.canonical.values = [⟨awkwardHeader,
    [awkwardHeader.storedLine awkwardLine, awkwardHeader.storedLine goodLine]⟩] := rfl
  have hsorted : [awkwardHeader.storedLine awkwardLine, awkwardHeader.storedLine goodLine].Pairwise
      fun a b => decide (a.line.number.toInt ≤ b.line.number.toInt) = true := by
    rw [List.pairwise_pair]
    rfl
  simpa [MemoryStore.list, hvalues, awkwardHeader, HeaderDraft.toHeader] using
    List.mergeSort_of_pairwise hsorted

/-- Both reports of a store with such lines are read back: two records, and the one of them with
    a warning. -/
theorem report_read_back_awkward :
    let good := awkwardHeader.storedLine goodLine
    let awkward := awkwardHeader.storedLine awkwardLine
    ∃ full warned : List (List String),
      List.Forall₂ Shows [awkward, good] full ∧ List.Forall₂ Shows [awkward] warned ∧
      warned = full.filter (!isGood ·) ∧
      ∀ warnOnly, ∃ text,
        let records := if warnOnly then warned else full
        (export? ⟨"org", "loc"⟩ warnOnly).exec (Desk.answer MemoryStore.answer)
            ⟨awkwardStore, none, none⟩ =
          (.ok records.length, ⟨awkwardStore, none, some text⟩) ∧
        read? text = some (columnNames :: records) := by
  intro good awkward
  have hlist : MemoryStore.answer (.list ⟨"org", "loc"⟩) awkwardStore =
      (.ok [awkward, good], awkwardStore) :=
    congrArg (fun ls => (Except.ok ls, awkwardStore)) list_awkwardStore
  exact report_read_back MemoryStore.answer ⟨"org", "loc"⟩ ⟨awkwardStore, none, none⟩ hlist rfl

end Reconcile.QualityReport
