import Mathlib.Logic.Function.Basic
import Reconcile.Proofs.Database.Codec
import Reconcile.Proofs.Database.Transaction
import Reconcile.Store.Memory

/-! # Tables behind a connection

    What inserts and deletes do to tables: a row is put at the end of its table, or the row that
    is in its way is changed; the rows with a value in a column are taken out.  A connection that
    executes the statements by their texts is nothing else, and to replace an invoice over such a
    connection is to put its header into one table and its lines into another.

    Main statement: `exec_replace`. -/

namespace Reconcile.Database

open Dialogue (Answerer)

/-! ## Section 1: Rows -/

/-- The rows of each table, in the order in which they were put there. -/
abbrev Tables : Type := String → List Row

namespace Value

/-- Both values are there and they are the same.  Only texts and identifiers are ever compared. -/
def same : Value → Value → Bool
  | .text a, .text b => a == b
  | .uuid a, .uuid b => a == b
  | _, _ => false

@[simp] theorem same_text (a b : String) : same (.text a) (.text b) = (a == b) := rfl

@[simp] theorem same_uuid (a b : Uuid) : same (.uuid a) (.uuid b) = (a == b) := rfl

theorem eq_of_same_uuid {v : Value} {a : Uuid} (h : v.same (.uuid a) = true) : v = .uuid a := by
  cases v with
  | uuid b => rw [same_uuid, beq_iff_eq] at h; rw [h]
  | _ => cases h

end Value

namespace Row

/-- The row with another value in a column. -/
def set (r : Row) (column : String) (v : Value) : Row := Table.put column v r

@[simp] theorem value_set (r : Row) (column name : String) (v : Value) :
    (r.set column v).value name = if name = column then v else r.value name := by
  unfold set value
  rw [Table.lookup_put]
  split <;> rfl

/-- The row with some of its columns only. -/
def only (r : Row) (columns : List String) : Row := columns.map fun c => (c, r.value c)

theorem value_only {columns : List String} {name : String} (h : name ∈ columns) (r : Row) :
    (r.only columns).value name = r.value name := by
  unfold only
  induction columns with
  | nil => cases h
  | cons c cs ih =>
    unfold value
    rw [List.map_cons, Pairs.lookup_cons_ite]
    by_cases hc : name = c
    · rw [if_pos hc, hc]
      rfl
    · rw [if_neg hc]
      exact ih ((List.mem_cons.mp h).resolve_left hc)

end Row

/-! ## Section 2: Changes -/

def Expression.value (new : Row) (now : Instant) : Expression → Value
  | .excluded column => new.value column
  | .now => .instant now

namespace Insert

variable (i : Insert) (now : Instant) (new : Row)

/-- The row is in the way of a new one. -/
def conflicts (old : Row) : Bool :=
  match i.key with
  | none => false
  | some column => (old.value column).same (new.value column)

/-- A row that was in the way of a new one. -/
def changed (old : Row) : Row := i.changes.foldl (fun r c => r.set c.1 (c.2.value new now)) old

/-- Puts a row into a table; also gives the row that stands there then. -/
def put : List Row → Row × List Row
  | [] => (new, [new])
  | r :: rs =>
    if i.conflicts new r then (i.changed now new r, i.changed now new r :: rs)
    else
      let (stored, rs) := put rs
      (stored, r :: rs)

/-- Puts rows into a table one after another. -/
def putAll : List Row → List Row → List Row × List Row
  | [], table => ([], table)
  | new :: news, table =>
    let (stored, table) := i.put now new table
    let (rest, table) := putAll news table
    (stored :: rest, table)

/-- A new row goes to the end, or the first row that is in its way is changed. -/
theorem put_cases (table : List Row) :
    ((∀ r ∈ table, i.conflicts new r = false) ∧ i.put now new table = (new, table ++ [new])) ∨
    ∃ before r after, table = before ++ r :: after ∧
      (∀ x ∈ before, i.conflicts new x = false) ∧ i.conflicts new r = true ∧
      i.put now new table =
        (i.changed now new r, before ++ i.changed now new r :: after) := by
  induction table with
  | nil => exact .inl ⟨by simp, rfl⟩
  | cons x xs ih =>
    by_cases hx : i.conflicts new x = true
    · right
      refine ⟨[], x, xs, rfl, by simp, hx, ?_⟩
      rw [put, if_pos hx]
      rfl
    · have hfalse : i.conflicts new x = false := by simpa using hx
      rcases ih with ⟨hnone, hput⟩ | ⟨before, r, after, htable, hbefore, hr, hput⟩
      · left
        refine ⟨by simpa using ⟨hfalse, hnone⟩, ?_⟩
        rw [put, if_neg hx, hput]
        rfl
      · right
        refine ⟨x :: before, r, after, by rw [htable]; rfl, by simpa using ⟨hfalse, hbefore⟩, hr, ?_⟩
        rw [put, if_neg hx, hput]
        rfl

variable {i} in
/-- Without a key nothing is in the way. -/
theorem putAll_of_no_key (h : i.key = none) (news table : List Row) :
    i.putAll now news table = (news, table ++ news) := by
  have hput : ∀ new table, i.put now new table = (new, table ++ [new]) := by
    intro new table
    rcases i.put_cases now new table with ⟨-, hput⟩ | ⟨_, r, _, -, -, hr, -⟩
    · exact hput
    · unfold conflicts at hr
      rw [h] at hr
      cases hr
  induction news generalizing table with
  | nil => simp [putAll]
  | cons new news ih => simp [putAll, hput, ih]

end Insert

/-- What comes of a change: the rows that are given back, how many rows were concerned, and the
    tables. -/
structure Effect where
  given : List Row
  count : Nat
  tables : Tables

/-- What a change does at a moment. -/
def Change.effect (now : Instant) (t : Tables) : Change → Effect
  | .insert i =>
    let (stored, table) := i.putAll now i.rows (t i.table)
    ⟨stored.map (·.only i.returning), stored.length, Function.update t i.table table⟩
  | .delete d =>
    let kept := (t d.table).filter fun r => !(r.value d.column).same d.value
    ⟨[], (t d.table).length - kept.length, Function.update t d.table kept⟩

/-! ## Section 3: Connections -/

/-- The connection leads to tables: a transaction can be begun and committed, and what the text
    of a statement says is done at once. -/
structure Executes {σ : Type} (connection : Connection σ) (tables : σ → Tables) : Prop where
  begin : ∀ s, (connection .begin s).1 = Except.ok () ∧
    tables (connection .begin s).2 = tables s
  commit : ∀ s, (connection .commit s).1 = Except.ok () ∧
    tables (connection .commit s).2 = tables s
  query : ∀ st c s, st.change? = some c → ∃ now,
    (connection (.query st) s).1 = Except.ok (c.effect now (tables s)).given ∧
      tables (connection (.query st) s).2 = (c.effect now (tables s)).tables
  execute : ∀ st c s, st.change? = some c → ∃ now,
    (connection (.execute st) s).1 = Except.ok (c.effect now (tables s)).count ∧
      tables (connection (.execute st) s).2 = (c.effect now (tables s)).tables

/-- The tables of a session, and what they were when the transaction was begun. -/
structure Session where
  tables : Tables
  saved : Tables

/-- A connection that does nothing but inserts and deletes, all at one moment. -/
def session (now : Instant) : Connection Session
  | .begin, s => (.ok (), ⟨s.tables, s.tables⟩)
  | .commit, s => (.ok (), ⟨s.tables, s.tables⟩)
  | .rollback, s => ((), ⟨s.saved, s.saved⟩)
  | .query st, s =>
    match st.change? with
    | some c => (.ok (c.effect now s.tables).given, ⟨(c.effect now s.tables).tables, s.saved⟩)
    | none => (.error "not understood", s)
  | .execute st, s =>
    match st.change? with
    | some c => (.ok (c.effect now s.tables).count, ⟨(c.effect now s.tables).tables, s.saved⟩)
    | none => (.error "not understood", s)
  | .dirtyVersion, s => (.ok none, s)
  | .appliedMigrations, s => (.ok [], s)
  | .runScript _, s => (.error "not understood", s)
  | .record _, s => (.error "not understood", s)

theorem executes_session (now : Instant) : Executes (session now) Session.tables where
  begin _ := ⟨rfl, rfl⟩
  commit _ := ⟨rfl, rfl⟩
  query st c s h := by
    refine ⟨now, ?_, ?_⟩ <;> simp only [session, h]
    rfl
  execute st c s h := by
    refine ⟨now, ?_, ?_⟩ <;> simp only [session, h]
    rfl

/-! ## Section 4: Replacing an invoice -/

/-- The row is of a line of this header. -/
def Row.belongsTo (r : Row) (header : Uuid) : Bool :=
  (r.value "canonical_invoice_id").same (.uuid header)

/-- What a header is read from is among the columns that an upsert gives back. -/
theorem storedHeader_only (r : Row) :
    storedHeader (.ok [r.only (HeaderRow.columns.map (·.name))]) = readHeader r := by
  have hvalue : ∀ name ∈ HeaderRow.columns.map (·.name),
      (r.only (HeaderRow.columns.map (·.name))).value name = r.value name := by
    intro name h
    exact Row.value_only h r
  have hrow : HeaderRow.ofRow (r.only (HeaderRow.columns.map (·.name))) = HeaderRow.ofRow r := by
    simp only [HeaderRow.columns, List.map_cons, List.map_nil, List.forall_mem_cons] at hvalue
    simp only [HeaderRow.ofRow, Row.required, Row.optional, HeaderRow.columns, List.map_cons,
      List.map_nil, hvalue]
  simp only [storedHeader, readHeader, hrow]
  rcases HeaderRow.ofRow r with e | h <;> rfl

section Replace

variable {σ : Type} {connection : Connection σ} {tables : σ → Tables}

theorem exec_upsert (hexec : Executes connection tables) (d : HeaderDraft) (s : σ) :
    ∃ now, let stored := (headerInsert d).put now (headerRow d) (tables s headerTable)
      ((upsertHeader d).exec connection s).1 = readHeader stored.1 ∧
        tables ((upsertHeader d).exec connection s).2 =
          Function.update (tables s) headerTable stored.2 := by
  obtain ⟨now, hgiven, htables⟩ :=
    hexec.query _ _ s (Statement.change?_upsertHeader d)
  refine ⟨now, ?_, ?_⟩
  · rw [exec_upsertHeader, hgiven]
    exact storedHeader_only _
  · rw [upsertHeader_eq, Dialogue.exec_bind]
    exact htables

theorem exec_execute (hexec : Executes connection tables) {st : Statement} {c : Change}
    (hc : st.change? = some c) (s : σ) :
    ∃ now, ((execute st).exec connection s).1 = .ok (c.effect now (tables s)).count ∧
      tables ((execute st).exec connection s).2 = (c.effect now (tables s)).tables := by
  obtain ⟨now, hcount, htables⟩ := hexec.execute st c s hc
  refine ⟨now, ?_, ?_⟩ <;> rw [execute, Dialogue.exec_bind, Dialogue.exec_question, hcount]
  · rfl
  · exact htables

theorem exec_deleteLines (hexec : Executes connection tables) (header : Uuid) (s : σ) :
    (∃ n, ((execute (.deleteLines header)).exec connection s).1 = .ok n) ∧
      tables ((execute (.deleteLines header)).exec connection s).2 =
        Function.update (tables s) lineTable
          ((tables s lineTable).filter fun r => !r.belongsTo header) := by
  obtain ⟨now, hcount, htables⟩ :=
    exec_execute hexec (Statement.change?_deleteLines header) s
  exact ⟨⟨_, hcount⟩, htables⟩

theorem exec_insertLines (hexec : Executes connection tables) (lines : List StoredLine) (s : σ) :
    (∃ n, ((execute (.insertLines lines)).exec connection s).1 = .ok n) ∧
      tables ((execute (.insertLines lines)).exec connection s).2 =
        Function.update (tables s) lineTable (tables s lineTable ++ lines.map lineRow) := by
  obtain ⟨now, hcount, htables⟩ :=
    exec_execute hexec (Statement.change?_insertLines lines) s
  have hput : (lineInsert lines).putAll now (lineInsert lines).rows (tables s lineTable) =
      (lines.map lineRow, tables s lineTable ++ lines.map lineRow) :=
    Insert.putAll_of_no_key now rfl _ _
  refine ⟨⟨_, hcount⟩, ?_⟩
  rw [htables]
  unfold Change.effect
  show Function.update (tables s) lineTable
    ((lineInsert lines).putAll now (lineInsert lines).rows (tables s lineTable)).2 = _
  rw [hput]

/-- However the lines are cut into pieces, their rows are all put into the table. -/
theorem exec_insertPieces (hexec : Executes connection tables) (pieces : List (List StoredLine))
    (n : Nat) (s : σ) :
    (∃ k, ((insertPieces pieces n).exec connection s).1 = .ok k) ∧
      tables ((insertPieces pieces n).exec connection s).2 =
        Function.update (tables s) lineTable
          (tables s lineTable ++ pieces.flatten.map lineRow) := by
  induction pieces generalizing n s with
  | nil => exact ⟨⟨n, rfl⟩, by simp [insertPieces, Function.update_eq_self]⟩
  | cons piece pieces ih =>
    -- the next piece goes behind the rows of this one
    obtain ⟨⟨k, hk⟩, htables⟩ := exec_insertLines hexec piece s
    obtain ⟨hrest, htables'⟩ := ih (n + k) ((execute (.insertLines piece)).exec connection s).2
    rw [insertPieces, exec_andThen, hk]
    refine ⟨hrest, ?_⟩
    rw [htables', htables]
    simp

/-- A transaction whose steps go well is committed. -/
theorem exec_inTransaction {ε α : Type} (hexec : Executes connection tables)
    (refused : String → ε) {steps : Talk (Except ε α)} {s : σ} {a : α}
    (hsteps : (steps.exec connection (connection .begin s).2).1 = .ok a) :
    ((inTransaction refused steps).exec connection s).1 = .ok a ∧
      tables ((inTransaction refused steps).exec connection s).2 =
        tables (steps.exec connection (connection .begin s).2).2 := by
  obtain ⟨hbegin, -⟩ := hexec.begin s
  obtain ⟨hcommit, htables⟩ := hexec.commit (steps.exec connection (connection .begin s).2).2
  unfold inTransaction
  rw [Dialogue.exec_bind, Dialogue.exec_question, hbegin]
  simp only [Dialogue.exec_bind, hsteps, Dialogue.exec_question, hcommit]
  exact ⟨rfl, htables⟩

/-- To replace an invoice is to put its header into one table, and its lines into the other in
    place of those that were there. -/
theorem exec_replace (hexec : Executes connection tables) {d : HeaderDraft} (lines : List Line)
    {s : σ} {h : Header}
    (hput : ∀ now,
      readHeader ((headerInsert d).put now (headerRow d) (tables s headerTable)).1 = .ok h) :
    ((replace d lines).exec connection s).1 = .ok h ∧
      (∃ now, tables ((replace d lines).exec connection s).2 headerTable =
        ((headerInsert d).put now (headerRow d) (tables s headerTable)).2) ∧
      tables ((replace d lines).exec connection s).2 lineTable =
        (tables s lineTable).filter (fun r => !r.belongsTo h.id) ++
          (lines.map h.storedLine).map lineRow := by
  have hne : lineTable ≠ headerTable := by decide
  -- the steps are taken from where the transaction was begun, one after another
  let u := (connection .begin s).2
  have hu : tables u = tables s := (hexec.begin s).2
  obtain ⟨now, hheader, hup⟩ := exec_upsert hexec d u
  rw [hu] at hheader hup
  have hstored := hheader.trans (hput now)
  obtain ⟨⟨k, hk⟩, hdel⟩ :=
    exec_deleteLines hexec h.id ((upsertHeader d).exec connection u).2
  obtain ⟨⟨n, hn⟩, hins⟩ := exec_insertPieces hexec
    (Digest.pieces maxLinesPerInsert (lines.map h.storedLine)) 0
    ((execute (.deleteLines h.id)).exec connection ((upsertHeader d).exec connection u).2).2
  rw [flatten_pieces (by decide), hdel, hup] at hins
  have hsteps : ((replaceSteps d lines).exec connection u).1 = .ok h ∧
      tables ((replaceSteps d lines).exec connection u).2 = tables
        ((insertLines (lines.map h.storedLine)).exec connection
          ((execute (.deleteLines h.id)).exec connection
            ((upsertHeader d).exec connection u).2).2).2 := by
    unfold replaceSteps
    rw [exec_andThen, hstored]
    simp only [exec_andThen, hk]
    unfold insertLines
    rw [hn]
    exact ⟨rfl, rfl⟩
  obtain ⟨hresult, htables⟩ := exec_inTransaction hexec StoreError.server hsteps.1
  have hafter := (htables.trans hsteps.2).trans hins
  refine ⟨hresult, ⟨now, ?_⟩, ?_⟩
  · show tables ((inTransaction StoreError.server (replaceSteps d lines)).exec connection s).2
      headerTable = _
    rw [hafter]
    simp [Function.update_of_ne hne.symm]
  · show tables ((inTransaction StoreError.server (replaceSteps d lines)).exec connection s).2
      lineTable = _
    rw [hafter]
    simp [Function.update_of_ne hne]

end Replace

end Reconcile.Database
