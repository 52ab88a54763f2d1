import Reconcile.Backfill
import Reconcile.Database.Statements

/-! # The store in a database

    What a store is asked, answered by statements.  Reading makes all rows into records before
    any record is interpreted.  An invoice is replaced in one transaction: its header is put in
    place, all its lines are deleted, and the new ones are inserted, a bounded number at a time. -/

namespace Reconcile.Database

/-! ## Section 1: Reading -/

/-- Applies a step that may fail to each of some values; the first failure counts. -/
def each {ε α β : Type} (f : α → Except ε β) : List α → Except ε (List β)
  | [] => .ok []
  | a :: as =>
    match f a with
    | .error e => .error e
    | .ok b =>
      match each f as with
      | .error e => .error e
      | .ok bs => .ok (b :: bs)

/-- The rows of a statement, each made into a record and then interpreted. -/
def queryAll {ρ α : Type} (s : Statement) (record : Row → Except StoreError ρ)
    (interpret : ρ → Except StoreError α) : Talk (Except StoreError (List α)) :=
  (query s).bind fun
    | .error e => .done (.error e)
    | .ok rows =>
      match each record rows with
      | .error e => .done (.error e)
      | .ok records => .done (each interpret records)

/-- The first row of a statement, if there is one. -/
def queryFirst {α : Type} (s : Statement) (record : Row → Except StoreError α) :
    Talk (Except StoreError (Option α)) :=
  (query s).bind fun
    | .error e => .done (.error e)
    | .ok [] => .done (.ok none)
    | .ok (row :: _) => .done ((record row).map some)

def scan (scope : Scope) (feed : Feed) (limit : Nat) :
    Talk (Except StoreError (List Candidate)) :=
  queryAll (.scan scope feed limit) CandidateRow.ofRow (·.toCandidate feed)

/-- A scanned invoice with its keyed lines. -/
def loadScanned (id : String) : Talk (Except StoreError (Option LegacyInvoice)) :=
  andThen (queryFirst (.loadScanned id) LegacyRows.scanned) fun
    | none => .done (.ok none)
    | some invoice =>
      andThen (queryAll (.loadKeyedLines id) LegacyRows.keyed .ok) fun lines =>
        .done (.ok (some (.ocr { invoice with keyedLines := lines })))

/-- An invoice of the accounting system with its lines. -/
def loadBooked (id : String) : Talk (Except StoreError (Option LegacyInvoice)) :=
  andThen (queryFirst (.loadBooked id) LegacyRows.booked) fun
    | none => .done (.ok none)
    | some invoice =>
      andThen (queryAll (.loadBookedLines id) LegacyRows.bookedLine .ok) fun lines =>
        .done (.ok (some (.xero { invoice with lines := lines })))

def load : Feed → String → Talk (Except StoreError (Option LegacyInvoice))
  | .ocr, id => loadScanned id
  | .xero, id => loadBooked id

def list (scope : Scope) : Talk (Except StoreError (List StoredLine)) :=
  queryAll (.listLines scope) LineRow.ofRow (·.toStored)

/-! ## Section 2: Replacing -/

/-- How many lines are inserted by one statement at most. -/
def maxLinesPerInsert : Nat := 1000

/-- Puts a header in place; the answer is the one that is stored then. -/
def upsertHeader (d : HeaderDraft) : Talk (Except StoreError Header) :=
  (query (.upsertHeader d)).bind fun
    | .error e => .done (.error e)
    | .ok [] => .done (.error .rowNotFound)
    | .ok (row :: _) =>
      match HeaderRow.ofRow row with
      | .error e => .done (.error e)
      | .ok r => .done r.toHeader

/-- One insert for each piece of the lines; the answer is how many rows were inserted. -/
def insertPieces : List (List StoredLine) → (inserted : Nat) → Talk (Except StoreError Nat)
  | [], n => .done (.ok n)
  | piece :: pieces, n =>
    andThen (execute (.insertLines piece)) fun k => insertPieces pieces (n + k)

/-- Inserts lines, a bounded number at a time. -/
def insertLines (lines : List StoredLine) : Talk (Except StoreError Nat) :=
  insertPieces (Digest.pieces maxLinesPerInsert lines) 0

/-- Replaces an invoice and its lines. -/
def replace (d : HeaderDraft) (lines : List Line) : Talk (Except StoreError Header) :=
  inTransaction .server <|
    andThen (upsertHeader d) fun header =>
      andThen (execute (.deleteLines header.id)) fun _ =>
        andThen (insertLines (lines.map header.storedLine)) fun _ => .done (.ok header)

/-! ## Section 3: The store -/

/-- Finds the answer to what a store is asked. -/
def find : (c : Store.Call) → Talk c.Answer
  | .scan scope feed limit => scan scope feed limit
  | .load feed id => load feed id
  | .replace d lines => replace d lines
  | .list scope => list scope

/-- A dialogue with a store, held with the database. -/
def overDatabase {α : Type} (d : Backfill.StoreTalk α) : Talk α :=
  Dialogue.refine (A := Store.Call.Answer) (B := Question.Answer) find d

end Reconcile.Database
