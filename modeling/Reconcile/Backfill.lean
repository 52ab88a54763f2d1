import Reconcile.Store
import Reconcile.Tally
import Reconcile.Transcription

/-! # The backfill

    A run goes through the feeds of a request one after another.  For each feed it asks the
    store for candidates and processes them one by one, oldest first; between two of them it
    looks whether it was cancelled.  A candidate that fails does not stop the others: failures
    are collected and make the whole run fail at its end.  A scan that fails ends the run at
    once. -/

namespace Reconcile

/-! ## Section 1: Outcomes -/

/-- Why an invoice is left out without being a failure. -/
inductive Skip where
  | legacyInvoiceMissing
  | missingLocation
  | noLineItems
deriving DecidableEq, Repr

instance : Coded Skip where
  what := "skip reason"
  all := [.legacyInvoiceMissing, .missingLocation, .noLineItems]
  code
    | .legacyInvoiceMissing => "LEGACY_INVOICE_MISSING"
    | .missingLocation => "MISSING_LOCATION"
    | .noLineItems => "NO_LINE_ITEMS"

/-- What became of an invoice. -/
inductive Outcome where
  | written (lines : List Line)
  | skipped (why : Skip)
deriving DecidableEq, Repr

/-- Why an invoice failed. -/
inductive InvoiceError where
  | store (e : StoreError)
  | link (e : LinkError)
  | document (invoiceId : String) (e : DocumentError)
deriving DecidableEq, Repr

def InvoiceError.message : InvoiceError → String
  | .store e => "database error: " ++ e.message
  | .link e => "legacy link invariant violated: " ++ e.message
  | .document invoiceId e =>
    "extracted document of invoice '" ++ invoiceId ++ "' is malformed: " ++ e.message

/-- A candidate that failed, and why. -/
structure Failure where
  feed : Feed
  id : String
  message : String
deriving DecidableEq, Repr

/-- Why a run failed. -/
inductive RunError where
  | scanFailed (e : StoreError)
  | batchFailed (failures : List Failure) (partly : Summary)
deriving DecidableEq, Repr

def RunError.message : RunError → String
  | .scanFailed e => "database error: " ++ e.message
  | .batchFailed failures _ => toString failures.length ++ " invoice(s) failed during backfill"

/-- What a run reports on its way. -/
inductive Checkpoint where
  | scanStarted (feeds : List Feed) (limit : Nat)
  | feedScanned (feed : Feed) (count : NeedCount)
  | feedCompleted (feed : Feed) (invoices skipped failed : Nat)
  | completed (summary : Summary)
deriving DecidableEq, Repr

/-! ## Section 2: Questions of a run -/

namespace Backfill

inductive Question where
  | store (call : Store.Call)
  | isCancelled
  | report (checkpoint : Checkpoint)

def Question.Answer : Question → Type
  | .store call => call.Answer
  | .isCancelled => Bool
  | .report _ => Unit

/-- A dialogue with a store. -/
abbrev StoreTalk := Dialogue Store.Call.Answer

/-- A dialogue with a store and with whoever started the run. -/
abbrev RunTalk := Dialogue Question.Answer

def call (c : Store.Call) : StoreTalk (Except StoreError c.Result) := Dialogue.question c

def overStore {α : Type} (d : StoreTalk α) : RunTalk α :=
  Dialogue.refine (A := Store.Call.Answer) (B := Question.Answer)
    (fun c => Dialogue.question (Question.store c)) d

def isCancelled : RunTalk Bool := Dialogue.question (A := Question.Answer) .isCancelled

def report (c : Checkpoint) : RunTalk Unit := Dialogue.question (A := Question.Answer) (.report c)

/-! ## Section 3: One invoice -/

/-- What a legacy invoice says in canonical terms. -/
def transcribe : LegacyInvoice → Except InvoiceError Transcription
  | .ocr i =>
    match i.transcribe with
    | .ok t => .ok t
    | .error e => .error (.document i.id e)
  | .xero i => .ok i.transcribe

/-- The header of a transcribed invoice at a location. -/
def draft (t : Transcription) (location : String) (link : Link) : HeaderDraft where
  organisation := t.organisation
  location := location
  supplier := t.supplier
  origin := t.origin
  link := link
  date := t.date
  currency := t.currency
  deletedAt := t.deletedAt

/-- What is to be written for a legacy invoice, or why nothing is. -/
inductive Plan where
  | write (draft : HeaderDraft) (lines : List Line)
  | skip (why : Skip)
deriving DecidableEq, Repr

/-- Decides what is to be written for a legacy invoice.  An invoice without lines is not
    written, because its header would be found as one to repair ever after. -/
def plan (found : Option LegacyInvoice) : Except InvoiceError Plan :=
  match found with
  | none => .ok (.skip .legacyInvoiceMissing)
  | some invoice =>
    match invoice.location with
    | none => .ok (.skip .missingLocation)
    | some location =>
      match transcribe invoice with
      | .error e => .error e
      | .ok t =>
        if t.lines.isEmpty then .ok (.skip .noLineItems)
        else
          match Link.resolve t.origin t.ocrPointer t.xeroPointer with
          | .error e => .error (.link e)
          | .ok link => .ok (.write (draft t location link) t.lines)

/-- Loads the invoice of a candidate and writes what there is to write. -/
def process (c : Candidate) : StoreTalk (Except InvoiceError Outcome) := do
  match ← call (.load c.feed c.id) with
  | .error e => return .error (.store e)
  | .ok found =>
    match plan found with
    | .error e => return .error e
    | .ok (.skip why) => return .ok (.skipped why)
    | .ok (.write d lines) =>
      match ← call (.replace d lines) with
      | .error e => return .error (.store e)
      | .ok _ => return .ok (.written lines)

/-! ## Section 4: The whole run -/

/-- The candidates of a feed. -/
def scan (scope : Scope) (feed : Feed) (limit : Nat) :
    StoreTalk (Except StoreError (List Candidate)) := do
  match ← call (.scan scope feed limit) with
  | .error e => return .error e
  | .ok rows => return .ok (Candidate.select feed limit rows)

/-- How far a run has come. -/
structure Progress where
  tally : Tally
  failures : List Failure
deriving DecidableEq, Repr

namespace Progress

def start : Progress := ⟨.empty, []⟩

/-- The progress after a candidate was processed. -/
def add (p : Progress) (c : Candidate) : Except InvoiceError Outcome → Progress
  | .ok (.written lines) => { p with tally := p.tally.addInvoice lines }
  | .ok (.skipped _) => { p with tally := p.tally.addSkip }
  | .error e => { p with failures := p.failures ++ [⟨c.feed, c.id, e.message⟩] }

end Progress

/-- Processes candidates one by one until the run is cancelled; also tells whether it was. -/
def drain : List Candidate → Progress → RunTalk (Bool × Progress)
  | [], p => return (false, p)
  | c :: cs, p => do
    if ← isCancelled then return (true, p)
    let outcome ← overStore (process c)
    drain cs (p.add c outcome)

/-- Scans one feed and processes its candidates. -/
def sweepFeed (r : Request) (feed : Feed) (p : Progress) :
    RunTalk (Except StoreError (Bool × Progress)) := do
  match ← overStore (scan r.scope feed r.limit) with
  | .error e => return .error e
  | .ok candidates =>
    report (.feedScanned feed (.of candidates))
    let (cancelled, q) ← drain candidates p
    report (.feedCompleted feed (q.tally.invoices - p.tally.invoices)
      (q.tally.skipped - p.tally.skipped) (q.failures.length - p.failures.length))
    return .ok (cancelled, q)

/-- Goes through the feeds one after another until the run is cancelled. -/
def sweep (r : Request) : List Feed → Progress → RunTalk (Except StoreError (Bool × Progress))
  | [], p => return .ok (false, p)
  | feed :: feeds, p => do
    match ← sweepFeed r feed p with
    | .error e => return .error e
    | .ok (true, q) => return .ok (true, q)
    | .ok (false, q) => sweep r feeds q

/-- A run for a request. -/
def run (r : Request) : RunTalk (Except RunError Summary) := do
  report (.scanStarted r.selector.feeds r.limit)
  match ← sweep r r.selector.feeds .start with
  | .error e => return .error (.scanFailed e)
  | .ok (cancelled, p) =>
    let summary := p.tally.summary cancelled
    report (.completed summary)
    if p.failures.isEmpty then return .ok summary
    else return .error (.batchFailed p.failures summary)

end Backfill

end Reconcile
