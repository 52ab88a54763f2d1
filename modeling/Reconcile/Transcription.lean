import Reconcile.Document
import Reconcile.Invoice.Header
import Reconcile.Invoice.Legacy
import Reconcile.WrittenLine

/-! # Transcribing legacy invoices

    A legacy invoice is transcribed into the lines of a canonical one.  On a scanned invoice the
    lines keyed by hand count, if there are any; otherwise the items of the recognised document
    do.  An invoice of the accounting system is taken over line by line.  Lines are numbered by
    their place, whatever number the source gave them. -/

namespace Reconcile

/-! ## Section 1: Lines of any source -/

/-- A line of a legacy invoice, before it is resolved and graded. -/
structure SourceLine where
  number : LineNumber
  origin : Origin
  sourceRef : String
  description : String
  unit : Option String
  productCode : Option String
  currency : Option String
  rawQuantity : Option String
  rawUnitPrice : Option String
  rawLineTotal : Option String
  quantity : Option Decimal
  unitPrice : Option Decimal
  lineTotal : Option Decimal
  tax : Option Decimal
  adjustment : Option Adjustment
  notes : NumericNotes
  confidence : Option Binary64
deriving DecidableEq, Repr

namespace SourceLine

/-- What is resolved and graded of a line. -/
def written (s : SourceLine) (headerCurrency : Option String) : WrittenLine where
  description := s.description
  unit := s.unit
  quantity := s.quantity
  unitPrice := s.unitPrice
  lineTotal := s.lineTotal
  currency := s.currency
  headerCurrency := headerCurrency
  adjustment := s.adjustment
  notes := s.notes

/-- The canonical line. -/
def toLine (s : SourceLine) (headerCurrency : Option String) : Line :=
  let g := (s.written headerCurrency).resolve
  { number := s.number
    origin := s.origin
    sourceRef := s.sourceRef
    rawDescription := g.rawDescription
    rawQuantity := s.rawQuantity
    rawUnit := s.unit
    rawUnitPrice := s.rawUnitPrice
    rawLineTotal := s.rawLineTotal
    rawProductCode := s.productCode
    quantity := s.quantity
    unitPrice := s.unitPrice
    lineTotal := s.lineTotal
    tax := s.tax
    description := g.description
    unit := g.unit
    dimension := g.dimension
    currency := g.currency
    adjustment := g.adjustment
    grade := g.grade
    reasons := g.reasons
    confidence := s.confidence }

end SourceLine

/-! ## Section 2: The three kinds of source line -/

/-- An item of a recognised document as a line. -/
def DocumentItem.sourceLine (invoiceId : String) (index : Nat) (item : DocumentItem) :
    SourceLine where
  number := .ofIndex index
  origin := .ocr
  sourceRef := "ocr:" ++ invoiceId ++ ":" ++ toString (LineNumber.ofIndex index).toInt
  description := item.description
  unit := item.unit
  productCode := item.productCode
  currency := item.currency
  rawQuantity := item.rawQuantity
  rawUnitPrice := item.rawUnitPrice
  rawLineTotal := item.rawLineTotal
  quantity := item.quantity
  unitPrice := item.unitPrice
  lineTotal := item.lineTotal
  tax := none
  adjustment := none
  notes := item.notes
  confidence := item.confidence

/-- A line keyed by hand; an adjustment that is no code counts as not given. -/
def KeyedLine.sourceLine (index : Nat) (line : KeyedLine) : SourceLine where
  number := .ofIndex index
  origin := .manual
  sourceRef := "manual:" ++ line.id
  description := line.description.getD ""
  unit := line.unit
  productCode := line.productCode
  currency := line.currency
  rawQuantity := line.quantity.map Decimal.plain
  rawUnitPrice := line.unitPrice.map Decimal.plain
  rawLineTotal := line.lineTotal.map Decimal.plain
  quantity := line.quantity
  unitPrice := line.unitPrice
  lineTotal := line.lineTotal
  tax := none
  adjustment := line.adjustment.bind fun s => (Coded.read s).toOption
  notes := .clean
  confidence := none

/-- A booked line of an invoice with this adjustment. -/
def BookedLine.sourceLine (adjustment : Adjustment) (index : Nat) (line : BookedLine) :
    SourceLine where
  number := .ofIndex index
  origin := .xero
  sourceRef := "xero:" ++ line.id
  description := line.description.getD ""
  unit := none
  productCode := line.itemCode
  currency := none
  rawQuantity := line.quantity.map Decimal.plain
  rawUnitPrice := line.unitAmount.map Decimal.plain
  rawLineTotal := line.lineAmount.map Decimal.plain
  quantity := line.quantity
  unitPrice := line.unitAmount
  lineTotal := line.lineAmount
  tax := line.taxAmount
  adjustment := some adjustment
  notes := .clean
  confidence := none

/-! ## Section 3: Invoices -/

/-- A transcribed invoice.  Its pointers are not resolved yet. -/
structure Transcription where
  origin : Origin
  ocrPointer : Option String
  xeroPointer : Option String
  organisation : String
  supplier : Option String
  date : Option Date
  currency : Option String
  deletedAt : Option Instant
  lines : List Line
deriving DecidableEq, Repr

namespace ScannedInvoice

/-- Somebody keyed lines by hand. -/
def isKeyed (i : ScannedInvoice) : Bool := !i.keyedLines.isEmpty

/-- The document that counts.  Next to keyed lines it only supplies a currency, so there a
    malformed one is no worse than none. -/
def usableDocument (i : ScannedInvoice) : Except DocumentError (Option Document) :=
  match i.document with
  | none => .ok none
  | some v =>
    match Document.read v with
    | .ok d => .ok (some d)
    | .error e => if i.isKeyed then .ok none else .error e

/-- The currency of the invoice, or else the one of its document, in normal form. -/
def headerCurrency (i : ScannedInvoice) (document : Option Document) : Option String :=
  Currency.normalize? (i.currency.or (document.bind (·.currency)))

/-- The lines that count. -/
def sourceLines (i : ScannedInvoice) (document : Option Document) : List SourceLine :=
  if i.isKeyed then i.keyedLines.mapIdx KeyedLine.sourceLine
  else ((document.map (·.items)).getD []).mapIdx (DocumentItem.sourceLine i.id)

/-- Transcribes a scanned invoice. -/
def transcribe (i : ScannedInvoice) : Except DocumentError Transcription :=
  (i.usableDocument).map fun document =>
    let currency := i.headerCurrency document
    { origin := if i.isKeyed then .manual else .ocr
      ocrPointer := some i.id
      xeroPointer := none
      organisation := i.organisation
      supplier := i.supplier
      date := i.date
      currency := currency
      deletedAt := i.deletedAt
      lines := (i.sourceLines document).map (·.toLine currency) }

/-- The invoice has lines to transcribe.  A malformed document counts as such, so that its
    failure comes to light when the invoice is processed. -/
def hasLines (i : ScannedInvoice) : Bool :=
  i.isKeyed ||
    match i.document with
    | none => false
    | some v =>
      match Document.read v with
      | .ok d => !d.items.isEmpty
      | .error _ => true

end ScannedInvoice

namespace BookedInvoice

/-- All lines of a credit note are credited. -/
def adjustment (i : BookedInvoice) : Adjustment := if i.creditNote then .credited else .plain

/-- Transcribes an invoice of the accounting system. -/
def transcribe (i : BookedInvoice) : Transcription :=
  let currency := Currency.normalize? i.currency
  { origin := .xero
    ocrPointer := none
    xeroPointer := some i.id
    organisation := i.organisation
    supplier := i.supplier
    date := i.date
    currency := currency
    deletedAt := i.deletedAt
    lines := (i.lines.mapIdx (BookedLine.sourceLine i.adjustment)).map (·.toLine currency) }

/-- The invoice has lines to transcribe. -/
def hasLines (i : BookedInvoice) : Bool := !i.lines.isEmpty

end BookedInvoice

end Reconcile
