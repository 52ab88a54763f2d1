import Reconcile.Database.Value

/-! # Rows of the tables

    How headers, lines and legacy invoices stand in the rows of their tables.  Codes stand there
    as text, and the link of a header as two optional columns; both are checked when a row is
    made into a record. -/

namespace Reconcile.Database

/-! ## Section 1: Candidates -/

/-- A candidate as the scan gives it. -/
structure CandidateRow where
  id : String
  createdAt : Instant
  need : String
deriving DecidableEq, Repr

namespace CandidateRow

def columns : List Column := [⟨"legacy_id", .text⟩, ⟨"created_at", .instant⟩, ⟨"kind", .text⟩]

def ofRow (r : Row) : Except StoreError CandidateRow := do
  let id ← r.required "legacy_id" Value.asText?
  let createdAt ← r.required "created_at" Value.asInstant?
  let need ← r.required "kind" Value.asText?
  return ⟨id, createdAt, need⟩

/-- What a candidate needs, as the scan writes it: only the exact codes are known. -/
def readNeed (s : String) : Except StoreError Need :=
  match Coded.ofCode? s with
  | some need => .ok need
  | none => .error (.protocol ("unexpected candidate kind '" ++ s ++ "'"))

def toCandidate (feed : Feed) (r : CandidateRow) : Except StoreError Candidate :=
  (readNeed r.need).map fun need => ⟨feed, r.id, need, r.createdAt⟩

end CandidateRow

/-! ## Section 2: Headers -/

structure HeaderRow where
  id : Uuid
  organisation : String
  location : String
  supplier : Option String
  origin : String
  ocrPointer : Option String
  xeroPointer : Option String
  sourceRef : String
  date : Option Date
  currency : Option String
  deletedAt : Option Instant
deriving DecidableEq, Repr

namespace HeaderRow

def columns : List Column := [
  ⟨"id", .uuid⟩, ⟨"organisation_id", .text⟩, ⟨"location_id", .text⟩, ⟨"supplier_id", .text⟩,
  ⟨"source", .text⟩, ⟨"legacy_invoice_id", .text⟩, ⟨"legacy_xero_invoice_id", .text⟩,
  ⟨"source_invoice_ref", .text⟩, ⟨"invoice_date", .date⟩, ⟨"currency_code", .text⟩,
  ⟨"deleted_at", .instant⟩]

/-- The values of a row in the order of its columns. -/
def values (r : HeaderRow) : List Value := [
  .uuid r.id, .text r.organisation, .text r.location, .ofOption .text r.supplier,
  .text r.origin, .ofOption .text r.ocrPointer, .ofOption .text r.xeroPointer,
  .text r.sourceRef, .ofOption .date r.date, .ofOption .text r.currency,
  .ofOption .instant r.deletedAt]

def ofRow (r : Row) : Except StoreError HeaderRow := do
  let id ← r.required "id" Value.asUuid?
  let organisation ← r.required "organisation_id" Value.asText?
  let location ← r.required "location_id" Value.asText?
  let origin ← r.required "source" Value.asText?
  let sourceRef ← r.required "source_invoice_ref" Value.asText?
  return {
    id := id
    organisation := organisation
    location := location
    supplier := r.optional "supplier_id" Value.asText?
    origin := origin
    ocrPointer := r.optional "legacy_invoice_id" Value.asText?
    xeroPointer := r.optional "legacy_xero_invoice_id" Value.asText?
    sourceRef := sourceRef
    date := r.optional "invoice_date" Value.asDate?
    currency := r.optional "currency_code" Value.asText?
    deletedAt := r.optional "deleted_at" Value.asInstant? }

/-- The row of a header before it is stored. -/
def ofDraft (d : HeaderDraft) : HeaderRow where
  id := d.link.headerId
  organisation := d.organisation
  location := d.location
  supplier := d.supplier
  origin := Coded.code d.origin
  ocrPointer := d.link.ocrPointer
  xeroPointer := d.link.xeroPointer
  sourceRef := d.link.sourceRef
  date := d.date
  currency := d.currency
  deletedAt := d.deletedAt

/-- The origin and the link of a row. -/
def source (r : HeaderRow) : Except DecodeError (Origin × Link) :=
  match (Coded.read r.origin : Except UnknownCode Origin) with
  | .error e => .error (.code e)
  | .ok origin =>
    match Link.resolve origin r.ocrPointer r.xeroPointer with
    | .error e => .error (.link e)
    | .ok link => .ok (origin, link)

/-- The header in a row. -/
def toHeader (r : HeaderRow) : Except StoreError Header :=
  match r.source with
  | .error e => .error (.decode e)
  | .ok (origin, link) => .ok {
      id := r.id
      organisation := r.organisation
      location := r.location
      supplier := r.supplier
      origin := origin
      link := link
      sourceRef := r.sourceRef
      date := r.date
      currency := r.currency
      deletedAt := r.deletedAt }

end HeaderRow

/-! ## Section 3: Lines -/

structure LineRow where
  id : Uuid
  headerId : Uuid
  organisation : String
  location : String
  supplier : Option String
  rules : String
  number : LineNumber
  origin : String
  sourceRef : String
  rawDescription : String
  rawQuantity : Option String
  rawUnit : Option String
  rawUnitPrice : Option String
  rawLineTotal : Option String
  rawProductCode : Option String
  quantity : Option Decimal
  unitPrice : Option Decimal
  lineTotal : Option Decimal
  tax : Option Decimal
  description : String
  unit : Option String
  dimension : String
  currency : Option String
  adjustment : String
  grade : String
  reasons : List String
  confidence : Option Binary64
deriving DecidableEq, Repr

namespace LineRow

def columns : List Column := [
  ⟨"id", .uuid⟩, ⟨"canonical_invoice_id", .uuid⟩, ⟨"organisation_id", .text⟩,
  ⟨"location_id", .text⟩, ⟨"supplier_id", .text⟩, ⟨"normalization_version", .text⟩,
  ⟨"line_number", .integer⟩, ⟨"source", .text⟩, ⟨"source_line_ref", .text⟩,
  ⟨"raw_description", .text⟩, ⟨"raw_quantity", .text⟩, ⟨"raw_unit_label", .text⟩,
  ⟨"raw_unit_price", .text⟩, ⟨"raw_line_total", .text⟩, ⟨"raw_product_code", .text⟩,
  ⟨"quantity", .numeric⟩, ⟨"unit_price", .numeric⟩, ⟨"line_total", .numeric⟩,
  ⟨"tax_amount", .numeric⟩, ⟨"normalized_description", .text⟩, ⟨"unit_label", .text⟩,
  ⟨"unit_category", .text⟩, ⟨"currency_code", .text⟩, ⟨"adjustment_status", .text⟩,
  ⟨"quality_status", .text⟩, ⟨"quality_warn_reasons", .texts⟩, ⟨"confidence_score", .double⟩]

/-- The values of a row in the order of its columns. -/
def values (r : LineRow) : List Value := [
  .uuid r.id, .uuid r.headerId, .text r.organisation, .text r.location,
  .ofOption .text r.supplier, .text r.rules, .ofLineNumber r.number, .text r.origin,
  .text r.sourceRef, .text r.rawDescription, .ofOption .text r.rawQuantity,
  .ofOption .text r.rawUnit, .ofOption .text r.rawUnitPrice, .ofOption .text r.rawLineTotal,
  .ofOption .text r.rawProductCode, .ofOption .numeric r.quantity,
  .ofOption .numeric r.unitPrice, .ofOption .numeric r.lineTotal, .ofOption .numeric r.tax,
  .text r.description, .ofOption .text r.unit, .text r.dimension, .ofOption .text r.currency,
  .text r.adjustment, .text r.grade, .texts r.reasons, .ofOption .double r.confidence]

def ofRow (r : Row) : Except StoreError LineRow := do
  let id ← r.required "id" Value.asUuid?
  let headerId ← r.required "canonical_invoice_id" Value.asUuid?
  let organisation ← r.required "organisation_id" Value.asText?
  let location ← r.required "location_id" Value.asText?
  let rules ← r.required "normalization_version" Value.asText?
  let number ← r.required "line_number" Value.asLineNumber?
  let origin ← r.required "source" Value.asText?
  let sourceRef ← r.required "source_line_ref" Value.asText?
  let rawDescription ← r.required "raw_description" Value.asText?
  let description ← r.required "normalized_description" Value.asText?
  let dimension ← r.required "unit_category" Value.asText?
  let adjustment ← r.required "adjustment_status" Value.asText?
  let grade ← r.required "quality_status" Value.asText?
  let reasons ← r.required "quality_warn_reasons" Value.asTexts?
  return {
    id := id
    headerId := headerId
    organisation := organisation
    location := location
    supplier := r.optional "supplier_id" Value.asText?
    rules := rules
    number := number
    origin := origin
    sourceRef := sourceRef
    rawDescription := rawDescription
    rawQuantity := r.optional "raw_quantity" Value.asText?
    rawUnit := r.optional "raw_unit_label" Value.asText?
    rawUnitPrice := r.optional "raw_unit_price" Value.asText?
    rawLineTotal := r.optional "raw_line_total" Value.asText?
    rawProductCode := r.optional "raw_product_code" Value.asText?
    quantity := r.optional "quantity" Value.asNumeric?
    unitPrice := r.optional "unit_price" Value.asNumeric?
    lineTotal := r.optional "line_total" Value.asNumeric?
    tax := r.optional "tax_amount" Value.asNumeric?
    description := description
    unit := r.optional "unit_label" Value.asText?
    dimension := dimension
    currency := r.optional "currency_code" Value.asText?
    adjustment := adjustment
    grade := grade
    reasons := reasons
    confidence := r.optional "confidence_score" Value.asDouble? }

/-- The row of a stored line. -/
def ofStored (s : StoredLine) : LineRow where
  id := s.id
  headerId := s.headerId
  organisation := s.organisation
  location := s.location
  supplier := s.supplier
  rules := s.rules
  number := s.line.number
  origin := Coded.code s.line.origin
  sourceRef := s.line.sourceRef
  rawDescription := s.line.rawDescription
  rawQuantity := s.line.rawQuantity
  rawUnit := s.line.rawUnit
  rawUnitPrice := s.line.rawUnitPrice
  rawLineTotal := s.line.rawLineTotal
  rawProductCode := s.line.rawProductCode
  quantity := s.line.quantity
  unitPrice := s.line.unitPrice
  lineTotal := s.line.lineTotal
  tax := s.line.tax
  description := s.line.description
  unit := s.line.unit
  dimension := Coded.code s.line.dimension
  currency := s.line.currency
  adjustment := Coded.code s.line.adjustment
  grade := Coded.code s.line.grade
  reasons := s.line.reasons
  confidence := s.line.confidence

/-- The line in a row; of several codes that are unknown the first one in the order of the
    fields is reported. -/
def decode (r : LineRow) : Except UnknownCode StoredLine := do
  let origin ← (Coded.read r.origin : Except UnknownCode Origin)
  let dimension ← (Coded.read r.dimension : Except UnknownCode Dimension)
  let adjustment ← (Coded.read r.adjustment : Except UnknownCode Adjustment)
  let grade ← (Coded.read r.grade : Except UnknownCode Grade)
  return {
    id := r.id
    headerId := r.headerId
    organisation := r.organisation
    location := r.location
    supplier := r.supplier
    rules := r.rules
    line := {
      number := r.number
      origin := origin
      sourceRef := r.sourceRef
      rawDescription := r.rawDescription
      rawQuantity := r.rawQuantity
      rawUnit := r.rawUnit
      rawUnitPrice := r.rawUnitPrice
      rawLineTotal := r.rawLineTotal
      rawProductCode := r.rawProductCode
      quantity := r.quantity
      unitPrice := r.unitPrice
      lineTotal := r.lineTotal
      tax := r.tax
      description := r.description
      unit := r.unit
      dimension := dimension
      currency := r.currency
      adjustment := adjustment
      grade := grade
      reasons := r.reasons
      confidence := r.confidence } }

/-- The line in a row. -/
def toStored (r : LineRow) : Except StoreError StoredLine :=
  match r.decode with
  | .ok s => .ok s
  | .error e => .error (.decode (.code e))

end LineRow

/-! ## Section 4: Legacy invoices -/

namespace LegacyRows

def scannedColumns : List Column := [
  ⟨"id", .text⟩, ⟨"organisation_id", .text⟩, ⟨"location_id", .text⟩, ⟨"supplier_id", .text⟩,
  ⟨"invoice_date", .date⟩, ⟨"currency_code", .text⟩, ⟨"is_verified", .boolean⟩,
  ⟨"ocr_result", .json⟩, ⟨"deleted_at", .instant⟩, ⟨"created_at", .instant⟩]

/-- A scanned invoice without its keyed lines. -/
def scanned (r : Row) : Except StoreError ScannedInvoice := do
  let id ← r.required "id" Value.asText?
  let organisation ← r.required "organisation_id" Value.asText?
  let verified ← r.required "is_verified" Value.asBoolean?
  let createdAt ← r.required "created_at" Value.asInstant?
  return {
    id := id
    organisation := organisation
    location := r.optional "location_id" Value.asText?
    supplier := r.optional "supplier_id" Value.asText?
    date := r.optional "invoice_date" Value.asDate?
    currency := r.optional "currency_code" Value.asText?
    verified := verified
    document := r.optional "ocr_result" Value.asJson?
    keyedLines := []
    deletedAt := r.optional "deleted_at" Value.asInstant?
    createdAt := createdAt }

def keyedColumns : List Column := [
  ⟨"id", .text⟩, ⟨"line_number", .integer⟩, ⟨"description", .text⟩, ⟨"quantity", .numeric⟩,
  ⟨"unit", .text⟩, ⟨"unit_price", .numeric⟩, ⟨"line_total", .numeric⟩,
  ⟨"product_code", .text⟩, ⟨"currency_code", .text⟩, ⟨"adjustment_status", .text⟩]

def keyed (r : Row) : Except StoreError KeyedLine := do
  let id ← r.required "id" Value.asText?
  let number ← r.required "line_number" Value.asLineNumber?
  return {
    id := id
    number := number
    description := r.optional "description" Value.asText?
    quantity := r.optional "quantity" Value.asNumeric?
    unit := r.optional "unit" Value.asText?
    unitPrice := r.optional "unit_price" Value.asNumeric?
    lineTotal := r.optional "line_total" Value.asNumeric?
    productCode := r.optional "product_code" Value.asText?
    currency := r.optional "currency_code" Value.asText?
    adjustment := r.optional "adjustment_status" Value.asText? }

def bookedColumns : List Column := [
  ⟨"id", .text⟩, ⟨"organisation_id", .text⟩, ⟨"location_id", .text⟩, ⟨"supplier_id", .text⟩,
  ⟨"invoice_date", .date⟩, ⟨"currency_code", .text⟩, ⟨"is_credit_note", .boolean⟩,
  ⟨"deleted_at", .instant⟩, ⟨"created_at", .instant⟩]

/-- An invoice of the accounting system without its lines. -/
def booked (r : Row) : Except StoreError BookedInvoice := do
  let id ← r.required "id" Value.asText?
  let organisation ← r.required "organisation_id" Value.asText?
  let creditNote ← r.required "is_credit_note" Value.asBoolean?
  let createdAt ← r.required "created_at" Value.asInstant?
  return {
    id := id
    organisation := organisation
    location := r.optional "location_id" Value.asText?
    supplier := r.optional "supplier_id" Value.asText?
    date := r.optional "invoice_date" Value.asDate?
    currency := r.optional "currency_code" Value.asText?
    creditNote := creditNote
    lines := []
    deletedAt := r.optional "deleted_at" Value.asInstant?
    createdAt := createdAt }

def bookedLineColumns : List Column := [
  ⟨"id", .text⟩, ⟨"line_number", .integer⟩, ⟨"description", .text⟩, ⟨"quantity", .numeric⟩,
  ⟨"unit_amount", .numeric⟩, ⟨"line_amount", .numeric⟩, ⟨"tax_amount", .numeric⟩,
  ⟨"item_code", .text⟩]

def bookedLine (r : Row) : Except StoreError BookedLine := do
  let id ← r.required "id" Value.asText?
  let number ← r.required "line_number" Value.asLineNumber?
  return {
    id := id
    number := number
    description := r.optional "description" Value.asText?
    quantity := r.optional "quantity" Value.asNumeric?
    unitAmount := r.optional "unit_amount" Value.asNumeric?
    lineAmount := r.optional "line_amount" Value.asNumeric?
    taxAmount := r.optional "tax_amount" Value.asNumeric?
    itemCode := r.optional "item_code" Value.asText? }

end LegacyRows

end Reconcile.Database
