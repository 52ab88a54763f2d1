import Reconcile.Exchange.Field
import Reconcile.Invoice.Header
import Reconcile.Transcription

/-! # Canonical invoices as JSON

    The fields of canonical records are named in words that run together, each but the first
    with a capital letter.  What is absent is written as null. -/

namespace Reconcile

open Exchange

/-! ## Section 1: Links and headers -/

namespace Link

/-- A link names its feed with a capital letter only at the start. -/
def ofJson? (v : Json) : Option Link := do
  let id ← field text? v "id"
  match ← field text? v "kind" with
  | "Ocr" => some (.ocr id)
  | "Xero" => some (.xero id)
  | _ => none

def toJson : Link → Json
  | .ocr id => .ofMembers [("kind", .text "Ocr"), ("id", .text id)]
  | .xero id => .ofMembers [("kind", .text "Xero"), ("id", .text id)]

/-- A link together with all that is derived from it. -/
def describe (link : Link) : Json := .ofMembers [
  ("link", link.toJson),
  ("sourceRef", .text link.sourceRef),
  ("headerId", ofUuid link.headerId),
  ("legacyInvoiceId", orNull .text link.ocrPointer),
  ("legacyXeroInvoiceId", orNull .text link.xeroPointer)]

end Link

def HeaderDraft.ofJson? (v : Json) : Option HeaderDraft := do
  return {
    organisation := ← field text? v "organisationId"
    location := ← field text? v "locationId"
    supplier := ← optionalField text? v "supplierId"
    origin := ← field code? v "source"
    link := ← field Link.ofJson? v "legacyLink"
    date := ← optionalField date? v "date"
    currency := ← optionalField text? v "currencyCode"
    deletedAt := ← optionalField instant? v "deletedAt" }

def Header.toJson (h : Header) : Json := .ofMembers [
  ("id", ofUuid h.id),
  ("organisationId", .text h.organisation),
  ("locationId", .text h.location),
  ("supplierId", orNull .text h.supplier),
  ("source", ofCode h.origin),
  ("legacyLink", h.link.toJson),
  ("sourceInvoiceRef", .text h.sourceRef),
  ("date", orNull ofDate h.date),
  ("currencyCode", orNull .text h.currency),
  ("deletedAt", orNull ofInstant h.deletedAt)]

/-! ## Section 2: Lines -/

namespace Line

def ofJson? (v : Json) : Option Line := do
  return {
    number := ← field lineNumber? v "lineNumber"
    origin := ← field code? v "source"
    sourceRef := ← field text? v "sourceLineRef"
    rawDescription := ← field text? v "rawDescription"
    rawQuantity := ← optionalField text? v "rawQuantity"
    rawUnit := ← optionalField text? v "rawUnitLabel"
    rawUnitPrice := ← optionalField text? v "rawUnitPrice"
    rawLineTotal := ← optionalField text? v "rawLineTotal"
    rawProductCode := ← optionalField text? v "rawProductCode"
    quantity := ← optionalField decimal? v "quantity"
    unitPrice := ← optionalField decimal? v "unitPrice"
    lineTotal := ← optionalField decimal? v "lineTotal"
    tax := ← optionalField decimal? v "taxAmount"
    description := ← field text? v "normalizedDescription"
    unit := ← optionalField text? v "unitLabel"
    dimension := ← field code? v "unitCategory"
    currency := ← optionalField text? v "currencyCode"
    adjustment := ← field code? v "adjustmentStatus"
    grade := ← field code? v "qualityStatus"
    reasons := ← field (list? text?) v "warnReasons"
    confidence := ← optionalField number? v "confidenceScore" }

/-- The fields of a line. -/
def members (l : Line) : List (String × Json) := [
  ("lineNumber", ofLineNumber l.number),
  ("source", ofCode l.origin),
  ("sourceLineRef", .text l.sourceRef),
  ("rawDescription", .text l.rawDescription),
  ("rawQuantity", orNull .text l.rawQuantity),
  ("rawUnitLabel", orNull .text l.rawUnit),
  ("rawUnitPrice", orNull .text l.rawUnitPrice),
  ("rawLineTotal", orNull .text l.rawLineTotal),
  ("rawProductCode", orNull .text l.rawProductCode),
  ("quantity", orNull ofDecimal l.quantity),
  ("unitPrice", orNull ofDecimal l.unitPrice),
  ("lineTotal", orNull ofDecimal l.lineTotal),
  ("taxAmount", orNull ofDecimal l.tax),
  ("normalizedDescription", .text l.description),
  ("unitLabel", orNull .text l.unit),
  ("unitCategory", ofCode l.dimension),
  ("currencyCode", orNull .text l.currency),
  ("adjustmentStatus", ofCode l.adjustment),
  ("qualityStatus", ofCode l.grade),
  ("warnReasons", ofList .text l.reasons),
  ("confidenceScore", orNull .float l.confidence)]

def toJson (l : Line) : Json := .ofMembers l.members

end Line

/-- A stored line has the fields of its line among its own. -/
def StoredLine.toJson (s : StoredLine) : Json := .ofMembers (s.line.members ++ [
  ("id", ofUuid s.id),
  ("canonicalInvoiceId", ofUuid s.headerId),
  ("organisationId", .text s.organisation),
  ("locationId", .text s.location),
  ("supplierId", orNull .text s.supplier),
  ("normalizationVersion", .text s.rules)])

def GradedLine.toJson (g : GradedLine) : Json := .ofMembers [
  ("rawDescription", .text g.rawDescription),
  ("normalizedDescription", .text g.description),
  ("unitLabel", orNull .text g.unit),
  ("unitCategory", ofCode g.dimension),
  ("currencyCode", orNull .text g.currency),
  ("adjustmentStatus", ofCode g.adjustment),
  ("qualityStatus", ofCode g.grade),
  ("qualityWarnReasons", ofList .text g.reasons)]

/-! ## Section 3: Documents and transcriptions -/

def DocumentItem.toJson (i : DocumentItem) : Json := .ofMembers [
  ("description", .text i.description),
  ("unit", orNull .text i.unit),
  ("productCode", orNull .text i.productCode),
  ("currencyCode", orNull .text i.currency),
  ("rawQuantity", orNull .text i.rawQuantity),
  ("rawUnitPrice", orNull .text i.rawUnitPrice),
  ("rawLineTotal", orNull .text i.rawLineTotal),
  ("quantity", orNull ofDecimal i.quantity),
  ("unitPrice", orNull ofDecimal i.unitPrice),
  ("lineTotal", orNull ofDecimal i.lineTotal),
  ("confidence", orNull .float i.confidence),
  ("parseFailed", .bool i.notes.failed),
  ("parseWarnings", ofList .text i.notes.warnings),
  ("hasProblems", .bool i.notes.hasProblems)]

def Document.toJson (d : Document) : Json := .ofMembers [
  ("currencyCode", orNull .text d.currency),
  ("lineItems", ofList DocumentItem.toJson d.items)]

def Transcription.toJson (t : Transcription) : Json := .ofMembers [
  ("source", ofCode t.origin),
  ("legacyInvoiceId", orNull .text t.ocrPointer),
  ("legacyXeroInvoiceId", orNull .text t.xeroPointer),
  ("organisationId", .text t.organisation),
  ("supplierId", orNull .text t.supplier),
  ("date", orNull ofDate t.date),
  ("currencyCode", orNull .text t.currency),
  ("deletedAt", orNull ofInstant t.deletedAt),
  ("lines", ofList Line.toJson t.lines)]

end Reconcile
