import Reconcile.Exchange.Field
import Reconcile.Invoice.Legacy

/-! # Legacy invoices as JSON

    Both feeds name their fields in lower case with underscores. -/

namespace Reconcile

open Exchange

/-! ## Section 1: Scanned invoices -/

namespace KeyedLine

def ofJson? (v : Json) : Option KeyedLine := do
  return {
    id := ← field text? v "id"
    number := ← field lineNumber? v "line_number"
    description := ← optionalField text? v "description"
    quantity := ← optionalField decimal? v "quantity"
    unit := ← optionalField text? v "unit"
    unitPrice := ← optionalField decimal? v "unit_price"
    lineTotal := ← optionalField decimal? v "line_total"
    productCode := ← optionalField text? v "product_code"
    currency := ← optionalField text? v "currency_code"
    adjustment := ← optionalField text? v "adjustment_status" }

def toJson (l : KeyedLine) : Json := .ofMembers [
  ("id", .text l.id),
  ("line_number", ofLineNumber l.number),
  ("description", orNull .text l.description),
  ("quantity", orNull ofDecimal l.quantity),
  ("unit", orNull .text l.unit),
  ("unit_price", orNull ofDecimal l.unitPrice),
  ("line_total", orNull ofDecimal l.lineTotal),
  ("product_code", orNull .text l.productCode),
  ("currency_code", orNull .text l.currency),
  ("adjustment_status", orNull .text l.adjustment)]

end KeyedLine

namespace ScannedInvoice

def ofJson? (v : Json) : Option ScannedInvoice := do
  return {
    id := ← field text? v "id"
    organisation := ← field text? v "organisation_id"
    location := ← optionalField text? v "location_id"
    supplier := ← optionalField text? v "supplier_id"
    date := ← optionalField date? v "invoice_date"
    currency := ← optionalField text? v "currency_code"
    verified := ← field boolean? v "is_verified"
    document := given? v "ocr_result"
    keyedLines := ← field (list? KeyedLine.ofJson?) v "manual_lines"
    deletedAt := ← optionalField instant? v "deleted_at"
    createdAt := ← field instant? v "created_at" }

def toJson (i : ScannedInvoice) : Json := .ofMembers [
  ("id", .text i.id),
  ("organisation_id", .text i.organisation),
  ("location_id", orNull .text i.location),
  ("supplier_id", orNull .text i.supplier),
  ("invoice_date", orNull ofDate i.date),
  ("currency_code", orNull .text i.currency),
  ("is_verified", .bool i.verified),
  ("ocr_result", i.document.getD .null),
  ("manual_lines", ofList KeyedLine.toJson i.keyedLines),
  ("deleted_at", orNull ofInstant i.deletedAt),
  ("created_at", ofInstant i.createdAt)]

end ScannedInvoice

/-! ## Section 2: Booked invoices -/

namespace BookedLine

def ofJson? (v : Json) : Option BookedLine := do
  return {
    id := ← field text? v "id"
    number := ← field lineNumber? v "line_number"
    description := ← optionalField text? v "description"
    quantity := ← optionalField decimal? v "quantity"
    unitAmount := ← optionalField decimal? v "unit_amount"
    lineAmount := ← optionalField decimal? v "line_amount"
    taxAmount := ← optionalField decimal? v "tax_amount"
    itemCode := ← optionalField text? v "item_code" }

def toJson (l : BookedLine) : Json := .ofMembers [
  ("id", .text l.id),
  ("line_number", ofLineNumber l.number),
  ("description", orNull .text l.description),
  ("quantity", orNull ofDecimal l.quantity),
  ("unit_amount", orNull ofDecimal l.unitAmount),
  ("line_amount", orNull ofDecimal l.lineAmount),
  ("tax_amount", orNull ofDecimal l.taxAmount),
  ("item_code", orNull .text l.itemCode)]

end BookedLine

namespace BookedInvoice

def ofJson? (v : Json) : Option BookedInvoice := do
  return {
    id := ← field text? v "id"
    organisation := ← field text? v "organisation_id"
    location := ← optionalField text? v "location_id"
    supplier := ← optionalField text? v "supplier_id"
    date := ← optionalField date? v "invoice_date"
    currency := ← optionalField text? v "currency_code"
    creditNote := ← field boolean? v "is_credit_note"
    lines := ← field (list? BookedLine.ofJson?) v "line_items"
    deletedAt := ← optionalField instant? v "deleted_at"
    createdAt := ← field instant? v "created_at" }

def toJson (i : BookedInvoice) : Json := .ofMembers [
  ("id", .text i.id),
  ("organisation_id", .text i.organisation),
  ("location_id", orNull .text i.location),
  ("supplier_id", orNull .text i.supplier),
  ("invoice_date", orNull ofDate i.date),
  ("currency_code", orNull .text i.currency),
  ("is_credit_note", .bool i.creditNote),
  ("line_items", ofList BookedLine.toJson i.lines),
  ("deleted_at", orNull ofInstant i.deletedAt),
  ("created_at", ofInstant i.createdAt)]

end BookedInvoice

/-- An invoice under the name of its feed. -/
def LegacyInvoice.toJson : LegacyInvoice → Json
  | .ocr i => .ofMembers [("ocr", i.toJson)]
  | .xero i => .ofMembers [("xero", i.toJson)]

end Reconcile
