import Reconcile.Database.Rows
import Reconcile.Database.Talk

/-! # The statements of the store

    Which statements are sent to the database, and what is bound to their parameters.  The
    columns of a statement that writes or reads whole rows are listed in the order of the row. -/

namespace Reconcile.Database.Statement

/-! ## Section 1: Lists in statements -/

/-- Names with commas between them. -/
def nameList (names : List String) : String := ", ".intercalate names

/-- The names of columns with commas between them. -/
def columnList (columns : List Column) : String := nameList (columns.map (·.name))

/-- The parameters from number `start` on, with commas between them. -/
def parameterList (start count : Nat) : String :=
  nameList ((List.range count).map fun i => "$" ++ toString (start + i))

/-- Rows of `width` parameters each, numbered on from row to row. -/
def rowLists (width count : Nat) : String :=
  nameList ((List.range count).map fun i => "(" ++ parameterList (width * i + 1) width ++ ")")

/-! ## Section 2: Scanning -/

/-- The table of the legacy invoices of a feed. -/
def legacyTable : Feed → String
  | .ocr => "invoices"
  | .xero => "xero_invoices"

/-- A short name for that table. -/
def legacyAlias : Feed → String
  | .ocr => "i"
  | .xero => "x"

/-- The legacy invoice has lines, or a document that cannot be understood. -/
def hasLines : Feed → String
  | .ocr =>
    "( EXISTS (SELECT 1 FROM invoice_line_items m WHERE m.invoice_id = i.id) " ++
      "OR CASE WHEN i.ocr_result IS NULL THEN FALSE " ++
      "WHEN jsonb_typeof(i.ocr_result) <> 'object' THEN TRUE " ++
      "ELSE COALESCE( COALESCE(i.ocr_result->'lineItems', i.ocr_result->'line_items', " ++
      "i.ocr_result->'items') NOT IN ('null'::jsonb, '[]'::jsonb), FALSE ) END )"
  | .xero =>
    "EXISTS (SELECT 1 FROM xero_invoice_line_items xl WHERE xl.xero_invoice_id = x.id)"

/-- The canonical invoice is there, not deleted, and has no lines. -/
def isOrphan : String :=
  "h.deleted_at IS NULL AND NOT EXISTS ( SELECT 1 FROM canonical_invoice_line_items l " ++
    "WHERE l.canonical_invoice_id = h.id )"

/-- The canonical invoice has a line that older rules found no unit for. -/
def hasStaleUnit : String :=
  "EXISTS ( SELECT 1 FROM canonical_invoice_line_items l WHERE l.canonical_invoice_id = h.id " ++
    "AND l.normalization_version <> $4 AND l.quality_status = 'WARN' " ++
    "AND 'UNKNOWN_UNIT_CATEGORY' = ANY (l.quality_warn_reasons) )"

/-- The candidates of a feed, oldest first. -/
def scan (scope : Scope) (feed : Feed) (limit : Nat) : Statement :=
  let a := legacyAlias feed
  { sql := "SELECT " ++ a ++ ".id AS legacy_id, " ++ a ++ ".created_at, " ++
      "CASE WHEN h.id IS NULL THEN 'NEW' WHEN " ++ isOrphan ++ " THEN 'REPAIR' " ++
      "ELSE 'REBUILD' END AS kind FROM " ++ legacyTable feed ++ " " ++ a ++
      " LEFT JOIN canonical_invoices h ON h." ++ feed.pointerColumn ++ " = " ++ a ++ ".id " ++
      "WHERE " ++ a ++ ".organisation_id = $1 AND " ++ a ++ ".location_id = $2 AND " ++
      hasLines feed ++ " AND ( h.id IS NULL OR (" ++ isOrphan ++ ") OR " ++ hasStaleUnit ++
      " ) ORDER BY " ++ a ++ ".created_at ASC, " ++ a ++ ".id ASC LIMIT $3"
    params := [.text scope.organisation, .text scope.location, .integer limit,
      .text rulesVersion]
    columns := CandidateRow.columns }

/-! ## Section 3: Loading -/

def loadScanned (id : String) : Statement where
  sql := "SELECT " ++ columnList LegacyRows.scannedColumns ++ " FROM invoices WHERE id = $1"
  params := [.text id]
  columns := LegacyRows.scannedColumns

def loadKeyedLines (id : String) : Statement where
  sql := "SELECT " ++ columnList LegacyRows.keyedColumns ++
    " FROM invoice_line_items WHERE invoice_id = $1 ORDER BY line_number ASC, id ASC"
  params := [.text id]
  columns := LegacyRows.keyedColumns

/-- The type of an invoice tells whether it is a credit note. -/
def loadBooked (id : String) : Statement where
  sql := "SELECT " ++ nameList (LegacyRows.bookedColumns.map fun c =>
      if c.name = "is_credit_note" then "(invoice_type = 'ACCPAYCREDIT') AS is_credit_note"
      else c.name) ++ " FROM xero_invoices WHERE id = $1"
  params := [.text id]
  columns := LegacyRows.bookedColumns

def loadBookedLines (id : String) : Statement where
  sql := "SELECT " ++ columnList LegacyRows.bookedLineColumns ++
    " FROM xero_invoice_line_items WHERE xero_invoice_id = $1 ORDER BY line_number ASC, id ASC"
  params := [.text id]
  columns := LegacyRows.bookedLineColumns

/-! ## Section 4: Replacing and listing -/

/-- Inserts a header; if its legacy invoice has one already, only what may drift is taken over.
    Gives the header that is stored then. -/
def upsertHeader (d : HeaderDraft) : Statement where
  sql := "INSERT INTO canonical_invoices ( " ++ columnList HeaderRow.columns ++
    " ) VALUES (" ++ parameterList 1 HeaderRow.columns.length ++ ") ON CONFLICT (" ++
    d.link.feed.pointerColumn ++ ") DO UPDATE SET supplier_id = EXCLUDED.supplier_id, " ++
    "source = EXCLUDED.source, invoice_date = EXCLUDED.invoice_date, " ++
    "deleted_at = EXCLUDED.deleted_at, updated_at = now() RETURNING " ++
    columnList HeaderRow.columns
  params := (HeaderRow.ofDraft d).values
  columns := HeaderRow.columns

def deleteLines (header : Uuid) : Statement where
  sql := "DELETE FROM canonical_invoice_line_items WHERE canonical_invoice_id = $1"
  params := [.uuid header]
  columns := []

/-- Inserts lines, each with a parameter for every column. -/
def insertLines (lines : List StoredLine) : Statement where
  sql := "INSERT INTO canonical_invoice_line_items ( " ++ columnList LineRow.columns ++
    " ) VALUES " ++ rowLists LineRow.columns.length lines.length
  params := lines.flatMap fun l => (LineRow.ofStored l).values
  columns := []

/-- The lines of a scope by the reference of their invoice and then by their number. -/
def listLines (scope : Scope) : Statement where
  sql := "SELECT " ++ nameList (LineRow.columns.map fun c => "l." ++ c.name) ++
    " FROM canonical_invoice_line_items l " ++
    "INNER JOIN canonical_invoices h ON h.id = l.canonical_invoice_id " ++
    "WHERE h.organisation_id = $1 AND h.location_id = $2 " ++
    "ORDER BY h.source_invoice_ref ASC, l.line_number ASC"
  params := [.text scope.organisation, .text scope.location]
  columns := LineRow.columns

end Reconcile.Database.Statement
