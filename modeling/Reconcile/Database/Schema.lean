import Reconcile.Database.Talk
import Reconcile.Digest.Sha384

/-! # The schema of the canonical tables

    The tables of canonical invoices are made by one migration.  The database keeps account of
    the migrations it has seen, each with the digest of its script: one that is unknown here, or
    whose script has changed since, is an error, and one that was left half-way has to be mended
    by hand. -/

namespace Reconcile.Database

/-! ## Section 1: The script -/

/-- The lines of the script that makes the tables. -/
def tableScript : List String := [
  "-- 规范发票头：按旧指针唯一 (每张旧发票最多一个头)",
  "CREATE TABLE IF NOT EXISTS canonical_invoices (",
  "    id                      UUID PRIMARY KEY,",
  "    organisation_id         TEXT        NOT NULL,",
  "    location_id             TEXT        NOT NULL,",
  "    supplier_id             TEXT,",
  "    source                  TEXT        NOT NULL CHECK (source IN ('OCR', 'XERO', 'MANUAL')),",
  "    legacy_invoice_id       TEXT        UNIQUE,",
  "    legacy_xero_invoice_id  TEXT        UNIQUE,",
  "    source_invoice_ref      TEXT        NOT NULL,",
  "    invoice_date            DATE,",
  "    currency_code           TEXT,",
  "    deleted_at              TIMESTAMPTZ,",
  "    created_at              TIMESTAMPTZ NOT NULL DEFAULT now(),",
  "    updated_at              TIMESTAMPTZ NOT NULL DEFAULT now(),",
  "    CONSTRAINT canonical_invoices_one_legacy_pointer CHECK (",
  "        (legacy_invoice_id IS NOT NULL) <> (legacy_xero_invoice_id IS NOT NULL)",
  "    )",
  ");",
  "",
  "CREATE INDEX IF NOT EXISTS canonical_invoices_scope_idx",
  "    ON canonical_invoices (organisation_id, location_id);",
  "",
  "-- 规范发票行：每次处理整体替换",
  "CREATE TABLE IF NOT EXISTS canonical_invoice_line_items (",
  "    id                      UUID PRIMARY KEY,",
  "    canonical_invoice_id    UUID        NOT NULL REFERENCES canonical_invoices (id) ON DELETE CASCADE,",
  "    organisation_id         TEXT        NOT NULL,",
  "    location_id             TEXT        NOT NULL,",
  "    supplier_id             TEXT,",
  "    source                  TEXT        NOT NULL,",
  "    source_line_ref         TEXT        NOT NULL,",
  "    normalization_version   TEXT        NOT NULL,",
  "    line_number             INTEGER     NOT NULL,",
  "    raw_description         TEXT        NOT NULL,",
  "    raw_quantity            TEXT,",
  "    raw_unit_label          TEXT,",
  "    raw_unit_price          TEXT,",
  "    raw_line_total          TEXT,",
  "    raw_product_code        TEXT,",
  "    quantity                NUMERIC,",
  "    unit_price              NUMERIC,",
  "    line_total              NUMERIC,",
  "    tax_amount              NUMERIC,",
  "    normalized_description  TEXT        NOT NULL,",
  "    unit_label              TEXT,",
  "    unit_category           TEXT        NOT NULL,",
  "    currency_code           TEXT,",
  "    adjustment_status       TEXT        NOT NULL,",
  "    quality_status          TEXT        NOT NULL,",
  "    quality_warn_reasons    TEXT[]      NOT NULL DEFAULT '\x7b\x7d',",
  "    confidence_score        DOUBLE PRECISION,",
  "    UNIQUE (canonical_invoice_id, line_number)",
  ");",
  "",
  "CREATE INDEX IF NOT EXISTS canonical_invoice_line_items_header_idx",
  "    ON canonical_invoice_line_items (canonical_invoice_id);",
  "",
  "CREATE INDEX IF NOT EXISTS canonical_invoice_line_items_warn_idx",
  "    ON canonical_invoice_line_items (canonical_invoice_id)",
  "    WHERE quality_status = 'WARN';",
  ""]

/-- The migration that makes the canonical tables. -/
def canonicalTables : Migration where
  version := 20240601000000
  description := "canonical invoices"
  script := "\n".intercalate tableScript

/-- All migrations, in order. -/
def migrations : List Migration := [canonicalTables]

/-- What a script is recognised by. -/
def Migration.checksum (m : Migration) : List UInt8 := Digest.sha384 m.script.toUTF8.toList

/-! ## Section 2: Bringing the schema up to date -/

def failed (message : String) : MigrationError := .failed message

/-- The first applied migration that is not known here. -/
def unknownMigration? (applied : List AppliedMigration) : Option Int :=
  (applied.find? fun a => !migrations.any (·.version = a.version)).map (·.version)

/-- Makes a change of the schema and keeps account of it, in one transaction. -/
def apply (m : Migration) : Talk (Except MigrationError Unit) :=
  inTransaction failed <|
    (Dialogue.question (A := Question.Answer) (.runScript m.script)).bind fun
      | .error e => .done (.error (failed e))
      | .ok () => (Dialogue.question (A := Question.Answer) (.record m)).bind fun
        | .error e => .done (.error (failed e))
        | .ok () => .done (.ok ())

/-- Applies the migrations that were not applied before; of one that was, the script must not
    have changed. -/
def applyMissing (applied : List AppliedMigration) :
    List Migration → Talk (Except MigrationError Unit)
  | [] => .done (.ok ())
  | m :: ms =>
    match applied.reverse.find? (·.version = m.version) with
    | some a =>
      if a.checksum = m.checksum then applyMissing applied ms
      else .done (.error (.modified m.version))
    | none => andThen (apply m) fun () => applyMissing applied ms

/-- Brings the schema up to date. -/
def migrate : Talk (Except MigrationError Unit) :=
  (Dialogue.question (A := Question.Answer) .dirtyVersion).bind fun
    | .error e => .done (.error (failed e))
    | .ok (some version) => .done (.error (.dirty version))
    | .ok none => (Dialogue.question (A := Question.Answer) .appliedMigrations).bind fun
      | .error e => .done (.error (failed e))
      | .ok applied =>
        match unknownMigration? applied with
        | some version => .done (.error (.missing version))
        | none => applyMissing applied migrations

end Reconcile.Database
