import Reconcile.Calendar.Instant
import Reconcile.Decimal
import Reconcile.Invoice.Origin
import Reconcile.Json

/-! # Legacy invoices

    The invoices of the two feeds as they are found.  A scanned invoice has what the recognition
    service made of it and, if somebody corrected it, lines keyed by hand; an invoice of the
    accounting system has the lines that were booked. -/

namespace Reconcile

/-! ## Section 1: Scanned invoices -/

/-- A line keyed by hand. -/
structure KeyedLine where
  id : String
  number : LineNumber
  description : Option String
  quantity : Option Decimal
  unit : Option String
  unitPrice : Option Decimal
  lineTotal : Option Decimal
  productCode : Option String
  currency : Option String
  adjustment : Option String
deriving DecidableEq, Repr

structure ScannedInvoice where
  id : String
  organisation : String
  location : Option String
  supplier : Option String
  date : Option Date
  currency : Option String
  /-- Somebody has checked it. -/
  verified : Bool
  /-- What the recognition service found. -/
  document : Option Json
  keyedLines : List KeyedLine
  deletedAt : Option Instant
  createdAt : Instant
deriving Repr

/-! ## Section 2: Booked invoices -/

/-- A line of the accounting system. -/
structure BookedLine where
  id : String
  number : LineNumber
  description : Option String
  quantity : Option Decimal
  unitAmount : Option Decimal
  lineAmount : Option Decimal
  taxAmount : Option Decimal
  itemCode : Option String
deriving DecidableEq, Repr

structure BookedInvoice where
  id : String
  organisation : String
  location : Option String
  supplier : Option String
  date : Option Date
  currency : Option String
  /-- A credit note: all of it is paid back. -/
  creditNote : Bool
  lines : List BookedLine
  deletedAt : Option Instant
  createdAt : Instant
deriving DecidableEq, Repr

/-! ## Section 3: Either of them -/

inductive LegacyInvoice where
  | ocr (invoice : ScannedInvoice)
  | xero (invoice : BookedInvoice)
deriving Repr

namespace LegacyInvoice

def location : LegacyInvoice → Option String
  | .ocr i => i.location
  | .xero i => i.location

end LegacyInvoice

end Reconcile
