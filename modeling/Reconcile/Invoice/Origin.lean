import Reconcile.Code
import Reconcile.Uuid

/-! # Where invoices come from

    Two feeds deliver legacy invoices: scans that were read by a recognition service, and an
    accounting system that is kept in step.  A canonical invoice also remembers whether its
    lines were keyed by hand.  It is linked to the one legacy invoice it was made from; both
    its identifier and those of its lines are derived from that link. -/

namespace Reconcile

/-! ## Section 1: Feeds and origins -/

/-- A feed of legacy invoices. -/
inductive Feed where
  | ocr
  | xero
deriving DecidableEq, Repr

instance : Coded Feed where
  what := "feed"
  all := [.ocr, .xero]
  code
    | .ocr => "OCR"
    | .xero => "XERO"

/-- Where the content of a canonical record comes from: read from a scan, taken over from the
    accounting system, or keyed by hand. -/
inductive Origin where
  | ocr
  | xero
  | manual
deriving DecidableEq, Repr

instance : Coded Origin where
  what := "source"
  all := [.ocr, .xero, .manual]
  code
    | .ocr => "OCR"
    | .xero => "XERO"
    | .manual => "MANUAL"

/-- The feed that records of this origin belong to; lines are keyed by hand on scans only. -/
def Origin.feed : Origin → Feed
  | .ocr => .ocr
  | .xero => .xero
  | .manual => .ocr

/-! ## Section 2: Links -/

/-- The legacy invoice of a canonical one: a feed, and an identifier within it. -/
inductive Link where
  | ocr (id : String)
  | xero (id : String)
deriving DecidableEq, Repr

namespace Link

def ofFeed : Feed → String → Link
  | .ocr, id => .ocr id
  | .xero, id => .xero id

def feed : Link → Feed
  | .ocr _ => .ocr
  | .xero _ => .xero

def id : Link → String
  | .ocr id => id
  | .xero id => id

/-- The pointer to a scanned invoice. -/
def ocrPointer : Link → Option String
  | .ocr id => some id
  | .xero _ => none

/-- The pointer to an invoice of the accounting system. -/
def xeroPointer : Link → Option String
  | .ocr _ => none
  | .xero id => some id

/-- The text a link is known by; different links have different texts. -/
def sourceRef : Link → String
  | .ocr id => "ocr:" ++ id
  | .xero id => "xero:" ++ id

/-- The identifier of the canonical invoice made from a link. -/
def headerId (link : Link) : Uuid :=
  Uuid.ofName Uuid.oidNamespace link.sourceRef.toUTF8.toList

end Link

/-! ## Section 3: Line numbers -/

/-- The place of a line on its invoice, counted from one. -/
abbrev LineNumber := Int32

namespace LineNumber

/-- The line number at an index counted from zero; past the end of the range it stays at its
    last number. -/
def ofIndex (i : Nat) : LineNumber :=
  if i + 1 ≤ 2147483647 then Int32.ofNat (i + 1) else Int32.maxValue

/-- The four bytes of a line number, the most significant one first. -/
def bytes (n : LineNumber) : List UInt8 := Digest.toBytes 4 n.toUInt32.toNat

end LineNumber

/-- The identifier of a line, which stays the same when the lines of its invoice are rebuilt. -/
def lineId (header : Uuid) (number : LineNumber) : Uuid := Uuid.ofName header number.bytes

end Reconcile
