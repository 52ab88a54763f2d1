import Reconcile.Calendar.Instant
import Reconcile.Invoice.Line

/-! # Canonical invoices

    A header says whose invoice it is and what it was made from.  When the same legacy invoice
    is processed again, the header keeps its identity and takes over only what may drift; its
    lines are made anew from the header that is stored. -/

namespace Reconcile

/-- The version of the rules for units, which every stored line carries.  Lines made under
    different versions are not to be mixed. -/
def rulesVersion : String := "units-v1-pack-excluded"

/-! ## Section 1: Headers -/

/-- A header before it is stored. -/
structure HeaderDraft where
  organisation : String
  location : String
  supplier : Option String
  origin : Origin
  link : Link
  date : Option Date
  currency : Option String
  deletedAt : Option Instant
deriving DecidableEq, Repr

/-- The header of a canonical invoice. -/
structure Header where
  id : Uuid
  organisation : String
  location : String
  supplier : Option String
  origin : Origin
  link : Link
  sourceRef : String
  date : Option Date
  currency : Option String
  deletedAt : Option Instant
deriving DecidableEq, Repr

namespace HeaderDraft

/-- The header of a new invoice. -/
def toHeader (d : HeaderDraft) (id : Uuid) : Header where
  id := id
  organisation := d.organisation
  location := d.location
  supplier := d.supplier
  origin := d.origin
  link := d.link
  sourceRef := d.link.sourceRef
  date := d.date
  currency := d.currency
  deletedAt := d.deletedAt

/-- The header of an invoice that is there already: supplier, origin, date and deletion are
    taken over, everything else stays. -/
def refresh (d : HeaderDraft) (h : Header) : Header :=
  { h with supplier := d.supplier, origin := d.origin, date := d.date, deletedAt := d.deletedAt }

end HeaderDraft

/-! ## Section 2: Stored lines -/

/-- A line as it is stored under a header. -/
structure StoredLine where
  id : Uuid
  headerId : Uuid
  organisation : String
  location : String
  supplier : Option String
  rules : String
  line : Line
deriving DecidableEq, Repr

/-- A line of this header, made under the present rules. -/
def Header.storedLine (h : Header) (line : Line) : StoredLine where
  id := lineId h.id line.number
  headerId := h.id
  organisation := h.organisation
  location := h.location
  supplier := h.supplier
  rules := rulesVersion
  line := line

end Reconcile
