import Reconcile.Invoice.Origin

/-! # Resolving the pointers of a record

    A record points at its legacy invoice through one of two optional columns.  Exactly one of
    them must hold an identifier, and it must be the one that the origin of the record uses; a
    pointer with nothing but white space in it counts as absent. -/

namespace Reconcile

/-- What is wrong with the pointers of a record. -/
inductive LinkError where
  | noPointer (origin : Origin)
  | bothPointers (origin : Origin) (ocrId xeroId : String)
  | wrongPointer (origin : Origin) (used : Feed) (id : String)
deriving DecidableEq, Repr

/-- The column that holds the pointers into a feed. -/
def Feed.pointerColumn : Feed → String
  | .ocr => "legacy_invoice_id"
  | .xero => "legacy_xero_invoice_id"

namespace LinkError

def message : LinkError → String
  | .noPointer origin => Coded.code origin ++ " record has no legacy pointer"
  | .bothPointers origin ocrId xeroId =>
    Coded.code origin ++ " record points at both legacy invoice '" ++ ocrId ++
      "' and xero invoice '" ++ xeroId ++ "'"
  | .wrongPointer origin used id =>
    Coded.code origin ++ " record must not use the " ++ used.pointerColumn ++ " pointer ('" ++ id
      ++ "')"

end LinkError

namespace Link

/-- A pointer that holds more than white space. -/
def present (pointer : Option String) : Option String :=
  pointer.filter fun id => !Text.isBlankText id

/-- A link into a feed, if the origin uses that feed. -/
def ofPointer (origin : Origin) (used : Feed) (id : String) : Except LinkError Link :=
  if origin.feed = used then .ok (ofFeed used id) else .error (.wrongPointer origin used id)

/-- The link that two pointers stand for. -/
def resolve (origin : Origin) (ocrPointer xeroPointer : Option String) : Except LinkError Link :=
  match present ocrPointer, present xeroPointer with
  | none, none => .error (.noPointer origin)
  | some a, some b => .error (.bothPointers origin a b)
  | some a, none => ofPointer origin .ocr a
  | none, some b => ofPointer origin .xero b

end Link

end Reconcile
