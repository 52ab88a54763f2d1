import Reconcile.Decimal.Amount
import Reconcile.Json
import Reconcile.Quality

/-! # Recognised documents

    The recognition service hands over a JSON object with a currency and a list of items, under
    names that have changed over time.  A number that cannot be read is noted at its item and
    never spoils the document; only a value of the wrong shape does. -/

namespace Reconcile

/-! ## Section 1: Documents -/

/-- An item of a document: texts as they were found, numbers also as values. -/
structure DocumentItem where
  description : String
  unit : Option String
  productCode : Option String
  currency : Option String
  rawQuantity : Option String
  rawUnitPrice : Option String
  rawLineTotal : Option String
  quantity : Option Decimal
  unitPrice : Option Decimal
  lineTotal : Option Decimal
  confidence : Option Binary64
  notes : NumericNotes
deriving DecidableEq, Repr

structure Document where
  currency : Option String
  items : List DocumentItem
deriving DecidableEq, Repr

/-- Why a value is no document. -/
inductive DocumentError where
  | notAnObject
  | itemsNotArray (name : String)
  | itemNotAnObject (index : Nat)
deriving DecidableEq, Repr

namespace DocumentError

def message : DocumentError → String
  | .notAnObject => "extracted document must be a JSON object"
  | .itemsNotArray name => "extracted document field '" ++ name ++ "' must be an array"
  | .itemNotAnObject index => "extracted line item " ++ toString index ++ " must be a JSON object"

end DocumentError

/-! ## Section 2: Fields -/

namespace Document

/-- The members of an object. -/
abbrev Members := List (String × Json)

/-- A text that is more than white space, or a number as text. -/
def textOf? : Json → Option String
  | .text s => if Text.isBlankText s then none else some s
  | .integer n => some (toString n)
  | .float x => some x.text
  | _ => none

/-- The first of several names under which there is a text. -/
def textField (ms : Members) (names : List String) : Option String :=
  names.findSome? fun name => (ms.lookup name).bind textOf?

/-- What was written for a number; null is nothing. -/
def rawNumber? : Json → Option String
  | .null => none
  | .text s => some s
  | v => some v.compact

/-- What was written for a number, and its value. -/
structure NumberField where
  raw : Option String
  value : Option Decimal
deriving DecidableEq, Repr

/-- The number under the first of several names that is there at all. -/
def numberField (ms : Members) (names : List String) : NumberField :=
  match (names.findSome? (ms.lookup ·)).bind rawNumber? with
  | none => ⟨none, none⟩
  | some raw => ⟨some raw, Decimal.amount? raw⟩

/-- The complaint about a number that was written and cannot be read. -/
def complaint (label : String) (f : NumberField) : List String :=
  match f.raw, f.value with
  | some raw, none => [label ++ ": unparseable '" ++ raw ++ "'"]
  | _, _ => []

/-- A number as floating-point. -/
def floatOf? : Json → Option Binary64
  | .integer n => some (Binary64.ofInt n)
  | .float x => some x
  | _ => none

def currencyNames : List String := ["currencyCode", "currency_code", "currency"]

/-! ## Section 3: Reading -/

/-- An item from the members of its object. -/
def readItem (ms : Members) : DocumentItem :=
  let quantity := numberField ms ["quantity", "qty"]
  let unitPrice := numberField ms ["unitPrice", "unit_price"]
  let lineTotal := numberField ms ["amount", "lineTotal", "line_total", "total"]
  let warnings := complaint "quantity" quantity ++ complaint "unitPrice" unitPrice ++
    complaint "lineTotal" lineTotal
  { description := (textField ms ["description", "desc"]).getD ""
    unit := textField ms ["unit", "uom"]
    productCode := textField ms ["productCode", "product_code", "code"]
    currency := textField ms currencyNames
    rawQuantity := quantity.raw
    rawUnitPrice := unitPrice.raw
    rawLineTotal := lineTotal.raw
    quantity := quantity.value
    unitPrice := unitPrice.value
    lineTotal := lineTotal.value
    confidence := (ms.lookup "confidence").bind floatOf?
    notes := ⟨!warnings.isEmpty, warnings⟩ }

/-- The items from the values of their list, of which the first one has this index. -/
def readItems : (index : Nat) → List Json → Except DocumentError (List DocumentItem)
  | _, [] => .ok []
  | i, v :: vs =>
    match v.members? with
    | none => .error (.itemNotAnObject i)
    | some ms =>
      match readItems (i + 1) vs with
      | .error e => .error e
      | .ok items => .ok (readItem ms :: items)

/-- The names of the list of items, the first that is there counts. -/
def itemNames : List String := ["lineItems", "line_items", "items"]

/-- The list of items among the members of a document, with its name. -/
def itemList? (ms : Members) : Option (String × Json) :=
  itemNames.findSome? fun name => (ms.lookup name).map fun v => (name, v)

/-- The values in the list of items; a missing list and null are empty. -/
def itemValues (ms : Members) : Except DocumentError (List Json) :=
  match itemList? ms with
  | none => .ok []
  | some (_, .null) => .ok []
  | some (_, .array vs) => .ok vs
  | some (name, _) => .error (.itemsNotArray name)

/-- Reads a document. -/
def read (v : Json) : Except DocumentError Document :=
  match v.members? with
  | none => .error .notAnObject
  | some ms =>
    match itemValues ms with
    | .error e => .error e
    | .ok vs =>
      match readItems 0 vs with
      | .error e => .error e
      | .ok items => .ok ⟨textField ms currencyNames, items⟩

end Document

end Reconcile
