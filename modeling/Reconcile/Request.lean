import Reconcile.Invoice.Origin

/-! # Requests

    A backfill is requested for one location of one organisation, from one feed or both, and for
    a bounded number of invoices of each feed.  A request that exists is valid. -/

namespace Reconcile

/-! ## Section 1: Scope and feeds -/

/-- One location of one organisation. -/
structure Scope where
  organisation : String
  location : String
deriving DecidableEq, Repr

/-- Which feeds are asked for. -/
inductive Selector where
  | ocr
  | xero
  | all
deriving DecidableEq, Repr

instance : Coded Selector where
  what := "source"
  all := [.ocr, .xero, .all]
  code
    | .ocr => "OCR"
    | .xero => "XERO"
    | .all => "ALL"

/-- The feeds, in the order they are processed. -/
def Selector.feeds : Selector → List Feed
  | .ocr => [.ocr]
  | .xero => [.xero]
  | .all => [.ocr, .xero]

/-! ## Section 2: Requests -/

/-- How many invoices of a feed are processed if the request does not say. -/
def defaultLimit : Nat := 200

/-- How many invoices of a feed can be asked for. -/
def maxLimit : Nat := 2000

theorem one_le_defaultLimit : 1 ≤ defaultLimit := by decide

theorem defaultLimit_le_max : defaultLimit ≤ maxLimit := by decide

/-- Why a request is refused. -/
inductive RequestError where
  | limitOutOfRange (limit : Nat)
  | missingScope
  | unknownSource (text : String)
deriving DecidableEq, Repr

namespace RequestError

def message : RequestError → String
  | .limitOutOfRange limit =>
    "limit must be between 1 and " ++ toString maxLimit ++ ", got " ++ toString limit
  | .missingScope => "organisation_id and location_id are required"
  | .unknownSource text => "unknown source '" ++ text ++ "', expected OCR, XERO or ALL"

end RequestError

structure Request where
  scope : Scope
  selector : Selector
  limit : Nat
  one_le_limit : 1 ≤ limit
  limit_le_max : limit ≤ maxLimit
deriving DecidableEq, Repr

namespace Request

/-- The scope names an organisation and a location. -/
def namesScope (s : Scope) : Bool :=
  !Text.isBlankText s.organisation && !Text.isBlankText s.location

/-- A request, with the default limit if none is given. -/
def make (scope : Scope) (selector : Selector) (limit : Option Nat) : Except RequestError Request :=
  let limit := limit.getD defaultLimit
  if h : 1 ≤ limit ∧ limit ≤ maxLimit then
    if namesScope scope then .ok ⟨scope, selector, limit, h.1, h.2⟩ else .error .missingScope
  else .error (.limitOutOfRange limit)

/-- A request with the selector in writing, which is read first. -/
def read (scope : Scope) (selector : String) (limit : Option Nat) : Except RequestError Request :=
  match (Coded.read selector : Except UnknownCode Selector) with
  | .error e => .error (.unknownSource e.text)
  | .ok s => make scope s limit

end Request

end Reconcile
