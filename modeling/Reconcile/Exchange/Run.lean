import Reconcile.Backfill
import Reconcile.Exchange.Canonical

/-! # Runs as JSON

    Candidates, requests, and what a run reports and ends with. -/

namespace Reconcile

open Exchange

/-! ## Section 1: Requests and candidates -/

/-- A scope has its two fields among those of a larger record. -/
def Scope.ofJson? (v : Json) : Option Scope := do
  return ⟨← field text? v "organisationId", ← field text? v "locationId"⟩

def Scope.toJson (s : Scope) : Json := .ofMembers [
  ("organisationId", .text s.organisation),
  ("locationId", .text s.location)]

def Request.toJson (r : Request) : Json := .ofMembers [
  ("scope", r.scope.toJson),
  ("source", ofCode r.selector),
  ("limit", ofNat r.limit)]

namespace Candidate

def ofJson? (v : Json) : Option Candidate := do
  return {
    feed := ← field code? v "source"
    id := ← field text? v "legacyId"
    need := ← field code? v "kind"
    createdAt := ← field instant? v "createdAt" }

def toJson (c : Candidate) : Json := .ofMembers [
  ("source", ofCode c.feed),
  ("legacyId", .text c.id),
  ("kind", ofCode c.need),
  ("createdAt", ofInstant c.createdAt)]

end Candidate

/-- The counts of candidates by what they need. -/
def NeedCount.members (n : NeedCount) : List (String × Json) := [
  ("new", ofNat n.new),
  ("repair", ofNat n.repair),
  ("rebuild", ofNat n.rebuild)]

/-! ## Section 2: Outcomes -/

/-- A count of a run with the share of warnings it gives. -/
def Tally.members (t : Tally) : List (String × Json) := [
  ("invoicesProcessed", ofNat t.invoices),
  ("linesProcessed", ofNat t.lines),
  ("skipped", ofNat t.skipped),
  ("okLines", ofNat t.okLines),
  ("warnLines", ofNat t.warnLines)]

namespace Summary

/-- The fields of a summary in their order; that the run was cancelled is said only if it was. -/
def members (s : Summary) : List (String × Json) :=
  s.tally.members ++ ("warnRate", .float s.warnRate) ::
    (if s.cancelled then [("cancelled", .bool true)] else [])

def toJson (s : Summary) : Json := .ofMembers s.members

end Summary

def Outcome.toJson : Outcome → Json
  | .written lines => .ofMembers [("processed", ofList Line.toJson lines)]
  | .skipped why => .ofMembers [("skipped", ofCode why)]

def Failure.toJson (f : Failure) : Json := .ofMembers [
  ("source", ofCode f.feed),
  ("legacyId", .text f.id),
  ("message", .text f.message)]

def Checkpoint.toJson : Checkpoint → Json
  | .scanStarted feeds limit => .ofMembers [
      ("event", .text "ScanStarted"),
      ("sources", ofList ofCode feeds),
      ("limit", ofNat limit)]
  | .feedScanned feed count => .ofMembers ([
      ("event", .text "SourceScanned"),
      ("source", ofCode feed)] ++ count.members)
  | .feedCompleted feed invoices skipped failed => .ofMembers [
      ("event", .text "SourceCompleted"),
      ("source", ofCode feed),
      ("invoicesProcessed", ofNat invoices),
      ("skipped", ofNat skipped),
      ("failed", ofNat failed)]
  | .completed summary => .ofMembers [
      ("event", .text "Completed"),
      ("result", summary.toJson)]

end Reconcile
