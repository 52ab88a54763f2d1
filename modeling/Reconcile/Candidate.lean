import Reconcile.Calendar.Instant
import Reconcile.Invoice.Origin

/-! # Candidates

    A legacy invoice is a candidate when there is something to do for it: it has no canonical
    invoice yet, or one that was left without lines, or one whose lines were made under older
    rules that did not know a unit. -/

namespace Reconcile

/-! ## Section 1: What there is to do -/

/-- What a candidate needs. -/
inductive Need where
  | new
  | repair
  | rebuild
deriving DecidableEq, Repr

instance : Coded Need where
  what := "candidate kind"
  all := [.new, .repair, .rebuild]
  code
    | .new => "NEW"
    | .repair => "REPAIR"
    | .rebuild => "REBUILD"

/-- What is known of a canonical invoice when it is decided whether there is something to do. -/
structure HeaderState where
  deleted : Bool
  lineCount : Nat
  /-- A line made under other rules than the present ones has a unit that was not known. -/
  hasStaleUnknownUnit : Bool
deriving DecidableEq, Repr

/-- What a legacy invoice needs, given the state of its canonical invoice, if there is one. -/
def Need.ofState? : Option HeaderState → Option Need
  | none => some .new
  | some h =>
    if !h.deleted && h.lineCount = 0 then some .repair
    else if h.hasStaleUnknownUnit then some .rebuild
    else none

/-! ## Section 2: Candidates -/

structure Candidate where
  feed : Feed
  id : String
  need : Need
  createdAt : Instant
deriving DecidableEq, Repr

namespace Candidate

/-- Older candidates come first; of the same age the one with the smaller identifier. -/
def le (a b : Candidate) : Bool :=
  if a.createdAt = b.createdAt then a.id ≤ b.id else a.createdAt.le b.createdAt

/-- The first of the candidates with the same identifier. -/
def firstById : List Candidate → List Candidate
  | [] => []
  | c :: cs => c :: (firstById cs).filter (·.id ≠ c.id)

/-- At most `limit` candidates, the oldest ones. -/
def oldest (limit : Nat) (cs : List Candidate) : List Candidate := (cs.mergeSort le).take limit

/-- The candidates of a feed among those a store gave, whatever it gave: each identifier once,
    at most `limit`, the oldest ones, in order. -/
def select (feed : Feed) (limit : Nat) (cs : List Candidate) : List Candidate :=
  oldest limit (firstById (cs.filter (·.feed = feed)))

end Candidate

/-! ## Section 3: Counts -/

/-- How many candidates have each need. -/
structure NeedCount where
  new : Nat
  repair : Nat
  rebuild : Nat
deriving DecidableEq, Repr

def NeedCount.of (cs : List Candidate) : NeedCount where
  new := cs.countP (·.need = .new)
  repair := cs.countP (·.need = .repair)
  rebuild := cs.countP (·.need = .rebuild)

end Reconcile
