import Reconcile.Store.Memory

/-! # A store with faults

    A store in memory of which scans, loads and listings can be made to fail too, and whose
    scans can be made to give any candidates at all.  Runs are tried against it. -/

namespace Reconcile

/-- What a scan gives whatever is asked. -/
inductive ScanScript where
  | candidates (cs : List Candidate)
  | failure (message : String)
deriving DecidableEq, Repr

structure FaultyStore where
  store : MemoryStore
  /-- The legacy invoices of either feed that cannot be loaded, with what the failure says. -/
  failingLoads : Table String String
  /-- What a listing says when it fails. -/
  failingList : Option String
  /-- The scripts of the scans of each feed, if there are any. -/
  scripts : Table Feed (Option ScanScript)
deriving Repr

namespace FaultyStore

def empty : FaultyStore := ⟨.empty, .empty, none, .empty⟩

/-- From now on loading this legacy invoice fails. -/
def failLoad (s : FaultyStore) (id message : String) : FaultyStore :=
  { s with failingLoads := s.failingLoads.insert id message }

/-- From now on listings fail, or work again. -/
def failList (s : FaultyStore) (message : Option String) : FaultyStore :=
  { s with failingList := message }

/-- From now on scans of a feed follow a script, or none. -/
def scriptScan (s : FaultyStore) (feed : Feed) (script : Option ScanScript) : FaultyStore :=
  { s with scripts := s.scripts.insert feed script }

/-- What the store underneath answers. -/
def plainAnswer (c : Store.Call) (s : FaultyStore) : c.Answer × FaultyStore :=
  let (a, store) := MemoryStore.answer c s.store
  (a, { s with store := store })

/-- Answers what a store is asked. -/
def answer : Dialogue.Answerer Store.Call.Answer FaultyStore
  | .scan scope feed limit, s =>
    match (s.scripts.get? feed).join with
    | some (.candidates cs) => (.ok cs, s)
    | some (.failure m) => (.error (.protocol m), s)
    | none => s.plainAnswer (.scan scope feed limit)
  | .load feed id, s =>
    match s.failingLoads.get? id with
    | some m => (.error (.protocol m), s)
    | none => s.plainAnswer (.load feed id)
  | .replace d lines, s => s.plainAnswer (.replace d lines)
  | .list scope, s =>
    match s.failingList with
    | some m => (.error (.protocol m), s)
    | none => s.plainAnswer (.list scope)

end FaultyStore

end Reconcile
