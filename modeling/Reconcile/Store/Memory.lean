import Reconcile.Store
import Reconcile.Transcription

/-! # A store in memory

    For trials and tests: tables that are searched from their start.  An invoice and its lines
    are one entry, which is replaced as a whole.  Writes to chosen invoices can be made to fail. -/

namespace Reconcile

/-! ## Section 1: Tables -/

/-- A finite map; a new key goes to the end, a known one keeps its place. -/
structure Table (κ α : Type) where
  entries : List (κ × α)
  nodup_keys : (entries.map (·.1)).Nodup
deriving Repr

namespace Table

open Pairs

variable {κ α : Type} [DecidableEq κ]

def empty : Table κ α := ⟨[], List.nodup_nil⟩

/-- The value of a key. -/
def get? (t : Table κ α) (k : κ) : Option α := t.entries.lookup k

/-- A list of pairs with the value of a key replaced, or with a new pair at its end. -/
def put (k : κ) (a : α) : List (κ × α) → List (κ × α)
  | [] => [(k, a)]
  | e :: es => if e.1 = k then (k, a) :: es else e :: put k a es

theorem mem_keys_put (k l : κ) (a : α) (es : List (κ × α)) :
    l ∈ (put k a es).map (·.1) ↔ l = k ∨ l ∈ es.map (·.1) := by
  induction es with
  | nil => simp [put]
  | cons e es ih =>
    by_cases he : e.1 = k
    · simp [put, he]
    · simp [put, he, ih, or_left_comm]

theorem nodup_keys_put (k : κ) (a : α) {es : List (κ × α)} (h : (es.map (·.1)).Nodup) :
    ((put k a es).map (·.1)).Nodup := by
  induction es with
  | nil => simp [put]
  | cons e es ih =>
    obtain ⟨hnot, hrest⟩ := List.nodup_cons.mp h
    by_cases he : e.1 = k
    · simpa [put, he] using ⟨by simpa [he] using hnot, hrest⟩
    · have hput : e.1 ∉ (put k a es).map (·.1) := by
        rw [mem_keys_put]
        exact fun hmem => hmem.elim he hnot
      simp only [put, he, if_false, List.map_cons]
      exact List.nodup_cons.mpr ⟨hput, ih hrest⟩

/-- The table with a value for a key. -/
def insert (t : Table κ α) (k : κ) (a : α) : Table κ α :=
  ⟨put k a t.entries, nodup_keys_put k a t.nodup_keys⟩

theorem lookup_put (k l : κ) (a : α) (es : List (κ × α)) :
    (put k a es).lookup l = if l = k then some a else es.lookup l := by
  induction es with
  | nil => simp [put, lookup_cons_ite]
  | cons e es ih =>
    obtain ⟨m, b⟩ := e
    by_cases hm : m = k
    · subst hm
      by_cases h : l = m <;> simp [put, lookup_cons_ite, h]
    · by_cases hl : l = m
      · subst hl
        simp [put, hm]
      · simp [put, lookup_cons_ite, hm, hl, ih]

@[simp] theorem get?_empty (l : κ) : (empty : Table κ α).get? l = none := rfl

theorem get?_insert (t : Table κ α) (k l : κ) (a : α) :
    (t.insert k a).get? l = if l = k then some a else t.get? l :=
  lookup_put k l a t.entries

def values (t : Table κ α) : List α := t.entries.map (·.2)

theorem lookup_eq_some_iff {k : κ} {a : α} {es : List (κ × α)} (h : (es.map (·.1)).Nodup) :
    es.lookup k = some a ↔ (k, a) ∈ es := by
  induction es with
  | nil => simp
  | cons e es ih =>
    obtain ⟨l, b⟩ := e
    obtain ⟨hnot, hrest⟩ := List.nodup_cons.mp h
    by_cases hk : k = l
    · subst hk
      have hne : ∀ c, (k, c) ∉ es := fun c hc => hnot (List.mem_map.mpr ⟨_, hc, rfl⟩)
      simp [hne, eq_comm]
    · simp [lookup_cons_ite, hk, ih hrest]

theorem mem_values {t : Table κ α} {a : α} : a ∈ t.values ↔ ∃ k, t.get? k = some a := by
  simp [values, get?, lookup_eq_some_iff t.nodup_keys]

/-- If every value knows its key, the values show each key once. -/
theorem map_values_eq_keys {t : Table κ α} {key : α → κ}
    (h : ∀ {k a}, t.get? k = some a → key a = k) :
    t.values.map key = t.entries.map (·.1) := by
  rw [values, List.map_map]
  apply List.map_congr_left
  rintro ⟨k, a⟩ hmem
  exact h ((lookup_eq_some_iff t.nodup_keys).mpr hmem)

def size (t : Table κ α) : Nat := t.entries.length

end Table

/-! ## Section 2: The store -/

/-- A canonical invoice with its lines. -/
structure Entry where
  header : Header
  lines : List StoredLine
deriving DecidableEq, Repr

namespace Entry

/-- The line was made under other rules than the present ones, which did not know its unit. -/
def isStale (l : StoredLine) : Bool :=
  l.rules ≠ rulesVersion && l.line.grade = .warn
    && l.line.reasons.contains (Coded.code Flag.unknownUnitCategory)

def state (e : Entry) : HeaderState where
  deleted := e.header.deletedAt.isSome
  lineCount := e.lines.length
  hasStaleUnknownUnit := e.lines.any isStale

/-- The entry for a draft: a new one, or the old one with its header refreshed; its lines are
    made from the header that results. -/
def replaced (old : Option Entry) (d : HeaderDraft) (lines : List Line) : Entry :=
  let base := match old with
    | some e => e.header
    | none => d.toHeader d.link.headerId
  let header := d.refresh base
  ⟨header, lines.map header.storedLine⟩

end Entry

/-- Legacy invoices stand under their own identifiers. -/
structure MemoryStore where
  scanned : Table String ScannedInvoice
  booked : Table String BookedInvoice
  canonical : Table Link Entry
  /-- The invoices that cannot be written, each with what the failure says. -/
  failingWrites : Table Link String
  scanned_id : ∀ {id i}, scanned.get? id = some i → i.id = id
  booked_id : ∀ {id i}, booked.get? id = some i → i.id = id
deriving Repr

namespace MemoryStore

def empty : MemoryStore where
  scanned := .empty
  booked := .empty
  canonical := .empty
  failingWrites := .empty
  scanned_id h := by simp at h
  booked_id h := by simp at h

def addScanned (s : MemoryStore) (i : ScannedInvoice) : MemoryStore :=
  { s with
    scanned := s.scanned.insert i.id i
    scanned_id := fun h => by
      rw [Table.get?_insert] at h
      split at h
      · simp_all
      · exact s.scanned_id h }

def addBooked (s : MemoryStore) (i : BookedInvoice) : MemoryStore :=
  { s with
    booked := s.booked.insert i.id i
    booked_id := fun h => by
      rw [Table.get?_insert] at h
      split at h
      · simp_all
      · exact s.booked_id h }

/-- Puts a canonical invoice into the store as it is. -/
def seed (s : MemoryStore) (header : Header) (lines : List StoredLine) : MemoryStore :=
  { s with canonical := s.canonical.insert header.link ⟨header, lines⟩ }

/-- From now on writes to this invoice fail. -/
def failWrites (s : MemoryStore) (link : Link) (message : String) : MemoryStore :=
  { s with failingWrites := s.failingWrites.insert link message }

def header? (s : MemoryStore) (link : Link) : Option Header :=
  (s.canonical.get? link).map (·.header)

def lines (s : MemoryStore) (link : Link) : List StoredLine :=
  ((s.canonical.get? link).map (·.lines)).getD []

/-! ## Section 3: Scanning -/

/-- A legacy invoice of a scope with lines to transcribe. -/
structure Eligible where
  id : String
  createdAt : Instant
deriving DecidableEq, Repr

/-- The legacy invoices of a feed that are in scope and have lines to transcribe. -/
def eligible (s : MemoryStore) (scope : Scope) : Feed → List Eligible
  | .ocr =>
    (s.scanned.values.filter fun i =>
      i.organisation = scope.organisation && i.location = some scope.location && i.hasLines).map
        fun i => ⟨i.id, i.createdAt⟩
  | .xero =>
    (s.booked.values.filter fun i =>
      i.organisation = scope.organisation && i.location = some scope.location && i.hasLines).map
        fun i => ⟨i.id, i.createdAt⟩

/-- The candidate for an eligible invoice, if there is something to do for it. -/
def candidate? (s : MemoryStore) (feed : Feed) (e : Eligible) : Option Candidate :=
  (Need.ofState? ((s.canonical.get? (.ofFeed feed e.id)).map Entry.state)).map fun need =>
    ⟨feed, e.id, need, e.createdAt⟩

/-- All candidates of a feed in a scope, oldest first. -/
def pending (s : MemoryStore) (scope : Scope) (feed : Feed) : List Candidate :=
  ((s.eligible scope feed).filterMap (s.candidate? feed)).mergeSort Candidate.le

/-! ## Section 4: Replacing and listing -/

/-- Writes an invoice. -/
def replace (s : MemoryStore) (d : HeaderDraft) (lines : List Line) :
    Except StoreError Header × MemoryStore :=
  match s.failingWrites.get? d.link with
  | some message => (.error (.protocol message), s)
  | none =>
    let entry := Entry.replaced (s.canonical.get? d.link) d lines
    (.ok entry.header, { s with canonical := s.canonical.insert d.link entry })

/-- The lines of a scope by the reference of their invoice and then by their number. -/
def list (s : MemoryStore) (scope : Scope) : List StoredLine :=
  let entries := s.canonical.values.filter fun e =>
    e.header.organisation = scope.organisation && e.header.location = scope.location
  (entries.mergeSort fun a b => a.header.sourceRef ≤ b.header.sourceRef).flatMap fun e =>
    e.lines.mergeSort fun a b => a.line.number.toInt ≤ b.line.number.toInt

/-- The legacy invoice with an identifier. -/
def load (s : MemoryStore) : Feed → String → Option LegacyInvoice
  | .ocr, id => (s.scanned.get? id).map .ocr
  | .xero, id => (s.booked.get? id).map .xero

/-- Answers what a store is asked. -/
def answer : Dialogue.Answerer Store.Call.Answer MemoryStore
  | .scan scope feed limit, s => (.ok ((s.pending scope feed).take limit), s)
  | .load feed id, s => (.ok (s.load feed id), s)
  | .replace d lines, s => s.replace d lines
  | .list scope, s => (.ok (s.list scope), s)

end MemoryStore

end Reconcile
