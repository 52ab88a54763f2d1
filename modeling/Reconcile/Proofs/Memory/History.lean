import Reconcile.Proofs.Memory.Queue

/-! # Histories of a store in memory

    A store without canonical invoices is filled by processing candidates, one by one or in runs
    that may be cancelled anywhere, while legacy invoices come and change and writes begin to
    fail.  Whatever the order, every canonical invoice belongs to the legacy invoice it stands
    under, and its lines belong to its header as it is now.

    Invariant: `MemoryStore.Sound`.  The step that matters is `sound_replaced`: a header that is
    refreshed keeps its identity, takes over the origin that its new lines have, and the lines
    are made from it and not from the draft.

    Main statement: `entry_sound_of_replay`. -/

namespace Reconcile

open Backfill

/-! ## Section 1: Sound entries -/

/-- The line belongs to a canonical invoice with this header. -/
structure StoredLine.Under (h : Header) (l : StoredLine) : Prop where
  id : l.id = lineId h.id l.line.number
  headerId : l.headerId = h.id
  organisation : l.organisation = h.organisation
  location : l.location = h.location
  supplier : l.supplier = h.supplier
  origin : l.line.origin = h.origin
  rules : l.rules = rulesVersion

/-- The entry is a canonical invoice of the legacy invoice behind a link. -/
structure Entry.Sound (link : Link) (e : Entry) : Prop where
  link_eq : e.header.link = link
  id : e.header.id = link.headerId
  sourceRef : e.header.sourceRef = link.sourceRef
  resolves : Link.resolve e.header.origin link.ocrPointer link.xeroPointer = .ok link
  lines_ne_nil : e.lines ≠ []
  numbers : e.lines.map (·.line.number.toInt) =
    (List.range e.lines.length).map fun i : Nat => (i : Int) + 1
  under : ∀ l ∈ e.lines, l.Under e.header

/-- A link that resolves to itself names an invoice, and the origin uses its feed. -/
theorem Entry.Sound.not_blank {link : Link} {e : Entry} (h : e.Sound link) :
    Text.isBlankText link.id = false ∧ e.header.origin.feed = link.feed :=
  ((Link.resolve_pointers _ _ _).mp h.resolves).2

/-- The lines of the invoice can be numbered. -/
def LegacyInvoice.Numerable (i : LegacyInvoice) : Prop :=
  ∀ t, transcribe i = .ok t → t.lines.length < 2 ^ 31

theorem BookedInvoice.numerable {i : BookedInvoice} (h : i.lines.length < 2 ^ 31) :
    (LegacyInvoice.xero i).Numerable := by
  rintro t ⟨⟩
  simpa [transcribe] using h

theorem Header.under_storedLine {h : Header} {l : Line} (ho : l.origin = h.origin) :
    (h.storedLine l).Under h := ⟨rfl, rfl, rfl, rfl, rfl, ho, rfl⟩

/-- Replacing makes a sound entry of none, and of a sound entry. -/
theorem Entry.sound_replaced {old : Option Entry} {i : LegacyInvoice} {d : HeaderDraft}
    {lines : List Line} (hold : ∀ e, old = some e → e.Sound i.link)
    (hplan : plan (some i) = .ok (.write d lines)) (hnum : i.Numerable) :
    (Entry.replaced old d lines).Sound i.link := by
  have hlink : d.link = i.link := link_of_plan hplan
  obtain ⟨_, location, t, m, ⟨⟩, -, ht, hne, hr, rfl, rfl⟩ := plan_eq_write_iff.mp hplan
  have hof := transcribe_ofLink ht
  rw [hof.ocrPointer, hof.xeroPointer] at hr
  obtain rfl : m = i.link := hlink
  have hnumbers : t.lines.map (·.number.toInt) =
      (List.range t.lines.length).map fun k : Nat => (k : Int) + 1 := by
    have hcomp : t.lines.map (·.number.toInt) =
        (t.lines.map (·.number)).map Int32.toInt := by simp
    rw [hcomp, hof.numbers, List.map_map]
    apply List.map_congr_left
    intro k hk
    have : k < t.lines.length := List.mem_range.mp hk
    exact LineNumber.toInt_ofIndex (by have := hnum t ht; omega)
  -- identity comes from the old header, which is sound, or from the link itself
  have hbase : ∃ h : Header, (Entry.replaced old (draft t location i.link) t.lines).header =
        (draft t location i.link).refresh h ∧
      h.link = i.link ∧ h.id = i.link.headerId ∧ h.sourceRef = i.link.sourceRef := by
    rcases old with _ | e
    · exact ⟨_, rfl, rfl, rfl, rfl⟩
    · have he := hold e rfl
      exact ⟨e.header, rfl, he.link_eq, he.id, he.sourceRef⟩
  obtain ⟨h, hheader, hlink', hid, hsource⟩ := hbase
  have hlines : (Entry.replaced old (draft t location i.link) t.lines).lines =
      t.lines.map ((draft t location i.link).refresh h).storedLine := by
    rw [← hheader]
    rfl
  exact
    { link_eq := by rw [hheader]; exact hlink'
      id := by rw [hheader]; exact hid
      sourceRef := by rw [hheader]; exact hsource
      resolves := by rw [hheader]; exact hr
      lines_ne_nil := by rw [hlines]; simpa using hne
      numbers := by
        rw [hlines, List.map_map, List.length_map]
        exact hnumbers
      under := by
        intro l hl
        rw [hlines] at hl
        rw [hheader]
        obtain ⟨l', hl', rfl⟩ := List.mem_map.mp hl
        exact Header.under_storedLine (hof.origin l' hl') }

namespace MemoryStore

/-! ## Section 2: The invariant -/

/-- Every entry is sound, and every legacy invoice can be numbered. -/
structure Sound (s : MemoryStore) : Prop where
  entry : ∀ {link e}, s.canonical.get? link = some e → e.Sound link
  numerable : ∀ feed id i, s.load feed id = some i → i.Numerable

theorem sound_written {s : MemoryStore} (h : s.Sound) {i : LegacyInvoice} {d : HeaderDraft}
    {lines : List Line} (hplan : plan (some i) = .ok (.write d lines)) (hnum : i.Numerable) :
    (s.written d lines).Sound where
  entry := by
    intro link e he
    have hlink : d.link = i.link := link_of_plan hplan
    simp only [written, Table.get?_insert, hlink] at he
    -- it is the entry that was written, or it was there before
    split at he
    · next hl =>
      simp only [Option.some.injEq] at he
      subst hl he
      exact Entry.sound_replaced (fun _ hold => h.entry hold) hplan hnum
    · exact h.entry he
  numerable feed id j hload :=
    h.numerable feed id j (((s.sameSource_written d lines).load_eq feed id).symm.trans hload)

theorem sound_processed {s : MemoryStore} (h : s.Sound) (c : Candidate) :
    (s.processed c).Sound := by
  rcases s.processed_cases c with ⟨_, -, hs⟩ | ⟨_, -, -, hs⟩ | ⟨i, d, lines, hi, hp, -, -, hs⟩
  · rw [hs]
    exact h
  · rw [hs]
    exact h
  · rw [hs]
    exact sound_written h hp (h.numerable _ _ _ hi)

theorem sound_foldl_processed {s : MemoryStore} (h : s.Sound) (cs : List Candidate) :
    (cs.foldl processed s).Sound := by
  induction cs generalizing s with
  | nil => exact h
  | cons c cs ih => exact ih (sound_processed h c)

theorem sound_addScanned {s : MemoryStore} (h : s.Sound) {i : ScannedInvoice}
    (hi : (LegacyInvoice.ocr i).Numerable) : (s.addScanned i).Sound where
  entry := h.entry
  numerable := by
    intro feed id j hj
    cases feed with
    | ocr =>
      obtain ⟨k, hk, rfl⟩ := Option.map_eq_some_iff.mp hj
      simp only [addScanned, Table.get?_insert] at hk
      split at hk
      · cases hk
        exact hi
      · exact h.numerable .ocr id _ (by simp [load, hk])
    | xero => exact h.numerable .xero id j hj

theorem sound_addBooked {s : MemoryStore} (h : s.Sound) {i : BookedInvoice}
    (hi : (LegacyInvoice.xero i).Numerable) : (s.addBooked i).Sound where
  entry := h.entry
  numerable := by
    intro feed id j hj
    cases feed with
    | ocr => exact h.numerable .ocr id j hj
    | xero =>
      obtain ⟨k, hk, rfl⟩ := Option.map_eq_some_iff.mp hj
      simp only [addBooked, Table.get?_insert] at hk
      split at hk
      · cases hk
        exact hi
      · exact h.numerable .xero id _ (by simp [load, hk])

/-! ## Section 3: Histories -/

/-- What can be done to a store from outside. -/
inductive Operation where
  | addScanned (i : ScannedInvoice)
  | addBooked (i : BookedInvoice)
  | failWrites (link : Link) (message : String)
  | process (c : Candidate)
  | run (r : Request) (cancel : Nat → Bool)

/-- The store after an operation. -/
def apply (s : MemoryStore) : Operation → MemoryStore
  | .addScanned i => s.addScanned i
  | .addBooked i => s.addBooked i
  | .failWrites link message => s.failWrites link message
  | .process c => ((Backfill.process c).exec answer s).2
  | .run r cancel => ((Backfill.run r).exec (scheduled cancel answer) (s, 0)).2.1

/-- The store after a history. -/
def replay (s : MemoryStore) (ops : List Operation) : MemoryStore := ops.foldl apply s

/-- The legacy invoice that comes with the operation, if one does, can be numbered. -/
def Operation.Numerable : Operation → Prop
  | .addScanned i => (LegacyInvoice.ocr i).Numerable
  | .addBooked i => (LegacyInvoice.xero i).Numerable
  | _ => True

theorem sound_apply {s : MemoryStore} (h : s.Sound) {op : Operation} (hop : op.Numerable) :
    (s.apply op).Sound := by
  cases op with
  | addScanned i => exact sound_addScanned h hop
  | addBooked i => exact sound_addBooked h hop
  | failWrites link message => exact ⟨h.entry, h.numerable⟩
  | process c => exact sound_processed h c
  | run r cancel =>
    rw [apply, exec_run_memory]
    exact sound_foldl_processed h _

theorem sound_replay {s : MemoryStore} (h : s.Sound) {ops : List Operation}
    (hops : ∀ op ∈ ops, op.Numerable) : (s.replay ops).Sound := by
  induction ops generalizing s with
  | nil => exact h
  | cons op ops ih =>
    have hop := hops op (List.mem_cons_self ..)
    exact ih (sound_apply h hop) fun o ho => hops o (List.mem_cons_of_mem op ho)

/-- A store without canonical invoices is sound if what it can load is numerable. -/
theorem sound_of_empty {s : MemoryStore} (hempty : s.canonical = .empty)
    (hs : ∀ feed id i, s.load feed id = some i → i.Numerable) : s.Sound where
  entry := by
    intro link e he
    simp [hempty] at he
  numerable := hs

theorem numerable_of_load_empty {feed : Feed} {id : String} {i : LegacyInvoice}
    (h : empty.load feed id = some i) : i.Numerable := by
  cases feed <;> simp [load, empty] at h

/-- From a store without canonical invoices every history leads to sound entries only. -/
theorem entry_sound_of_replay {s : MemoryStore} (hempty : s.canonical = .empty)
    (hs : ∀ feed id i, s.load feed id = some i → i.Numerable) {ops : List Operation}
    (hops : ∀ op ∈ ops, op.Numerable) {link : Link} {e : Entry}
    (he : (s.replay ops).canonical.get? link = some e) : e.Sound link := by
  have hstart : s.Sound :=
    { entry := fun h => by simp [hempty] at h
      numerable := hs }
  exact (sound_replay hstart hops).entry he

/-! ## Section 4: An invoice that changes -/

/-- The same invoice with another supplier and one more line. -/
def laterBooking : BookedInvoice :=
  { firstBooking with
    supplier := some "new"
    lines := firstBooking.lines ++ [⟨"l-2", 2, none, none, none, none, none, none⟩] }

/-- A run writes the invoice, the invoice changes, and it is processed again. -/
def rebooked : List Operation :=
  [.addBooked firstBooking, .run bookingRequest fun _ => false, .addBooked laterBooking,
    .process bookedCandidate]

/-- The entry that was written twice is sound, with what the invoice said the second time. -/
theorem entry_sound_rebooked :
    ∃ e, (empty.replay rebooked).canonical.get? (.xero "inv-1") = some e ∧
      e.header.supplier = some "new" ∧ e.lines.length = 2 ∧ e.Sound (.xero "inv-1") := by
  let d' := draft laterBooking.transcribe "loc" (.xero "inv-1")
  have hrun : bookedStore.apply (.run bookingRequest fun _ => false) =
      bookedStore.written bookedDraft firstBooking.transcribe.lines := by
    rw [apply, exec_run_memory, runQueue_booked]
    exact processed_booked.2
  have hreplay : empty.replay rebooked =
      ((bookedStore.written bookedDraft firstBooking.transcribe.lines).addBooked
        laterBooking).written d' laterBooking.transcribe.lines := by
    have hplan : plan (some (.xero laterBooking)) =
        .ok (.write d' laterBooking.transcribe.lines) :=
      plan_xero rfl (by simp [laterBooking]) (by decide)
    show ((bookedStore.apply (.run bookingRequest fun _ => false)).addBooked
      laterBooking).processed bookedCandidate = _
    rw [hrun]
    exact And.right (processed_eq_written hplan rfl)
  have hentry : (empty.replay rebooked).canonical.get? (.xero "inv-1") =
      some (Entry.replaced (some (Entry.replaced none bookedDraft firstBooking.transcribe.lines)) d'
        laterBooking.transcribe.lines) := by
    rw [hreplay]
    rfl
  refine ⟨_, hentry, rfl, ?_, entry_sound_of_replay rfl ?_ ?_ hentry⟩
  · simp [Entry.replaced, BookedInvoice.transcribe, laterBooking, firstBooking]
  · intro feed id i hi
    cases feed <;> simp [load, empty] at hi
  · intro op hop
    simp only [rebooked, List.mem_cons, List.not_mem_nil, or_false] at hop
    rcases hop with rfl | rfl | rfl | rfl
    · exact BookedInvoice.numerable (by simp [firstBooking])
    · trivial
    · exact BookedInvoice.numerable (by simp [laterBooking, firstBooking])
    · trivial

end MemoryStore

end Reconcile
