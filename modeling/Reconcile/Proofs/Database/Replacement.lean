import Reconcile.Proofs.Database.Tables
import Reconcile.Proofs.Memory.Pending

/-! # Replacing an invoice in either store

    A store in memory and a database hold the same invoices if the row that points at a legacy
    invoice is of the header that is kept for it, and the rows of lines with the identifier of
    that header are of its lines.  One replacement keeps it so: in the table of headers the upsert
    refreshes what the store in memory refreshes, and in the table of lines nothing but the lines
    of this header changes.

    Main statement: `holds_replace`. -/

namespace Reconcile

/-! ## Section 1: The store in memory -/

namespace MemoryStore

variable (m : MemoryStore) (d : HeaderDraft) (lines : List Line)

/-- The identifier under which the invoice of a link is stored, or would be. -/
def identifier (link : Link) : Uuid := ((m.header? link).map (·.id)).getD link.headerId

theorem id_refreshed : (m.refreshed d).id = m.identifier d.link := by
  unfold refreshed identifier
  rcases m.header? d.link with _ | h <;> rfl

/-- An invoice keeps its identifier, and gets the one it was to have. -/
theorem identifier_written (link : Link) :
    (m.written d lines).identifier link = m.identifier link := by
  by_cases h : link = d.link
  · have hid := m.id_refreshed d
    rw [h]
    unfold identifier at hid ⊢
    rw [header?_written, if_pos rfl, Option.map_some, Option.getD_some, hid]
  · unfold identifier
    rw [header?_written, if_neg h]

end MemoryStore

namespace Database

/-! ## Section 2: The same invoices -/

namespace Row

/-- The row is of the invoice that was made from this legacy invoice. -/
def pointsAt (r : Row) (link : Link) : Bool :=
  (r.value link.feed.pointerColumn).same (.text link.id)

/-- One of the two pointers of the row is there, and the other one is not. -/
def HasPointers (r : Row) (link : Link) : Prop :=
  r.value "legacy_invoice_id" = .ofOption .text link.ocrPointer ∧
    r.value "legacy_xero_invoice_id" = .ofOption .text link.xeroPointer

theorem HasPointers.pointsAt_eq {r : Row} {link : Link} (h : r.HasPointers link) (other : Link) :
    r.pointsAt other = decide (other = link) := by
  obtain ⟨hocr, hxero⟩ := h
  unfold pointsAt
  cases other with
  | ocr i =>
    show (r.value "legacy_invoice_id").same (.text i) = _
    rw [hocr]
    cases link with
    | ocr j => simp [Link.ocrPointer, Value.ofOption, beq_eq_decide, eq_comm]
    | xero j => rfl
  | xero i =>
    show (r.value "legacy_xero_invoice_id").same (.text i) = _
    rw [hxero]
    cases link with
    | ocr j => rfl
    | xero j => simp [Link.xeroPointer, Value.ofOption, beq_eq_decide, eq_comm]

theorem belongsTo_inj {r : Row} {u v : Uuid} (hu : r.belongsTo u = true)
    (hv : r.belongsTo v = true) : u = v := by
  have h := (Value.eq_of_same_uuid hu).symm.trans (Value.eq_of_same_uuid hv)
  injection h

end Row

/-- A store in memory and the tables hold the same invoices. -/
structure Holds (m : MemoryStore) (t : Tables) : Prop where
  /-- The schema allows no other rows of headers. -/
  pointers : ∀ r ∈ t headerTable, ∃ link, r.HasPointers link
  headers : ∀ link, ((t headerTable).filter (·.pointsAt link)).map readHeader =
    (m.header? link).toList.map .ok
  lines : ∀ link h, m.header? link = some h → ∃ ls : List StoredLine,
    ((t lineTable).filter (·.belongsTo h.id)).map readLine = ls.map .ok ∧
      ls.Perm (m.lines link)

/-! ## Section 3: One replacement -/

section Upsert

variable {d : HeaderDraft} {l : Link}

theorem hasPointers_headerRow (d : HeaderDraft) : (headerRow d).HasPointers d.link := ⟨rfl, rfl⟩

theorem conflicts_headerInsert (d : HeaderDraft) (r : Row) :
    (headerInsert d).conflicts (headerRow d) r = r.pointsAt d.link := by
  have hvalue : (headerRow d).value d.link.feed.pointerColumn = .text d.link.id := by
    obtain ⟨hocr, hxero⟩ := hasPointers_headerRow d
    cases hl : d.link with
    | ocr id => rw [hl] at hocr; exact hocr
    | xero id => rw [hl] at hxero; exact hxero
  unfold Insert.conflicts Row.pointsAt
  show (r.value d.link.feed.pointerColumn).same ((headerRow d).value d.link.feed.pointerColumn) = _
  rw [hvalue]

/-- What an upsert changes in a row that is there already. -/
theorem value_changed (now : Instant) (r : Row) (name : String) :
    ((headerInsert d).changed now (headerRow d) r).value name =
      if name = "updated_at" then .instant now
      else if name = "deleted_at" then .ofOption .instant d.deletedAt
      else if name = "invoice_date" then .ofOption .date d.date
      else if name = "source" then .text (Coded.code d.origin)
      else if name = "supplier_id" then .ofOption .text d.supplier
      else r.value name := by
  have hnew : (headerRow d).value "deleted_at" = .ofOption .instant d.deletedAt ∧
      (headerRow d).value "invoice_date" = .ofOption .date d.date ∧
      (headerRow d).value "source" = .text (Coded.code d.origin) ∧
      (headerRow d).value "supplier_id" = .ofOption .text d.supplier := ⟨rfl, rfl, rfl, rfl⟩
  simp only [Insert.changed, headerInsert, upsertChanges, List.foldl_cons, List.foldl_nil,
    Row.value_set, Expression.value, hnew]

theorem hasPointers_changed (now : Instant) {r : Row} {link : Link} (h : r.HasPointers link) :
    ((headerInsert d).changed now (headerRow d) r).HasPointers link := by
  obtain ⟨hocr, hxero⟩ := h
  constructor
  · rw [value_changed]
    simpa using hocr
  · rw [value_changed]
    simpa using hxero

/-- A header whose row is changed by an upsert is refreshed. -/
theorem readHeader_changed (now : Instant) {r : Row} {h : Header}
    (hd : Link.resolve d.origin d.link.ocrPointer d.link.xeroPointer = .ok l)
    (hr : r.HasPointers d.link) (hread : readHeader r = .ok h) :
    readHeader ((headerInsert d).changed now (headerRow d) r) = .ok (d.refresh h) := by
  obtain ⟨old, hrow, hto⟩ := bind_eq_ok_iff.mp hread
  obtain ⟨hid, horganisation, hlocation, -, href, -, hocr, hxero, -, hcurrency, -⟩ :=
    HeaderRow.ofRow_eq_ok_iff.mp hrow
  let new : HeaderRow :=
    { old with
      supplier := d.supplier
      origin := Coded.code d.origin
      date := d.date
      deletedAt := d.deletedAt }
  have hnew : HeaderRow.ofRow ((headerInsert d).changed now (headerRow d) r) = .ok new := by
    rw [HeaderRow.ofRow_eq_ok_iff]
    simp [value_changed, new, hid, horganisation, hlocation, href, hocr, hxero, hcurrency]
  -- both before and after the change the pointers stand for the link of the draft
  obtain ⟨hl, hblank, -⟩ := (Link.resolve_pointers d.origin d.link l).mp hd
  have hpointers : old.ocrPointer = d.link.ocrPointer ∧ old.xeroPointer = d.link.xeroPointer := by
    rw [hr.1, Value.asText?_ofOption] at hocr
    rw [hr.2, Value.asText?_ofOption] at hxero
    exact ⟨hocr.symm, hxero.symm⟩
  obtain ⟨origin, link, -, hresolve, rfl⟩ := HeaderRow.toHeader_eq_ok_iff.mp hto
  rw [hpointers.1, hpointers.2] at hresolve
  obtain ⟨hlink, -, -⟩ := (Link.resolve_pointers origin d.link link).mp hresolve
  have hheader : new.toHeader = .ok (d.refresh ⟨old.id, old.organisation, old.location,
      old.supplier, origin, link, old.sourceRef, old.date, old.currency, old.deletedAt⟩) := by
    rw [HeaderRow.toHeader_eq_ok_iff]
    refine ⟨d.origin, d.link, Origin.read_code d.origin, ?_, ?_⟩
    · show Link.resolve d.origin old.ocrPointer old.xeroPointer = _
      rw [hpointers.1, hpointers.2, hd, hl]
    · rw [hlink]
      rfl
  unfold readHeader
  rw [hnew]
  exact hheader

/-- After an upsert the row of the header is the only one that points at its legacy invoice, and
    all other invoices are where they were. -/
theorem headers_put (hd : Link.resolve d.origin d.link.ocrPointer d.link.xeroPointer = .ok l)
    {table : List Row} {old : Option Header}
    (hpointers : ∀ r ∈ table, ∃ link, r.HasPointers link)
    (hold : (table.filter (·.pointsAt d.link)).map readHeader = old.toList.map .ok)
    (now : Instant) :
    let stored := (headerInsert d).put now (headerRow d) table
    let h := d.refresh (old.getD (d.toHeader d.link.headerId))
    readHeader stored.1 = .ok h ∧ (∀ r ∈ stored.2, ∃ link, r.HasPointers link) ∧
      ∀ link, (stored.2.filter (·.pointsAt link)).map readHeader =
        if link = d.link then [.ok h] else (table.filter (·.pointsAt link)).map readHeader := by
  intro stored h
  -- a row is in the way of the new one if and only if it points where the draft does
  rcases (headerInsert d).put_cases now (headerRow d) table with
    ⟨hnone, hput⟩ | ⟨before, r, after, htable, hbefore, hr, hput⟩
  · -- a new row at the end
    have hempty : table.filter (·.pointsAt d.link) = [] := by
      rw [List.filter_eq_nil_iff]
      intro r hr
      rw [← conflicts_headerInsert, hnone r hr]
      decide
    have hstored : stored = (headerRow d, table ++ [headerRow d]) := hput
    have hheader : h = d.toHeader d.link.headerId := by
      rw [hempty] at hold
      cases old with
      | none => rfl
      | some o => cases hold
    rw [hstored, hheader]
    refine ⟨readHeader_headerRow hd, ?_, ?_⟩
    · intro r hr
      rcases List.mem_append.mp hr with hr | hr
      · exact hpointers r hr
      · rw [List.mem_singleton.mp hr]
        exact ⟨d.link, hasPointers_headerRow d⟩
    · intro link
      have hrow := (hasPointers_headerRow d).pointsAt_eq link
      by_cases hl : link = d.link
      · rw [List.filter_append, hl, hempty, if_pos rfl]
        rw [hl] at hrow
        simp [hrow, readHeader_headerRow hd]
      · rw [List.filter_append, if_neg hl]
        simp [hrow, hl]
  · -- the row that points at the legacy invoice is changed
    obtain ⟨m, hm⟩ := hpointers r (by simp [htable])
    rw [conflicts_headerInsert, hm.pointsAt_eq, decide_eq_true_eq] at hr
    obtain rfl : d.link = m := hr
    have hstored : stored = ((headerInsert d).changed now (headerRow d) r,
        before ++ (headerInsert d).changed now (headerRow d) r :: after) := hput
    have hnew := hasPointers_changed (d := d) now hm
    have hempty : before.filter (·.pointsAt d.link) = [] := by
      -- it is the first such row
      rw [List.filter_eq_nil_iff]
      intro x hx
      rw [← conflicts_headerInsert, hbefore x hx]
      decide
    -- and the only one, as the store in memory has one header at most for a link
    obtain ⟨o, hread, rfl, hafter⟩ : ∃ o, readHeader r = .ok o ∧ old = some o ∧
        after.filter (·.pointsAt d.link) = [] := by
      rw [htable, List.filter_append, hempty, List.nil_append, List.filter_cons_of_pos
        (by rw [hm.pointsAt_eq]; simp), List.map_cons] at hold
      cases old with
      | none => cases hold
      | some o =>
        obtain ⟨hread, hrest⟩ := List.cons.inj hold
        exact ⟨o, hread, rfl, List.map_eq_nil_iff.mp hrest⟩
    have hheader : readHeader ((headerInsert d).changed now (headerRow d) r) = .ok h :=
      readHeader_changed now hd hm hread
    rw [hstored]
    refine ⟨hheader, ?_, ?_⟩
    · intro x hx
      rcases List.mem_append.mp hx with hx | hx
      · exact hpointers x (by simp [htable, hx])
      · rcases List.mem_cons.mp hx with rfl | hx
        · exact ⟨d.link, hnew⟩
        · exact hpointers x (by simp [htable, hx])
    · intro link
      rw [htable, List.filter_append, List.filter_append, List.filter_cons, List.filter_cons,
        hnew.pointsAt_eq, hm.pointsAt_eq]
      by_cases hl : link = d.link
      · rw [hl, hempty, hafter]
        simp [hheader]
      · simp [hl]

end Upsert

theorem belongsTo_lineRow (s : StoredLine) (header : Uuid) :
    (lineRow s).belongsTo header = decide (s.headerId = header) := by
  show (s.headerId == header) = _
  rw [beq_eq_decide]

/-- After the lines of a header were replaced, its rows are those of the new lines, and all other
    rows are where they were. -/
theorem rows_replaced (table : List Row) (h : Header) (lines : List Line) (header : Uuid) :
    (table.filter (fun r => !r.belongsTo h.id) ++ (lines.map h.storedLine).map lineRow).filter
        (·.belongsTo header) =
      if header = h.id then (lines.map h.storedLine).map lineRow
      else table.filter (·.belongsTo header) := by
  have hnew : ∀ r ∈ (lines.map h.storedLine).map lineRow,
      r.belongsTo header = decide (h.id = header) := by
    intro r hr
    obtain ⟨s, hs, rfl⟩ := List.mem_map.mp hr
    obtain ⟨l, -, rfl⟩ := List.mem_map.mp hs
    exact belongsTo_lineRow _ header
  rw [List.filter_append, List.filter_filter]
  by_cases heq : header = h.id
  · have hold : table.filter (fun r => r.belongsTo header && !r.belongsTo h.id) = [] := by
      rw [List.filter_eq_nil_iff]
      intro r _
      rw [heq]
      cases r.belongsTo h.id <;> decide
    have hall : ((lines.map h.storedLine).map lineRow).filter (·.belongsTo header) =
        (lines.map h.storedLine).map lineRow := by
      rw [List.filter_eq_self]
      intro r hr
      rw [hnew r hr, heq, decide_eq_true rfl]
    rw [if_pos heq, hold, hall, List.nil_append]
  · have hold : table.filter (fun r => r.belongsTo header && !r.belongsTo h.id) =
        table.filter (·.belongsTo header) := by
      apply List.filter_congr
      intro r _
      by_cases hr : r.belongsTo header = true
      · have hother : r.belongsTo h.id = false := by
          rw [Bool.eq_false_iff]
          intro hid
          exact heq (Row.belongsTo_inj hr hid)
        rw [hr, hother]
        rfl
      · rw [Bool.not_eq_true] at hr
        rw [hr]
        rfl
    have hnone : ((lines.map h.storedLine).map lineRow).filter (·.belongsTo header) = [] := by
      rw [List.filter_eq_nil_iff]
      intro r hr
      rw [hnew r hr, decide_eq_true_eq]
      intro hid
      exact heq hid.symm
    rw [if_neg heq, hold, hnone, List.append_nil]

section Replace

variable {σ : Type} {connection : Connection σ} {tables : σ → Tables}

/-- The header that a database gives is the one that a store in memory gives. -/
theorem readHeader_put {m : MemoryStore} {t : Tables} (hholds : Holds m t) {d : HeaderDraft}
    {l : Link} (hd : Link.resolve d.origin d.link.ocrPointer d.link.xeroPointer = .ok l)
    (now : Instant) :
    readHeader ((headerInsert d).put now (headerRow d) (t headerTable)).1 =
      .ok (m.refreshed d) :=
  (headers_put hd hholds.pointers (hholds.headers d.link) now).1

/-- One replacement: the stores give the same header, and hold the same invoices again.  That no
    other invoice has the identifier matters for the lines only, which are found by it. -/
theorem holds_replace (hexec : Executes connection tables) {m : MemoryStore} {s : σ}
    (hholds : Holds m (tables s)) {d : HeaderDraft} {l : Link} (lines : List Line)
    (hd : Link.resolve d.origin d.link.ocrPointer d.link.xeroPointer = .ok l)
    (hown : ∀ link h, link ≠ d.link → m.header? link = some h → h.id ≠ m.identifier d.link) :
    ((replace d lines).exec connection s).1 = .ok (m.refreshed d) ∧
      Holds (m.written d lines) (tables ((replace d lines).exec connection s).2) := by
  obtain ⟨hresult, ⟨now, hheaders⟩, hlines⟩ :=
    exec_replace hexec lines (s := s) (h := m.refreshed d) (readHeader_put hholds hd)
  obtain ⟨-, hpointers, hread⟩ := headers_put hd hholds.pointers (hholds.headers d.link) now
  refine ⟨hresult, ?_, ?_, ?_⟩
  · rw [hheaders]
    exact hpointers
  · intro link
    rw [hheaders, hread link, m.header?_written]
    by_cases h : link = d.link
    · rw [if_pos h, if_pos h]
      rfl
    · rw [if_neg h, if_neg h]
      exact hholds.headers link
  · intro link h hh
    rw [hlines, rows_replaced, m.lines_written]
    rw [m.header?_written] at hh
    by_cases hl : link = d.link
    · rw [if_pos hl] at hh ⊢
      obtain rfl := Option.some.inj hh
      refine ⟨lines.map (m.refreshed d).storedLine, ?_, List.Perm.refl _⟩
      rw [if_pos rfl, List.map_map]
      exact List.map_congr_left fun s _ => readLine_lineRow s
    · -- the header of another link has another identifier, so its rows stayed
      rw [if_neg hl] at hh ⊢
      have hid : h.id ≠ (m.refreshed d).id := by
        rw [m.id_refreshed]
        exact hown link h hl hh
      rw [if_neg hid]
      exact hholds.lines link h hh

end Replace

end Database

end Reconcile
