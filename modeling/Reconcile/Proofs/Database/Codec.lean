import Reconcile.Proofs.Database.Changes
import Reconcile.Proofs.Invoice.Transcribed

/-! # Headers and lines in rows

    What is bound to the parameters of an insert, read by the names of the columns that its text
    gives, is the header or the line that it was made from.  Two columns of one kind that were
    swapped, or a pointer in the wrong column, would go unnoticed anywhere else.

    Main statement: `rows_decode`. -/

namespace Reconcile

/-! ## Section 1: Codes -/

namespace Coded

/-- Every alternative is read back from its code. -/
class Lawful (α : Type) [Coded α] : Prop where
  read_code : ∀ a : α, (read (code a) : Except UnknownCode α) = .ok a

/-- A text that is read as an alternative is its code, but for blanks and case. -/
theorem code_of_read {α : Type} [Coded α] {s : String} {a : α}
    (h : (read s : Except UnknownCode α) = .ok a) : code a = Text.asciiUpper (Text.trimmed s) := by
  unfold read ofCode? at h
  split at h
  · next hfind =>
    -- what was found is an alternative with this code
    cases h
    simpa using List.find?_some hfind
  · cases h

end Coded

instance : Coded.Lawful Origin := ⟨Origin.read_code⟩

instance : Coded.Lawful Dimension where
  read_code a := by
    rw [Coded.read, Text.asciiUpper_eq]
    cases a <;> rfl

instance : Coded.Lawful Adjustment where
  read_code a := by
    rw [Coded.read, Text.asciiUpper_eq]
    cases a <;> rfl

instance : Coded.Lawful Grade where
  read_code a := by
    rw [Coded.read, Text.asciiUpper_eq]
    cases a <;> rfl

namespace Database

/-! ## Section 2: Values -/

namespace Value

@[simp] theorem asText?_text (s : String) : asText? (.text s) = some s := rfl

@[simp] theorem asUuid?_uuid (u : Uuid) : asUuid? (.uuid u) = some u := rfl

@[simp] theorem asTexts?_texts (ss : List String) : asTexts? (.texts ss) = some ss := rfl

@[simp] theorem asLineNumber?_ofLineNumber (n : LineNumber) :
    asLineNumber? (ofLineNumber n) = some n := by
  simp [asLineNumber?, ofLineNumber]

@[simp] theorem asText?_ofOption (o : Option String) : asText? (ofOption .text o) = o := by
  cases o <;> rfl

@[simp] theorem asDate?_ofOption (o : Option Date) : asDate? (ofOption .date o) = o := by
  cases o <;> rfl

@[simp] theorem asInstant?_ofOption (o : Option Instant) :
    asInstant? (ofOption .instant o) = o := by
  cases o <;> rfl

@[simp] theorem asNumeric?_ofOption (o : Option Decimal) :
    asNumeric? (ofOption .numeric o) = o := by
  cases o <;> rfl

@[simp] theorem asDouble?_ofOption (o : Option Binary64) :
    asDouble? (ofOption .double o) = o := by
  cases o <;> rfl

end Value

theorem bind_eq_ok_iff {ε α β : Type} {x : Except ε α} {f : α → Except ε β} {b : β} :
    x >>= f = .ok b ↔ ∃ a, x = .ok a ∧ f a = .ok b := by
  rcases x with e | a
  · simp [bind, Except.bind]
  · simp [bind, Except.bind]

theorem Row.required_eq_ok_iff {α : Type} {r : Row} {name : String} {as : Value → Option α}
    {a : α} : r.required name as = .ok a ↔ as (r.value name) = some a := by
  unfold required
  rcases as (r.value name) with _ | b <;> simp

/-! ## Section 3: Headers -/

/-- The header in a row. -/
def readHeader (r : Row) : Except StoreError Header :=
  (HeaderRow.ofRow r).bind HeaderRow.toHeader

namespace HeaderRow

/-- The row of a header is read column by column. -/
theorem ofRow_eq_ok_iff {r : Row} {h : HeaderRow} :
    ofRow r = .ok h ↔
      (r.value "id").asUuid? = some h.id ∧
      (r.value "organisation_id").asText? = some h.organisation ∧
      (r.value "location_id").asText? = some h.location ∧
      (r.value "source").asText? = some h.origin ∧
      (r.value "source_invoice_ref").asText? = some h.sourceRef ∧
      (r.value "supplier_id").asText? = h.supplier ∧
      (r.value "legacy_invoice_id").asText? = h.ocrPointer ∧
      (r.value "legacy_xero_invoice_id").asText? = h.xeroPointer ∧
      (r.value "invoice_date").asDate? = h.date ∧
      (r.value "currency_code").asText? = h.currency ∧
      (r.value "deleted_at").asInstant? = h.deletedAt := by
  obtain ⟨id, organisation, location, supplier, origin, ocrPointer, xeroPointer, sourceRef, date,
    currency, deletedAt⟩ := h
  simp only [ofRow, bind_eq_ok_iff, Row.required_eq_ok_iff, Row.optional, pure, Except.pure,
    Except.ok.injEq, mk.injEq]
  constructor
  · rintro ⟨_, hid, _, ho, _, hl, _, hs, _, hr, rfl, rfl, rfl, hsup, rfl, ho', hx, rfl, hd, hc, hdel⟩
    exact ⟨hid, ho, hl, hs, hr, hsup, ho', hx, hd, hc, hdel⟩
  · rintro ⟨hid, ho, hl, hs, hr, hsup, ho', hx, hd, hc, hdel⟩
    exact ⟨_, hid, _, ho, _, hl, _, hs, _, hr, rfl, rfl, rfl, hsup, rfl, ho', hx, rfl, hd, hc, hdel⟩

theorem ofRow_ofValues (h : HeaderRow) : ofRow (.ofValues columns h.values) = .ok h := by
  simp [ofRow_eq_ok_iff, Row.value, Row.ofValues, columns, values, List.lookup_cons]

/-- A row is of a header if its origin can be read and its pointers stand for a link. -/
theorem toHeader_eq_ok_iff {r : HeaderRow} {h : Header} :
    r.toHeader = .ok h ↔ ∃ origin link,
      (Coded.read r.origin : Except UnknownCode Origin) = .ok origin ∧
      Link.resolve origin r.ocrPointer r.xeroPointer = .ok link ∧
      h = ⟨r.id, r.organisation, r.location, r.supplier, origin, link, r.sourceRef, r.date,
        r.currency, r.deletedAt⟩ := by
  unfold toHeader source
  rcases (Coded.read r.origin : Except UnknownCode Origin) with e | origin
  · simp
  · simp only [Except.ok.injEq, exists_and_left, exists_eq_left']
    rcases Link.resolve origin r.ocrPointer r.xeroPointer with e | link
    · simp
    · simp [eq_comm]

theorem toHeader_ofDraft {d : HeaderDraft} {m : Link}
    (h : Link.resolve d.origin d.link.ocrPointer d.link.xeroPointer = .ok m) :
    (ofDraft d).toHeader = .ok (d.toHeader d.link.headerId) := by
  obtain ⟨rfl, -, -⟩ := (Link.resolve_pointers d.origin d.link m).mp h
  exact toHeader_eq_ok_iff.mpr ⟨d.origin, d.link, Origin.read_code d.origin, h, rfl⟩

end HeaderRow

/-! ## Section 4: Lines -/

/-- The line in a row. -/
def readLine (r : Row) : Except StoreError StoredLine := (LineRow.ofRow r).bind LineRow.toStored

namespace LineRow

theorem ofRow_ofValues (l : LineRow) : ofRow (.ofValues columns l.values) = .ok l := by
  simp [ofRow, Row.required, Row.optional, Row.value, Row.ofValues, columns, values,
    List.lookup_cons, bind, Except.bind, pure, Except.pure]

/-- The row with its codes as they are written. -/
def withCodes (l : LineRow) : LineRow :=
  { l with
    origin := Text.asciiUpper (Text.trimmed l.origin)
    dimension := Text.asciiUpper (Text.trimmed l.dimension)
    adjustment := Text.asciiUpper (Text.trimmed l.adjustment)
    grade := Text.asciiUpper (Text.trimmed l.grade) }

theorem decode_ofStored (s : StoredLine) : (ofStored s).decode = .ok s := by
  simp [decode, ofStored, Coded.Lawful.read_code, bind, Except.bind, pure, Except.pure]

theorem ofStored_of_decode {l : LineRow} {s : StoredLine} (h : l.decode = .ok s) :
    ofStored s = l.withCodes := by
  simp only [decode, bind_eq_ok_iff, pure, Except.pure, Except.ok.injEq] at h
  obtain ⟨origin, ho, dimension, hd, adjustment, ha, grade, hg, rfl⟩ := h
  unfold ofStored withCodes
  simp only [Coded.code_of_read ho, Coded.code_of_read hd, Coded.code_of_read ha,
    Coded.code_of_read hg]

end LineRow

theorem readLine_lineRow (s : StoredLine) : readLine (lineRow s) = .ok s := by
  unfold readLine lineRow
  rw [LineRow.ofRow_ofValues]
  show (LineRow.ofStored s).toStored = .ok s
  unfold LineRow.toStored
  rw [LineRow.decode_ofStored]

theorem readHeader_headerRow {d : HeaderDraft} {m : Link}
    (h : Link.resolve d.origin d.link.ocrPointer d.link.xeroPointer = .ok m) :
    readHeader (headerRow d) = .ok (d.toHeader d.link.headerId) := by
  unfold readHeader headerRow
  rw [HeaderRow.ofRow_ofValues]
  exact HeaderRow.toHeader_ofDraft h

/-! ## Section 5: What is written is what is read -/

/-- What an insert of lines puts into the table are rows that hold these lines.  What an upsert
    puts there is a row that holds the new header, if the draft may point where it does.  A line
    that is read and written again keeps all its columns, but its codes are as they are written,
    and it is the same line still. -/
theorem rows_decode :
    (∀ lines, ∃ i, (Statement.insertLines lines).change? = some (.insert i) ∧
      i.rows.map readLine = lines.map .ok) ∧
    (∀ d m, Link.resolve d.origin d.link.ocrPointer d.link.xeroPointer = .ok m →
      ∃ i, (Statement.upsertHeader d).change? = some (.insert i) ∧
        i.rows.map readHeader = [.ok (d.toHeader d.link.headerId)]) ∧
    ∀ (l : LineRow) (s : StoredLine), l.decode = .ok s →
      (LineRow.ofStored s).values = l.withCodes.values ∧ (LineRow.ofStored s).decode = .ok s := by
  refine ⟨?_, ?_, ?_⟩
  · intro lines
    refine ⟨_, Statement.change?_insertLines lines, ?_⟩
    show (lines.map lineRow).map readLine = _
    rw [List.map_map]
    exact List.map_congr_left fun s _ => readLine_lineRow s
  · intro d m h
    refine ⟨_, Statement.change?_upsertHeader d, ?_⟩
    show [headerRow d].map readHeader = _
    rw [List.map_singleton, readHeader_headerRow h]
  · intro l s h
    have hrow : LineRow.ofStored s = l.withCodes := LineRow.ofStored_of_decode h
    exact ⟨congrArg LineRow.values hrow, LineRow.decode_ofStored s⟩

/-- A line whose codes were written by someone else. -/
def careless : LineRow :=
  ⟨⟨0, 1⟩, ⟨0, 2⟩, "org", "loc", some "sup", rulesVersion, 1, "manual ", "manual:l-1",
    "Milk 2 l", some "2", none, none, none, none, none, none, none, none, "Milk 2 l", some "l",
    " Volume", some "EUR", "None", "warn", ["MISSING_PRICE"], none⟩

/-- A draft of a scan, and a line with codes that need reading. -/
theorem rows_decode_careless :
    let d : HeaderDraft := ⟨"org", "loc", none, .manual, .ocr "inv-1", none, none, none⟩
    (Link.resolve d.origin d.link.ocrPointer d.link.xeroPointer = .ok d.link ∧
      ∃ i, (Statement.upsertHeader d).change? = some (.insert i) ∧
        i.rows.map readHeader = [.ok (d.toHeader d.link.headerId)]) ∧
    ∃ s, careless.decode = .ok s ∧ (LineRow.ofStored s).values = careless.withCodes.values ∧
      (LineRow.ofStored s).decode = .ok s := by
  intro d
  have hlink : Link.resolve d.origin d.link.ocrPointer d.link.xeroPointer = .ok d.link :=
    (Link.resolve_pointers _ _ _).mpr ⟨rfl, by decide +kernel, rfl⟩
  have horigin : (Coded.read "manual " : Except UnknownCode Origin) = .ok .manual := by
    rw [Coded.read, Text.asciiUpper_eq]
    rfl
  have hdimension : (Coded.read " Volume" : Except UnknownCode Dimension) = .ok .volume := by
    rw [Coded.read, Text.asciiUpper_eq]
    rfl
  have hadjustment : (Coded.read "None" : Except UnknownCode Adjustment) = .ok .plain := by
    rw [Coded.read, Text.asciiUpper_eq]
    rfl
  have hgrade : (Coded.read "warn" : Except UnknownCode Grade) = .ok .warn := by
    rw [Coded.read, Text.asciiUpper_eq]
    rfl
  obtain ⟨s, hs⟩ : ∃ s, careless.decode = .ok s := by
    simp only [LineRow.decode, careless, horigin, hdimension, hadjustment, hgrade, bind,
      Except.bind, pure, Except.pure, Except.ok.injEq, exists_eq']
  exact ⟨⟨hlink, rows_decode.2.1 d d.link hlink⟩, s, hs, rows_decode.2.2 careless s hs⟩

end Database

end Reconcile
