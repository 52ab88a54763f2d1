import Reconcile.Proofs.Invoice.HeaderCurrency

/-! # Where a line comes from

    A transcription has one line for each line of the legacy invoice that counts, in the same
    order.  A line keeps what its own source says, word for word, and is numbered by its place.
    Besides its place, it depends on its source, the identifier of the invoice and the currency of
    the whole, none of which the other lines have a say in.  It has the currency that its source
    names, or else the one of the whole, letter by letter as it stands there.

    Main statements: `Backfill.lines_kept` and `Backfill.line_currencies`. -/

namespace Reconcile

open Document

/-! ## Section 1: What a legacy line says -/

namespace LegacyLine

def origin : LegacyLine → Origin
  | .keyed _ => .manual
  | .item _ => .ocr
  | .booked _ _ => .xero

/-- The text a line is known by; an item has no identifier and goes by its place. -/
def ref (invoiceId : String) (place : Nat) : LegacyLine → String
  | .keyed line => "manual:" ++ line.id
  | .item _ => "ocr:" ++ invoiceId ++ ":" ++ toString place
  | .booked _ line => "xero:" ++ line.id

/-- The description; an item that has none is read as one with an empty one. -/
def description : LegacyLine → Option String
  | .keyed line => line.description
  | .item ms => some (readItem ms).description
  | .booked _ line => line.description

/-- The unit; no booked line has one. -/
def unit : LegacyLine → Option String
  | .keyed line => line.unit
  | .item ms => (readItem ms).unit
  | .booked _ _ => none

def productCode : LegacyLine → Option String
  | .keyed line => line.productCode
  | .item ms => (readItem ms).productCode
  | .booked _ line => line.itemCode

/-- The tax, which only the accounting system knows. -/
def tax : LegacyLine → Option Decimal
  | .booked _ line => line.taxAmount
  | _ => none

/-- How sure the recognition service is, where it was asked. -/
def confidence : LegacyLine → Option Binary64
  | .item ms => (readItem ms).confidence
  | _ => none

/-- The currency, be it one or a text that names none; a booked line is in that of its invoice. -/
def currency : LegacyLine → Option String
  | .keyed line => line.currency
  | .item ms => (readItem ms).currency
  | .booked _ _ => none

/-- The line is on a credit note. -/
def IsCredited : LegacyLine → Prop
  | .booked creditNote _ => creditNote = true
  | _ => False

end LegacyLine

/-! ## Section 2: What a transcribed line keeps of it -/

/-- The line is the one at this place, counted from one, and says what the legacy line says. -/
structure Line.Keeps (invoiceId : String) (place : Nat) (line : LegacyLine) (l : Line) : Prop where
  number : l.number.toInt = place
  origin : l.origin = line.origin
  sourceRef : l.sourceRef = line.ref invoiceId place
  description : l.rawDescription = line.description.getD ""
  unit : l.rawUnit = line.unit
  productCode : l.rawProductCode = line.productCode
  tax : l.tax = line.tax
  confidence : l.confidence = line.confidence
  credited : line.IsCredited → l.adjustment = .credited

/-- An index in range is written as the place that it stands for. -/
theorem LineNumber.toString_ofIndex {index : Nat} (h : index + 1 < 2 ^ 31) :
    toString (ofIndex index).toInt = toString (index + 1) := by
  rw [toInt_ofIndex h]
  rfl

theorem LegacyLine.keeps_toLine (line : LegacyLine) (invoiceId : String) {index : Nat}
    (h : index + 1 < 2 ^ 31) (currency : Option String) :
    ((line.sourceLine invoiceId index).toLine currency).Keeps invoiceId (index + 1) line := by
  have hnumber := LineNumber.toInt_ofIndex h
  cases line with
  | keyed line => exact ⟨hnumber, rfl, rfl, rfl, rfl, rfl, rfl, rfl, False.elim⟩
  | item ms =>
    -- an item goes by the number it is given, which is its place as long as there is room
    have href : "ocr:" ++ invoiceId ++ ":" ++ toString (LineNumber.ofIndex index).toInt =
        "ocr:" ++ invoiceId ++ ":" ++ toString (index + 1) := by
      rw [LineNumber.toString_ofIndex h]
    exact ⟨hnumber, rfl, href, rfl, rfl, rfl, rfl, rfl, False.elim⟩
  | booked creditNote line =>
    refine ⟨hnumber, rfl, rfl, rfl, rfl, rfl, rfl, rfl, ?_⟩
    rintro rfl
    rfl

/-! ## Section 3: Invoices with other lines -/

/-- The invoices differ in nothing but their lines: those that were keyed or booked, or the document
    the items are read from, as long as it names the same currency. -/
inductive LegacyInvoice.Relined : LegacyInvoice → LegacyInvoice → Prop where
  | keyed (i : ScannedInvoice) (lines : List KeyedLine) :
    Relined (.ocr i) (.ocr { i with keyedLines := lines })
  | read (i : ScannedInvoice) {ms ns : Members} : i.keyedLines = [] →
    i.document = some (.object ms) → textField ns currencyNames = textField ms currencyNames →
    Relined (.ocr i) (.ocr { i with document := some (.object ns) })
  | booked (i : BookedInvoice) (lines : List BookedLine) :
    Relined (.xero i) (.xero { i with lines := lines })

namespace ScannedInvoice

variable {i : ScannedInvoice} {t : Transcription}

theorem currency_of_transcribe (h : i.transcribe = .ok t) :
    t.currency = Currency.normalize? (i.currency.or i.offeredCurrency) := by
  obtain ⟨document, hdocument, rfl⟩ := transcribe_eq_ok_iff.mp h
  exact headerCurrency_of_usableDocument hdocument

/-- Without keyed lines, an invoice can be transcribed only if its document can be read. -/
theorem offeredCurrency_of_transcribe (h : i.transcribe = .ok t) (hkeyed : i.keyedLines = [])
    {ms : Members} (hdocument : i.document = some (.object ms)) :
    i.offeredCurrency = textField ms currencyNames := by
  obtain ⟨document, husable, -⟩ := transcribe_eq_ok_iff.mp h
  rw [offeredCurrency, hdocument, Option.bind_some]
  rcases hread : Document.read (.object ms) with e | d
  · simp [usableDocument, isKeyed, hdocument, hread, hkeyed] at husable
  · obtain ⟨items, hitems, -⟩ := read_object_eq_ok_iff.mp hread
    exact offered_of_readable ⟨items, hitems⟩

end ScannedInvoice

namespace Backfill

variable {i j : LegacyInvoice} {t u : Transcription}

/-- The lines of an invoice have no say in its currency. -/
theorem currency_of_relined (h : transcribe i = .ok t) (hu : transcribe j = .ok u)
    (hlines : i.Relined j) : u.currency = t.currency := by
  cases hlines with
  | keyed i lines =>
    -- what the document offers is the same, whether there are lines next to it or not
    rw [ScannedInvoice.currency_of_transcribe (transcribe_ocr_eq_ok_iff.mp h),
      ScannedInvoice.currency_of_transcribe (transcribe_ocr_eq_ok_iff.mp hu)]
    rfl
  | read i hkeyed hdocument hcurrency =>
    -- both documents can be read, so that each offers the currency that it names
    have ht := transcribe_ocr_eq_ok_iff.mp h
    have hu' := transcribe_ocr_eq_ok_iff.mp hu
    rw [ScannedInvoice.currency_of_transcribe ht, ScannedInvoice.currency_of_transcribe hu',
      ScannedInvoice.offeredCurrency_of_transcribe ht hkeyed hdocument,
      ScannedInvoice.offeredCurrency_of_transcribe hu' hkeyed rfl, hcurrency]
  | booked i lines =>
    cases h
    cases hu
    rfl

theorem id_of_relined (hlines : i.Relined j) : j.link.id = i.link.id := by
  cases hlines <;> rfl

/-! ## Section 4: Transcriptions -/

/-- Each line is made from the legacy line in its place. -/
theorem getElem?_lines_of_transcribe (h : transcribe i = .ok t) (n : Nat) :
    t.lines[n]? =
      i.legacyLines[n]?.map fun line => (line.sourceLine i.link.id n).toLine t.currency := by
  rw [lines_of_transcribe h, LegacyInvoice.sourceLines_of_transcribe h, List.getElem?_map,
    List.getElem?_mapIdx, Option.map_map]
  rfl

/-- The lines of a transcription are those of the invoice, each in its place and keeping what it
    says.  Where two invoices have one identifier and one currency, lines that agree in one place
    are transcribed the same, whatever stands in the other places; and no change to its lines gives
    an invoice another identifier or currency. -/
theorem lines_kept (h : transcribe i = .ok t) :
    t.lines.length = i.legacyLines.length ∧
    (i.legacyLines.length < 2 ^ 31 →
      ∀ (n : Nat) (line : LegacyLine), i.legacyLines[n]? = some line →
        ∃ l : Line, t.lines[n]? = some l ∧ l.Keeps i.link.id (n + 1) line) ∧
    (∀ j u, transcribe j = .ok u → j.link.id = i.link.id → u.currency = t.currency →
      ∀ n : Nat, j.legacyLines[n]? = i.legacyLines[n]? → u.lines[n]? = t.lines[n]?) ∧
    ∀ j u, transcribe j = .ok u → i.Relined j →
      j.link.id = i.link.id ∧ u.currency = t.currency := by
  refine ⟨?_, ?_, ?_, ?_⟩
  · rw [lines_of_transcribe h, LegacyInvoice.sourceLines_of_transcribe h, List.length_map,
      List.length_mapIdx]
  · intro hlength n line hline
    obtain ⟨hn, -⟩ := List.getElem?_eq_some_iff.mp hline
    have hplace : n + 1 < 2 ^ 31 := by omega
    refine ⟨(line.sourceLine i.link.id n).toLine t.currency, ?_, ?_⟩
    · rw [getElem?_lines_of_transcribe h, hline, Option.map_some]
    · exact line.keeps_toLine i.link.id hplace t.currency
  · intro j u hu hid hcurrency n hline
    rw [getElem?_lines_of_transcribe h, getElem?_lines_of_transcribe hu, hline, hid, hcurrency]
  · intro j u hu hlines
    exact ⟨id_of_relined hlines, currency_of_relined h hu hlines⟩

/-- A line of the accounting system, which gives it a number of its own. -/
def bookedCoffee : BookedLine :=
  ⟨"xl-1", 7, some " Coffee ", some ⟨2, 0⟩, some ⟨9, 0⟩, some ⟨18, 0⟩, some ⟨18, 1⟩, some "CF"⟩

def bookedSugar : BookedLine := ⟨"xl-2", 7, none, none, none, some ⟨4, 0⟩, none, none⟩

/-- A credit note over coffee and then these lines. -/
def coffeeNote (rest : List BookedLine) : BookedInvoice :=
  ⟨"cn-1", "org", some "loc", none, none, some "aud", true, bookedCoffee :: rest, none, ⟨0, 0⟩⟩

/-- Both lines of the note are kept, and the coffee is the same without the sugar. -/
theorem lines_kept_coffeeNote :
    (∃ l : Line, (coffeeNote [bookedSugar]).transcribe.lines[0]? = some l ∧
      l.Keeps "cn-1" 1 (.booked true bookedCoffee)) ∧
    (∃ l : Line, (coffeeNote [bookedSugar]).transcribe.lines[1]? = some l ∧
      l.Keeps "cn-1" 2 (.booked true bookedSugar)) ∧
    (coffeeNote []).transcribe.lines[0]? = (coffeeNote [bookedSugar]).transcribe.lines[0]? := by
  have h : transcribe (.xero (coffeeNote [bookedSugar])) =
      .ok (coffeeNote [bookedSugar]).transcribe := rfl
  have hu : transcribe (.xero (coffeeNote [])) = .ok (coffeeNote []).transcribe := rfl
  obtain ⟨-, hkeeps, hagree, hrelined⟩ := lines_kept h
  obtain ⟨hid, hcurrency⟩ := hrelined _ _ hu (.booked (coffeeNote [bookedSugar]) [bookedCoffee])
  exact ⟨hkeeps (by decide) 0 _ rfl, hkeeps (by decide) 1 _ rfl, hagree _ _ hu hid hcurrency 0 rfl⟩

end Backfill

/-! ## Section 5: Currencies -/

/-- The line has its own currency, in normal form, or else the one of the header. -/
structure Line.InCurrency (header : Option String) (line : LegacyLine) (l : Line) : Prop where
  of_missing : Currency.IsMissing line.currency → l.currency = header
  of_written : ¬ Currency.IsMissing line.currency →
    l.currency = Currency.normalize? line.currency

theorem LegacyLine.currency_sourceLine (line : LegacyLine) (invoiceId : String) (index : Nat) :
    (line.sourceLine invoiceId index).currency = line.currency := by
  cases line <;> rfl

theorem SourceLine.currency_toLine (s : SourceLine) (header : Option String) :
    (s.toLine header).currency = (Currency.normalize? s.currency).or (Currency.normalize? header) :=
  rfl

namespace Backfill

variable {i : LegacyInvoice} {t : Transcription}

theorem inCurrency_toLine (h : transcribe i = .ok t) (line : LegacyLine) (invoiceId : String)
    (index : Nat) :
    ((line.sourceLine invoiceId index).toLine t.currency).InCurrency t.currency line := by
  have hown := line.currency_sourceLine invoiceId index
  constructor
  · intro hmissing
    exact currency_toLine_of_missing h (hown ▸ hmissing)
  · intro hwritten
    obtain ⟨code, hcode⟩ :=
      Option.ne_none_iff_exists'.mp (mt Currency.normalize?_eq_none_iff.mp hwritten)
    rw [SourceLine.currency_toLine, hown, hcode, Option.some_or]

/-- A transcribed line whose own currency is missing or blank has the one of the transcription, and
    every other line has its own in normal form.  The currency of the whole is in normal form before
    the lines are made, and to normalize it once more for each of them leaves it as it is. -/
theorem line_currencies (h : transcribe i = .ok t) :
    List.Forall₂ (fun line l => l.InCurrency t.currency line) i.legacyLines t.lines ∧
      ∀ raw, Currency.normalize? (Currency.normalize? raw) = Currency.normalize? raw := by
  refine ⟨?_, Currency.normalize?_normalize?⟩
  rw [lines_of_transcribe h, LegacyInvoice.sourceLines_of_transcribe h,
    List.forall₂_map_right_iff, List.forall₂_iff_get]
  constructor
  · exact List.length_mapIdx.symm
  · intro n hn hn'
    rw [List.get_eq_getElem, List.get_eq_getElem, List.getElem_mapIdx]
    exact inCurrency_toLine h _ i.link.id n

/-- A scan in a currency that is written with a ligature, one of whose lines has white space for a
    currency and the other one a currency of its own. -/
def ligatureScan : ScannedInvoice :=
  { ScannedInvoice.keyedInvoice with
    currency := some " \ufb01m"
    keyedLines := [⟨"l-1", 1, none, none, none, none, none, none, some "\t", none⟩,
      ⟨"l-2", 1, none, none, none, none, none, none, some "eur ", none⟩] }

/-- The ligature is taken apart for the header, and the blank line has the letters that came of
    it. -/
theorem line_currencies_ligatureScan :
    ∃ t, transcribe (.ocr ligatureScan) = .ok t ∧ t.currency = some "FIM" ∧
      t.lines.map (·.currency) = [some "FIM", some "EUR"] ∧
      List.Forall₂ (fun line l => l.InCurrency t.currency line)
        (LegacyInvoice.ocr ligatureScan).legacyLines t.lines := by
  have h : transcribe (.ocr ligatureScan) = .ok ⟨.manual, some "inv-1", none, "org", none, none,
      some "FIM", none, (ligatureScan.sourceLines none).map (·.toLine (some "FIM"))⟩ := by
    have hcurrency : ligatureScan.headerCurrency none = some "FIM" := by decide +kernel
    rw [← hcurrency]
    rfl
  have hlines : ((ligatureScan.sourceLines none).map (·.toLine (some "FIM"))).map (·.currency) =
      [some "FIM", some "EUR"] := by decide +kernel
  exact ⟨_, h, rfl, hlines, (line_currencies h).1⟩

end Backfill

end Reconcile
