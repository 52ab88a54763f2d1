import Reconcile.Proofs.Document.Content
import Reconcile.Proofs.Invoice.Transcribed
import Reconcile.Proofs.Text.UpperCase

/-! # The lines behind a transcription

    A transcribed line is made from one line of the legacy invoice and from the currency of the
    whole.  It has that currency if its own line names none; and it complains of exactly those
    numbers that its own line has in writing and without a value.  The lines themselves are those
    that were keyed or booked, or the objects that a document lists.

    Main statements: `lines_of_transcribe`, `currency_toLine_of_missing`,
    `sourceLines_of_transcribe` and `exists_flags_of_transcribe`. -/

namespace Reconcile

/-! ## Section 1: Currencies -/

namespace Currency

open Text

/-- Nothing is written, or nothing but white space. -/
def IsMissing (raw : Option String) : Prop := ∀ s, raw = some s → isBlankText s = true

theorem normalize?_some (s : String) :
    normalize? (some s) =
      if trim s.toList = [] then none else some (String.ofList (upper (trim s.toList))) := by
  rw [normalize?, Option.bind_some]
  rcases trim s.toList with _ | ⟨c, t⟩
  · rfl
  · rfl

theorem normalize?_eq_none_iff {raw : Option String} : normalize? raw = none ↔ IsMissing raw := by
  rcases raw with _ | s
  · simp [normalize?, IsMissing]
  · rw [normalize?_some]
    simp [IsMissing, isBlankText, trim_eq_nil_iff]

/-- A currency in normal form is one for good. -/
theorem normalize?_normalize? (raw : Option String) :
    normalize? (normalize? raw) = normalize? raw := by
  rcases raw with _ | s
  · rfl
  · by_cases hs : trim s.toList = []
    · rw [normalize?_some, if_pos hs]
      rfl
    · -- the code is trimmed and in upper case, so that neither step changes it
      have htrim : trim (upper (trim s.toList)) = upper (trim s.toList) :=
        (trimmed_trim s.toList).upper.trim_eq
      have hne : upper (trim s.toList) ≠ [] := fun h => hs (upper_eq_nil_iff.mp h)
      rw [normalize?_some, if_neg hs, normalize?_some, String.toList_ofList, htrim, if_neg hne,
        upper_upper]

end Currency

/-! ## Section 2: Source lines -/

/-- The lines of a legacy invoice that count; a malformed invoice has none. -/
def LegacyInvoice.sourceLines : LegacyInvoice → List SourceLine
  | .ocr i =>
    match i.usableDocument with
    | .ok document => i.sourceLines document
    | .error _ => []
  | .xero i => i.lines.mapIdx (BookedLine.sourceLine i.adjustment)

namespace Backfill

variable {i : LegacyInvoice} {t : Transcription}

theorem transcribe_ocr_eq_ok_iff {i : ScannedInvoice} :
    transcribe (.ocr i) = .ok t ↔ i.transcribe = .ok t := by
  rcases hi : i.transcribe with e | u <;> simp [transcribe, hi]

/-- Each line is made from the source line in its place, with the currency of the whole. -/
theorem lines_of_transcribe (h : transcribe i = .ok t) :
    t.lines = i.sourceLines.map (·.toLine t.currency) := by
  cases i with
  | ocr i =>
    obtain ⟨document, hdocument, rfl⟩ :=
      ScannedInvoice.transcribe_eq_ok_iff.mp (transcribe_ocr_eq_ok_iff.mp h)
    simp [LegacyInvoice.sourceLines, hdocument]
  | xero i =>
    cases h
    rfl

/-- The currency of a transcription is in normal form. -/
theorem normalize?_currency_of_transcribe (h : transcribe i = .ok t) :
    Currency.normalize? t.currency = t.currency := by
  cases i with
  | ocr i =>
    obtain ⟨document, -, rfl⟩ :=
      ScannedInvoice.transcribe_eq_ok_iff.mp (transcribe_ocr_eq_ok_iff.mp h)
    exact Currency.normalize?_normalize? _
  | xero i =>
    cases h
    exact Currency.normalize?_normalize? _

/-- A line that names no currency has the currency of the whole. -/
theorem currency_toLine_of_missing (h : transcribe i = .ok t) {s : SourceLine}
    (hs : Currency.IsMissing s.currency) : (s.toLine t.currency).currency = t.currency := by
  have hown : Currency.normalize? s.currency = none := Currency.normalize?_eq_none_iff.mpr hs
  have hline : (s.toLine t.currency).currency =
      (Currency.normalize? s.currency).or (Currency.normalize? t.currency) := rfl
  rw [hline, hown, Option.none_or, normalize?_currency_of_transcribe h]

end Backfill

/-! ## Section 3: Legacy lines -/

/-- A line as it is found on a legacy invoice: keyed by hand, an object in the list of items of a
    document, or booked, be it on a credit note or not. -/
inductive LegacyLine where
  | keyed (line : KeyedLine)
  | item (members : Document.Members)
  | booked (creditNote : Bool) (line : BookedLine)

/-- The line at this index of an invoice, before it is resolved and graded. -/
def LegacyLine.sourceLine (invoiceId : String) (index : Nat) : LegacyLine → SourceLine
  | .keyed line => line.sourceLine index
  | .item ms => (Document.readItem ms).sourceLine invoiceId index
  | .booked creditNote line => line.sourceLine (if creditNote then .credited else .plain) index

/-- The values in an array. -/
def Json.elements : Json → List Json
  | .array vs => vs
  | _ => []

/-- The objects in the list of items of a value. -/
def Document.objects : Json → List Members
  | .object ms => ((first? ms itemNames).elim [] Json.elements).filterMap Json.members?
  | _ => []

/-- The lines keyed by hand, if there are any, and otherwise the items of the document. -/
def ScannedInvoice.legacyLines (i : ScannedInvoice) : List LegacyLine :=
  if i.isKeyed then i.keyedLines.map .keyed
  else (i.document.elim [] Document.objects).map .item

def LegacyInvoice.legacyLines : LegacyInvoice → List LegacyLine
  | .ocr i => i.legacyLines
  | .xero i => i.lines.map (.booked i.creditNote)

/-- Changing the values of a list leaves them in their places. -/
theorem mapIdx_map {α β γ : Type} (f : Nat → β → γ) (g : α → β) (xs : List α) :
    (xs.map g).mapIdx f = xs.mapIdx fun index x => f index (g x) := by
  apply List.ext_getElem?
  intro n
  simp [Function.comp_def]

namespace Document

theorem objects_of_itemizes {ms : Members} {items : List Members} (h : Itemizes ms items) :
    objects (.object ms) = items := by
  rw [objects]
  unfold Itemizes at h
  rcases hfirst : first? ms itemNames with _ | v
  · rw [hfirst] at h
    exact h.symm
  · rw [hfirst] at h
    cases v with
    | null => exact h.symm
    | array vs =>
      obtain rfl := Json.array.inj h
      have hmembers : Json.members? ∘ Json.object = some := rfl
      simp only [Option.elim_some, Json.elements, List.filterMap_map, hmembers,
        List.filterMap_some]
    | _ => cases h

/-- A document that can be read has one item for each of its objects. -/
theorem items_of_read {v : Json} {d : Document} (h : read v = .ok d) :
    d.items = (objects v).map readItem := by
  cases v with
  | object ms =>
    obtain ⟨items, hitems, rfl⟩ := read_object_eq_ok_iff.mp h
    rw [objects_of_itemizes hitems]
  | _ => cases h

end Document

namespace ScannedInvoice

variable {i : ScannedInvoice} {document : Option Document}

/-- Whether there are keyed lines or not, a document is used if it can be read. -/
theorem document_of_usableDocument (h : i.usableDocument = .ok document) :
    document = i.document.bind fun v => (Document.read v).toOption := by
  cases hk : i.isKeyed with
  | true =>
    rw [usableDocument_of_keyed hk] at h
    exact (Except.ok.inj h).symm
  | false =>
    rcases hd : i.document with _ | v
    · simp only [usableDocument, hd] at h
      exact (Except.ok.inj h).symm
    · rcases hv : Document.read v with e | d
      · simp [usableDocument, hd, hv, hk] at h
      · simp only [usableDocument, hd, hv] at h
        simpa [hv, Except.toOption] using (Except.ok.inj h).symm

theorem items_of_usableDocument (hkeyed : i.isKeyed = false)
    (h : i.usableDocument = .ok document) :
    (document.map (·.items)).getD [] =
      (i.document.elim [] Document.objects).map Document.readItem := by
  have hdocument := document_of_usableDocument h
  rcases hd : i.document with _ | v
  · rw [hd] at hdocument
    rw [hdocument]
    rfl
  · rcases hv : Document.read v with e | d
    · simp [usableDocument, hd, hv, hkeyed] at h
    · rw [hd, Option.bind_some, hv] at hdocument
      rw [hdocument]
      exact Document.items_of_read hv

theorem sourceLines_of_usableDocument (h : i.usableDocument = .ok document) :
    i.sourceLines document = i.legacyLines.mapIdx (LegacyLine.sourceLine i.id) := by
  rw [sourceLines, legacyLines]
  cases hk : i.isKeyed with
  | true =>
    rw [if_pos rfl, if_pos rfl, mapIdx_map]
    rfl
  | false =>
    rw [if_neg Bool.false_ne_true, if_neg Bool.false_ne_true, items_of_usableDocument hk h,
      mapIdx_map, mapIdx_map]
    rfl

end ScannedInvoice

namespace LegacyInvoice

variable {i : LegacyInvoice}

/-- The lines that count are those that are found, unless the invoice is malformed. -/
theorem sourceLines_of_transcribe {t : Transcription} (h : Backfill.transcribe i = .ok t) :
    i.sourceLines = i.legacyLines.mapIdx (LegacyLine.sourceLine i.link.id) := by
  cases i with
  | ocr i =>
    obtain ⟨document, hdocument, -⟩ :=
      ScannedInvoice.transcribe_eq_ok_iff.mp (Backfill.transcribe_ocr_eq_ok_iff.mp h)
    simp only [sourceLines, hdocument]
    exact ScannedInvoice.sourceLines_of_usableDocument hdocument
  | xero i =>
    rw [legacyLines, mapIdx_map]
    rfl

/-- Every line that counts is found on the invoice. -/
theorem exists_legacyLine_of_mem_sourceLines {s : SourceLine} (h : s ∈ i.sourceLines) :
    ∃ line index, s = LegacyLine.sourceLine i.link.id index line := by
  cases i with
  | ocr i =>
    rw [sourceLines] at h
    rcases hdocument : i.usableDocument with e | document
    · simp [hdocument] at h
    · simp only [hdocument, ScannedInvoice.sourceLines_of_usableDocument hdocument] at h
      obtain ⟨index, hindex, rfl⟩ := List.mem_mapIdx.mp h
      exact ⟨_, index, rfl⟩
  | xero i =>
    obtain ⟨index, hindex, rfl⟩ := List.mem_mapIdx.mp h
    exact ⟨.booked i.creditNote _, index, rfl⟩

end LegacyInvoice

/-! ## Section 4: Complaints -/

open Document in
/-- What there is to say of the numbers of a line that cannot be read. -/
def SourceLine.complaints (s : SourceLine) : List String :=
  complaint "quantity" ⟨s.rawQuantity, s.quantity⟩ ++
    complaint "unitPrice" ⟨s.rawUnitPrice, s.unitPrice⟩ ++
    complaint "lineTotal" ⟨s.rawLineTotal, s.lineTotal⟩

/-- A number that was keyed or booked is written as it was read. -/
theorem Document.complaint_of_plain (label : String) (x : Option Decimal) :
    complaint label ⟨x.map Decimal.plain, x⟩ = [] := by
  cases x <;> rfl

/-- The notes of a line are about its own numbers. -/
theorem LegacyLine.warnings_sourceLine (invoiceId : String) (index : Nat) (line : LegacyLine) :
    (line.sourceLine invoiceId index).notes.warnings =
      (line.sourceLine invoiceId index).complaints := by
  cases line with
  | keyed line =>
    -- keyed numbers are written from their values, so that none is without one
    simp [sourceLine, KeyedLine.sourceLine, SourceLine.complaints, Document.complaint_of_plain,
      NumericNotes.clean]
  | item ms =>
    -- an item is as it was read, with the complaints that came of it
    rfl
  | booked creditNote line =>
    simp [sourceLine, BookedLine.sourceLine, SourceLine.complaints, Document.complaint_of_plain,
      NumericNotes.clean]

/-- A transcribed line gives as reasons the codes of some flags and then its complaints, each
    of them once. -/
theorem Backfill.exists_flags_of_transcribe {i : LegacyInvoice} {t : Transcription}
    (h : transcribe i = .ok t) : ∀ l ∈ t.lines, ∃ s ∈ i.sourceLines, l = s.toLine t.currency ∧
      ∃ flags : List Flag, l.reasons = distinct (flags.map Coded.code ++ s.complaints) := by
  intro l hl
  rw [lines_of_transcribe h] at hl
  obtain ⟨s, hs, rfl⟩ := List.mem_map.mp hl
  refine ⟨s, hs, rfl, (s.written t.currency).facts.flags, ?_⟩
  obtain ⟨line, index, rfl⟩ := LegacyInvoice.exists_legacyLine_of_mem_sourceLines hs
  rw [← LegacyLine.warnings_sourceLine]
  rfl

end Reconcile
