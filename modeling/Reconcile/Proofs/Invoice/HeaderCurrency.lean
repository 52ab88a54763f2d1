import Mathlib.Data.List.Forall2
import Reconcile.Proofs.Invoice.Sources

/-! # Where the currency of an invoice comes from

    A scanned invoice has the currency that is written on it, or else the one that its document
    offers.  Next to lines keyed by hand a document is looked at for nothing else, but it is read
    as a whole, so that items that cannot be read take its currency away with them.  A currency
    that was left blank is no currency, except in this one choice: the document is not asked for
    another one.

    Main statements: `transcribe_keyed_iff` and `Backfill.transcribe_alike_iff`;
    `unreadable_items_take_currency` and `blank_currency_hides_document` are the invoices that lose
    their currency. -/

namespace Reconcile

open Document

/-! ## Section 1: What a document offers -/

/-- The currency in a value that can be read as a document. -/
def Document.offered (v : Json) : Option String := (Document.read v).toOption.bind (·.currency)

namespace Document

variable {ms : Members}

theorem offered_of_readable (h : Readable ms) :
    offered (.object ms) = textField ms currencyNames := by
  obtain ⟨items, hitemizes⟩ := h
  rw [offered, read_object_eq_ok_iff.mpr ⟨items, hitemizes, rfl⟩]
  rfl

theorem offered_of_not_readable (h : ¬ Readable ms) : offered (.object ms) = none := by
  rcases hread : read (.object ms) with e | d
  · rw [offered, hread]
    rfl
  · obtain ⟨items, hitemizes, -⟩ := read_object_eq_ok_iff.mp hread
    exact absurd ⟨items, hitemizes⟩ h

theorem normalize?_textField_eq_none_iff {names : List String} :
    Currency.normalize? (textField ms names) = none ↔ textField ms names = none := by
  rcases h : textField ms names with _ | s
  · exact iff_of_true rfl rfl
  · rw [Currency.normalize?_eq_none_iff]
    refine iff_of_false (fun hmissing => ?_) (Option.some_ne_none s)
    have hwritten := not_blank_of_textField h
    rw [hmissing s rfl] at hwritten
    cases hwritten

/-- What is offered is more than white space, so that it gives a code. -/
theorem normalize?_offered_eq_none_iff {v : Json} :
    Currency.normalize? (offered v) = none ↔ offered v = none := by
  cases v with
  | object ms =>
    by_cases h : Readable ms
    · rw [offered_of_readable h]
      exact normalize?_textField_eq_none_iff
    · rw [offered_of_not_readable h]
      exact iff_of_true rfl rfl
  | _ => exact iff_of_true rfl rfl

end Document

namespace ScannedInvoice

variable {i j : ScannedInvoice}

/-- The currency that the document of an invoice offers, if there is a document and it can be
    read. -/
def offeredCurrency (i : ScannedInvoice) : Option String := i.document.bind Document.offered

theorem headerCurrency_of_usableDocument {document : Option Document}
    (h : i.usableDocument = .ok document) :
    i.headerCurrency document = Currency.normalize? (i.currency.or i.offeredCurrency) := by
  rw [headerCurrency, document_of_usableDocument h, Option.bind_assoc]
  rfl

/-- A document that cannot be used offers nothing. -/
theorem offeredCurrency_of_error {e : DocumentError} (h : i.usableDocument = .error e) :
    i.offeredCurrency = none := by
  rcases hd : i.document with _ | v
  · simp [usableDocument, hd] at h
  · rcases hv : Document.read v with e | d
    · rw [offeredCurrency, hd, Option.bind_some, offered, hv]
      rfl
    · simp [usableDocument, hd, hv] at h

theorem normalize?_offeredCurrency_eq_none_iff :
    Currency.normalize? i.offeredCurrency = none ↔ i.offeredCurrency = none := by
  unfold offeredCurrency
  rcases i.document with _ | v
  · exact iff_of_true rfl rfl
  · exact normalize?_offered_eq_none_iff

/-! ## Section 2: Invoices with keyed lines -/

/-- The transcription of an invoice with keyed lines when it has this currency.  The document has
    no part in it. -/
def keyedTranscription (i : ScannedInvoice) (currency : Option String) : Transcription where
  origin := .manual
  ocrPointer := some i.id
  xeroPointer := none
  organisation := i.organisation
  supplier := i.supplier
  date := i.date
  currency := currency
  deletedAt := i.deletedAt
  lines := (i.keyedLines.mapIdx KeyedLine.sourceLine).map (·.toLine currency)

theorem transcribe_of_keyed (h : i.isKeyed = true) :
    i.transcribe =
      .ok (i.keyedTranscription (Currency.normalize? (i.currency.or i.offeredCurrency))) := by
  have hdocument := usableDocument_of_keyed h
  refine transcribe_eq_ok_iff.mpr ⟨_, hdocument, ?_⟩
  rw [headerCurrency_of_usableDocument hdocument]
  simp only [sourceLines, h, if_true, keyedTranscription]

/-- With another document the invoice is transcribed the same if it has the same currency. -/
theorem transcribe_withDocument_iff (h : i.isKeyed = true) (d e : Option Json) :
    ({ i with document := d } : ScannedInvoice).transcribe =
        ({ i with document := e } : ScannedInvoice).transcribe ↔
      Currency.normalize? (i.currency.or (d.bind Document.offered)) =
        Currency.normalize? (i.currency.or (e.bind Document.offered)) := by
  have hd := transcribe_of_keyed (i := { i with document := d }) h
  have he := transcribe_of_keyed (i := { i with document := e }) h
  rw [hd, he]
  constructor
  · intro hsame
    exact congrArg Transcription.currency (Except.ok.inj hsame)
  · intro hsame
    simp only [offeredCurrency, hsame]
    rfl

/-- An invoice with keyed lines can be transcribed whatever its document is.  If two documents have
    the same members for a currency, the transcriptions are the same, unless the invoice names no
    currency itself, the documents have one, and the items of just one of them can be read. -/
theorem transcribe_keyed_iff (i : ScannedInvoice) (h : i.keyedLines ≠ []) :
    (∀ document, ∃ t, ({ i with document := document } : ScannedInvoice).transcribe = .ok t) ∧
    ∀ ms ns : Members, (∀ name ∈ currencyNames, ms.lookup name = ns.lookup name) →
      (({ i with document := some (.object ms) } : ScannedInvoice).transcribe =
          ({ i with document := some (.object ns) } : ScannedInvoice).transcribe ↔
        i.currency ≠ none ∨ textField ms currencyNames = none ∨ (Readable ms ↔ Readable ns)) := by
  have hkeyed : i.isKeyed = true := by simpa [isKeyed] using h
  refine ⟨fun document => ⟨_, transcribe_of_keyed (i := { i with document := document }) hkeyed⟩,
    fun ms ns hnames => ?_⟩
  have htext : textField ns currencyNames = textField ms currencyNames := by
    unfold textField
    rw [← List.head?_filterMap, ← List.head?_filterMap]
    congr 1
    exact List.filterMap_congr fun name hname => by rw [hnames name hname]
  rw [transcribe_withDocument_iff hkeyed, Option.bind_some, Option.bind_some]
  rcases i.currency with _ | own
  · rw [Option.none_or, Option.none_or]
    have hnone : Currency.normalize? none = none := rfl
    -- only if just one of the documents is readable, they offer different currencies
    by_cases hm : Readable ms <;> by_cases hn : Readable ns
    · simp [offered_of_readable hm, offered_of_readable hn, htext, hm, hn]
    · rw [offered_of_readable hm, offered_of_not_readable hn, hnone]
      simpa [hm, hn] using normalize?_textField_eq_none_iff
    · rw [offered_of_not_readable hm, offered_of_readable hn, hnone, htext, eq_comm]
      simpa [hm, hn] using normalize?_textField_eq_none_iff
    · simp [offered_of_not_readable hm, offered_of_not_readable hn, hm, hn]
  · simp

/-- An invoice with one line keyed by hand and no currency of its own. -/
def keyedInvoice : ScannedInvoice :=
  ⟨"inv-1", "org", some "loc", none, none, none, false, none,
    [⟨"l-1", 1, some "Ham 2kg", some ⟨1, 0⟩, none, none, some ⟨5, 0⟩, none, none, none⟩], none,
    ⟨0, 0⟩⟩

/-- Members for a currency, and this list of items. -/
def membersWith (items : Json) : Members := [("currencyCode", .text "AUD"), ("lineItems", items)]

theorem lookup_membersWith (items items' : Json) :
    ∀ name ∈ currencyNames,
      (membersWith items).lookup name = (membersWith items').lookup name := by
  intro name hname
  have hother : (name == "lineItems") = false := by
    revert name
    decide
  simp [membersWith, List.lookup_cons, hother]

theorem readable_membersWith (items : List Members) :
    Readable (membersWith (.array (items.map .object))) := by
  refine ⟨items, ?_⟩
  have hfirst : first? (membersWith (.array (items.map .object))) itemNames =
      some (.array (items.map .object)) := rfl
  rw [Itemizes, hfirst]

/-- An item whose quantity cannot be read makes no difference next to a keyed line. -/
theorem transcribe_keyed_iff_items :
    keyedInvoice.keyedLines ≠ [] ∧
      ({ keyedInvoice with document := some (.object (membersWith
          (.array [.object [("quantity", .text "two")]]))) } : ScannedInvoice).transcribe =
        ({ keyedInvoice with document := some (.object (membersWith (.array []))) } :
          ScannedInvoice).transcribe := by
  have hlines : keyedInvoice.keyedLines ≠ [] := by decide
  refine ⟨hlines, ?_⟩
  have hsame := lookup_membersWith (.array [.object [("quantity", .text "two")]]) (.array [])
  refine ((transcribe_keyed_iff keyedInvoice hlines).2 _ _ hsame).mpr (.inr (.inr ?_))
  exact iff_of_true (readable_membersWith [[("quantity", .text "two")]]) (readable_membersWith [])

/-- The currency of the transcription, and the currency and the reasons of each of its lines. -/
def currencies (i : ScannedInvoice) : Option (Option String × List (Option String × List String)) :=
  i.transcribe.toOption.map fun t => (t.currency, t.lines.map fun l => (l.currency, l.reasons))

/-- What cannot be a list of items takes the currency of the document with it, and the line is
    told that it has none. -/
theorem unreadable_items_take_currency :
    (∀ name ∈ currencyNames, (membersWith (.array [])).lookup name =
        (membersWith (.text "garbage")).lookup name) ∧
      currencies { keyedInvoice with document := some (.object (membersWith (.array []))) } =
        some (some "AUD", [(some "AUD", [])]) ∧
      currencies { keyedInvoice with document := some (.object (membersWith (.text "garbage"))) } =
        some (none, [(none, ["MISSING_CURRENCY_CODE"])]) :=
  ⟨lookup_membersWith _ _, by decide +kernel⟩

end ScannedInvoice

/-! ## Section 3: Currencies that are left blank -/

/-- The same is written for both currencies, or both are left out, be it by nothing or by white
    space. -/
def Currency.Alike (c d : Option String) : Prop := c = d ∨ IsMissing c ∧ IsMissing d

theorem Currency.Alike.normalize?_eq {c d : Option String} (h : Alike c d) :
    normalize? c = normalize? d := by
  rcases h with rfl | ⟨hc, hd⟩
  · rfl
  · rw [normalize?_eq_none_iff.mpr hc, normalize?_eq_none_iff.mpr hd]

/-- The lines are the same, up to how their currency is left out. -/
structure KeyedLine.Alike (k l : KeyedLine) : Prop where
  currency : Currency.Alike k.currency l.currency
  rest : l = { k with currency := l.currency }

/-- The invoices are the same, up to how currencies are left out, their own and those of their
    lines. -/
structure ScannedInvoice.Alike (i j : ScannedInvoice) : Prop where
  currency : Currency.Alike i.currency j.currency
  lines : List.Forall₂ KeyedLine.Alike i.keyedLines j.keyedLines
  rest : j = { i with currency := j.currency, keyedLines := j.keyedLines }

/-- The invoices are the same, up to how their currency is left out. -/
structure BookedInvoice.Alike (i j : BookedInvoice) : Prop where
  currency : Currency.Alike i.currency j.currency
  rest : j = { i with currency := j.currency }

/-- The invoices came in by the same feed and are alike. -/
inductive LegacyInvoice.Alike : LegacyInvoice → LegacyInvoice → Prop where
  | ocr {i j : ScannedInvoice} : i.Alike j → Alike (.ocr i) (.ocr j)
  | xero {i j : BookedInvoice} : i.Alike j → Alike (.xero i) (.xero j)

namespace LegacyInvoice

/-- The currency that is written on an invoice. -/
def currency : LegacyInvoice → Option String
  | .ocr i => i.currency
  | .xero i => i.currency

/-- The currency that is offered besides; no document comes with a booked invoice. -/
def offeredCurrency : LegacyInvoice → Option String
  | .ocr i => i.offeredCurrency
  | .xero _ => none

end LegacyInvoice

/-- A line is resolved and graded by the normal form of its currency. -/
theorem SourceLine.toLine_withCurrency {s : SourceLine} {c : Option String}
    (h : Currency.normalize? s.currency = Currency.normalize? c) (header : Option String) :
    ({ s with currency := c } : SourceLine).toLine header = s.toLine header := by
  have hfacts : (({ s with currency := c } : SourceLine).written header).facts =
      (s.written header).facts := by
    simp only [written, WrittenLine.facts, h]
  simp only [toLine, WrittenLine.resolve, hfacts]
  rfl

theorem KeyedLine.Alike.toLine_eq {k l : KeyedLine} (h : k.Alike l) (index : Nat)
    (header : Option String) :
    (k.sourceLine index).toLine header = (l.sourceLine index).toLine header := by
  rw [h.rest]
  exact (SourceLine.toLine_withCurrency h.currency.normalize?_eq header).symm

/-- Alike lines in the same places are the same lines once they are transcribed. -/
theorem KeyedLine.map_toLine_eq {ks ls : List KeyedLine} (h : List.Forall₂ Alike ks ls)
    (header : Option String) : (ks.mapIdx sourceLine).map (·.toLine header) =
      (ls.mapIdx sourceLine).map (·.toLine header) := by
  -- the places are counted on while the lists are gone through
  suffices hfrom : ∀ first, (ks.mapIdx fun n => sourceLine (n + first)).map (·.toLine header) =
      (ls.mapIdx fun n => sourceLine (n + first)).map (·.toLine header) from hfrom 0
  induction h with
  | nil => exact fun _ => rfl
  | cons halike _ ih =>
    intro first
    have hrest := ih (first + 1)
    simp only [List.mapIdx_cons, List.map_cons, Nat.zero_add, Nat.add_assoc, Nat.add_comm 1,
      halike.toLine_eq first header, hrest]

namespace ScannedInvoice

variable {i j : ScannedInvoice} {currency : Option String} {lines : List KeyedLine}

/-- The invoice with this currency and with these lines keyed by hand. -/
def restated (i : ScannedInvoice) (currency : Option String) (lines : List KeyedLine) :
    ScannedInvoice := { i with currency := currency, keyedLines := lines }

theorem isKeyed_restated (h : List.Forall₂ KeyedLine.Alike i.keyedLines lines) :
    (i.restated currency lines).isKeyed = i.isKeyed := by
  have hsome : i.keyedLines.isEmpty = lines.isEmpty := by
    rw [Bool.eq_iff_iff, List.isEmpty_iff_length_eq_zero, List.isEmpty_iff_length_eq_zero,
      h.length_eq]
  rw [isKeyed, isKeyed, hsome]
  rfl

theorem usableDocument_restated (h : List.Forall₂ KeyedLine.Alike i.keyedLines lines) :
    (i.restated currency lines).usableDocument = i.usableDocument := by
  rw [usableDocument, isKeyed_restated h]
  rfl

theorem lines_restated (h : List.Forall₂ KeyedLine.Alike i.keyedLines lines)
    (document : Option Document) (header : Option String) :
    ((i.restated currency lines).sourceLines document).map (·.toLine header) =
      (i.sourceLines document).map (·.toLine header) := by
  rw [sourceLines, sourceLines, isKeyed_restated h]
  split
  · exact (KeyedLine.map_toLine_eq h header).symm
  · rfl

/-- All that the transcriptions can differ in is the currency of the whole. -/
theorem transcribe_restated_iff (h : List.Forall₂ KeyedLine.Alike i.keyedLines lines)
    {document : Option Document} (hdocument : i.usableDocument = .ok document) :
    i.transcribe = (i.restated currency lines).transcribe ↔
      Currency.normalize? (i.currency.or i.offeredCurrency) =
        Currency.normalize? (currency.or i.offeredCurrency) := by
  have hrestated : (i.restated currency lines).usableDocument = .ok document := by
    rw [usableDocument_restated h, hdocument]
  have hi := transcribe_eq_ok_iff.mpr ⟨document, hdocument, rfl⟩
  have hj := transcribe_eq_ok_iff.mpr ⟨document, hrestated, rfl⟩
  rw [headerCurrency_of_usableDocument hdocument] at hi
  rw [headerCurrency_of_usableDocument hrestated, lines_restated h, isKeyed_restated h] at hj
  rw [hi, hj]
  constructor
  · intro hsame
    exact congrArg Transcription.currency (Except.ok.inj hsame)
  · intro hsame
    have hcurrency : Currency.normalize? (i.currency.or i.offeredCurrency) =
        Currency.normalize? ((i.restated currency lines).currency.or
          (i.restated currency lines).offeredCurrency) := hsame
    rw [hcurrency]
    rfl

/-- A currency that is left blank is one that is left out, unless the other invoice says nothing at
    all and its document is asked. -/
theorem normalize?_or_alike_iff {c d offered : Option String} (h : Currency.Alike c d)
    (hoffered : Currency.normalize? offered = none ↔ offered = none) :
    Currency.normalize? (c.or offered) = Currency.normalize? (d.or offered) ↔
      c.isSome = d.isSome ∨ offered = none := by
  rcases h with rfl | ⟨hc, hd⟩
  · simp
  · rw [← Currency.normalize?_eq_none_iff] at hc hd
    rcases c with _ | c <;> rcases d with _ | d
    · simp
    · simpa [hd] using hoffered
    · rw [eq_comm]
      simpa [hc] using hoffered
    · simp [hc, hd]

theorem Alike.transcribe_eq_iff (h : i.Alike j) : i.transcribe = j.transcribe ↔
    i.currency.isSome = j.currency.isSome ∨ i.offeredCurrency = none := by
  have hrest : j = i.restated j.currency j.keyedLines := h.rest
  rcases hdocument : i.usableDocument with e | document
  · have herror : j.usableDocument = .error e := by
      rw [hrest, usableDocument_restated h.lines, hdocument]
    rw [transcribe, transcribe, hdocument, herror]
    exact iff_of_true rfl (.inr (offeredCurrency_of_error hdocument))
  · rw [hrest, transcribe_restated_iff h.lines hdocument,
      normalize?_or_alike_iff h.currency normalize?_offeredCurrency_eq_none_iff]
    rfl

end ScannedInvoice

theorem BookedInvoice.Alike.transcribe_eq {i j : BookedInvoice} (h : i.Alike j) :
    i.transcribe = j.transcribe := by
  rw [h.rest]
  simp only [transcribe, h.currency.normalize?_eq]
  rfl

namespace Backfill

theorem transcribe_ocr_eq_iff {i j : ScannedInvoice} (h : i.id = j.id) :
    transcribe (.ocr i) = transcribe (.ocr j) ↔ i.transcribe = j.transcribe := by
  simp only [transcribe, h]
  rcases i.transcribe with e | t <;> rcases j.transcribe with e' | t' <;> simp

/-- How a currency is left out makes no difference to a transcription, be it the currency of the
    invoice or of a keyed line, unless one of the two invoices says nothing at all, the other one
    white space, and a document offers a currency. -/
theorem transcribe_alike_iff {i j : LegacyInvoice} (h : i.Alike j) :
    transcribe i = transcribe j ↔
      i.currency.isSome = j.currency.isSome ∨ i.offeredCurrency = none := by
  cases h with
  | @ocr i j h =>
    have hid : i.id = j.id := by rw [h.rest]
    rw [transcribe_ocr_eq_iff hid]
    exact h.transcribe_eq_iff
  | @xero i j h =>
    rw [transcribe, transcribe, h.transcribe_eq]
    exact iff_of_true rfl (.inr rfl)

end Backfill

namespace ScannedInvoice

/-- The keyed line with white space for its currency is alike, and transcribed the same. -/
theorem transcribe_alike_iff_blankLine :
    let blank := keyedInvoice.restated (some "AUD")
      (keyedInvoice.keyedLines.map fun k => { k with currency := some "\t " })
    let plain := keyedInvoice.restated (some "AUD") keyedInvoice.keyedLines
    LegacyInvoice.Alike (.ocr blank) (.ocr plain) ∧
      Backfill.transcribe (.ocr blank) = Backfill.transcribe (.ocr plain) := by
  intro blank plain
  have halike : LegacyInvoice.Alike (.ocr blank) (.ocr plain) := by
    refine .ocr ⟨.inl rfl, .cons ⟨.inr ⟨?_, ?_⟩, rfl⟩ .nil, rfl⟩
    · rintro s ⟨⟩
      decide
    · rintro s ⟨⟩
  exact ⟨halike, (Backfill.transcribe_alike_iff halike).mpr (.inl rfl)⟩

/-- White space for the currency of an invoice keeps its document from being asked. -/
theorem blank_currency_hides_document :
    Currency.IsMissing (some " ") ∧
      currencies { keyedInvoice with document := some (.object (membersWith (.array []))) } =
        some (some "AUD", [(some "AUD", [])]) ∧
      currencies { keyedInvoice with
          currency := some " "
          document := some (.object (membersWith (.array []))) } =
        some (none, [(none, ["MISSING_CURRENCY_CODE"])]) := by
  refine ⟨?_, by decide +kernel⟩
  rintro s ⟨⟩
  decide

end ScannedInvoice

end Reconcile
