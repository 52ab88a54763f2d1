import Mathlib.Algebra.Group.Nat.Defs
import Reconcile.Backfill

/-! # What a transcription keeps of its invoice

    Whichever feed a legacy invoice comes from, and whether its lines were keyed, read or booked,
    its transcription points back at it, numbers the lines by their places, and gives every line
    the origin of the whole.

    Main statements: `transcribe_ofLink`, and `plan_eq_write_iff`, which says what is written for
    an invoice and when. -/

namespace Reconcile

/-! ## Section 1: Line numbers, origins and links -/

theorem LineNumber.toInt_ofIndex {i : Nat} (h : i + 1 < 2 ^ 31) :
    (LineNumber.ofIndex i).toInt = (i : Int) + 1 := by
  rw [ofIndex, if_pos (by omega), Int32.toInt_ofNat']
  simp only [Int32.size]
  rw [Int.bmod_eq_of_le (by omega) (by omega)]
  omega

theorem Text.asciiUpper_eq (s : String) :
    asciiUpper s = String.ofList (s.toList.map Char.toUpper) := by
  apply String.toList_injective
  rw [asciiUpper, String.toList_map, String.toList_ofList]

/-- An origin is read back from its code. -/
theorem Origin.read_code (o : Origin) :
    (Coded.read (Coded.code o) : Except UnknownCode Origin) = .ok o := by
  rw [Coded.read, Text.asciiUpper_eq]
  cases o <;> rfl

namespace Link

@[simp] theorem feed_ofFeed (f : Feed) (i : String) : (ofFeed f i).feed = f := by
  cases f <;> rfl

@[simp] theorem id_ofFeed (f : Feed) (i : String) : (ofFeed f i).id = i := by
  cases f <;> rfl

@[simp] theorem ofFeed_feed_id (link : Link) : ofFeed link.feed link.id = link := by
  cases link <;> rfl

theorem ofFeed_inj {f g : Feed} {i j : String} : ofFeed f i = ofFeed g j ↔ f = g ∧ i = j := by
  constructor
  · intro h
    exact ⟨by simpa using congrArg feed h, by simpa using congrArg id h⟩
  · rintro ⟨rfl, rfl⟩
    rfl

/-- The pointers of a link stand for no other link, and for this one if it names an invoice at
    all and the origin uses its feed. -/
theorem resolve_pointers (origin : Origin) (link m : Link) :
    resolve origin link.ocrPointer link.xeroPointer = .ok m ↔
      m = link ∧ Text.isBlankText link.id = false ∧ origin.feed = link.feed := by
  cases link with
  | ocr i =>
    by_cases hb : Text.isBlankText i <;> by_cases hf : origin.feed = .ocr <;>
      simp [resolve, present, ocrPointer, xeroPointer, ofPointer, ofFeed, feed, id, hb, hf,
        Option.filter, eq_comm]
  | xero i =>
    by_cases hb : Text.isBlankText i <;> by_cases hf : origin.feed = .xero <;>
      simp [resolve, present, ocrPointer, xeroPointer, ofPointer, ofFeed, feed, id, hb, hf,
        Option.filter, eq_comm]

end Link

/-! ## Section 2: Transcriptions -/

namespace LegacyInvoice

/-- The link to a legacy invoice. -/
def link : LegacyInvoice → Link
  | .ocr i => .ocr i.id
  | .xero i => .xero i.id

def hasLines : LegacyInvoice → Bool
  | .ocr i => i.hasLines
  | .xero i => i.hasLines

end LegacyInvoice

/-- The transcription is of the invoice behind this link. -/
structure Transcription.OfLink (link : Link) (t : Transcription) : Prop where
  ocrPointer : t.ocrPointer = link.ocrPointer
  xeroPointer : t.xeroPointer = link.xeroPointer
  numbers : t.lines.map (·.number) = (List.range t.lines.length).map LineNumber.ofIndex
  origin : ∀ l ∈ t.lines, l.origin = t.origin

/-- The three kinds of source line number a line by its place and give it one origin. -/
theorem SourceLine.numbers_mapIdx {α : Type} {f : Nat → α → SourceLine} (xs : List α)
    (currency : Option String) (hf : ∀ i x, (f i x).number = .ofIndex i) :
    ((xs.mapIdx f).map (·.toLine currency)).map (·.number) =
      (List.range ((xs.mapIdx f).map (·.toLine currency)).length).map LineNumber.ofIndex := by
  apply List.ext_getElem
  · simp
  · intro i h₁ h₂
    simp [toLine, hf]

theorem SourceLine.origin_mapIdx {α : Type} {f : Nat → α → SourceLine} {o : Origin} (xs : List α)
    (currency : Option String) (hf : ∀ i x, (f i x).origin = o) :
    ∀ l ∈ (xs.mapIdx f).map (·.toLine currency), l.origin = o := by
  intro l hl
  obtain ⟨s, hs, rfl⟩ := List.mem_map.mp hl
  obtain ⟨i, h, rfl⟩ := List.mem_mapIdx.mp hs
  exact hf i _

theorem ScannedInvoice.transcribe_eq_ok_iff {i : ScannedInvoice} {t : Transcription} :
    i.transcribe = .ok t ↔ ∃ document, i.usableDocument = .ok document ∧ t =
      { origin := if i.isKeyed then .manual else .ocr
        ocrPointer := some i.id
        xeroPointer := none
        organisation := i.organisation
        supplier := i.supplier
        date := i.date
        currency := i.headerCurrency document
        deletedAt := i.deletedAt
        lines := (i.sourceLines document).map (·.toLine (i.headerCurrency document)) } := by
  rw [transcribe]
  rcases i.usableDocument with e | document
  · simp [Except.map]
  · constructor
    · rintro ⟨⟩
      exact ⟨document, rfl, rfl⟩
    · rintro ⟨_, ⟨⟩, rfl⟩
      rfl

/-- Next to keyed lines there is a usable document if there is one that can be read at all. -/
theorem ScannedInvoice.usableDocument_of_keyed {i : ScannedInvoice} (h : i.isKeyed = true) :
    i.usableDocument = .ok (i.document.bind fun v => (Document.read v).toOption) := by
  rw [usableDocument]
  rcases i.document with _ | v
  · rfl
  · rcases hv : Document.read v with e | d
    · simp [hv, h, Except.toOption]
    · simp [hv, Except.toOption]

/-- The lines that a scan looks for are those that a transcription takes over, whether they are
    keyed, read or missing.  A malformed document counts as lines on both sides, unless there are
    keyed lines, which count on both sides anyway. -/
theorem ScannedInvoice.hasLines_eq_false_iff (i : ScannedInvoice) :
    i.hasLines = false ↔ ∃ t, i.transcribe = .ok t ∧ t.lines = [] := by
  have htranscribe : (∃ t, i.transcribe = .ok t ∧ t.lines = []) ↔
      ∃ document, i.usableDocument = .ok document ∧ i.sourceLines document = [] := by
    constructor
    · rintro ⟨_, ht, hlines⟩
      obtain ⟨document, hdocument, rfl⟩ := transcribe_eq_ok_iff.mp ht
      exact ⟨document, hdocument, List.map_eq_nil_iff.mp hlines⟩
    · rintro ⟨document, hdocument, hlines⟩
      exact ⟨_, transcribe_eq_ok_iff.mpr ⟨document, hdocument, rfl⟩,
        List.map_eq_nil_iff.mpr hlines⟩
  rw [htranscribe]
  cases hk : i.isKeyed with
  | true =>
    have hne : i.keyedLines ≠ [] := by simpa [isKeyed] using hk
    simp [hasLines, hk, sourceLines, hne]
  | false =>
    rcases hd : i.document with _ | v
    · simp [hasLines, usableDocument, sourceLines, hk, hd]
    · rcases hv : Document.read v with e | d
      · simp [hasLines, usableDocument, hk, hd, hv]
      · simp [hasLines, usableDocument, sourceLines, hk, hd, hv]

theorem BookedInvoice.hasLines_eq_false_iff (i : BookedInvoice) :
    i.hasLines = false ↔ i.transcribe.lines = [] := by
  simp [hasLines, transcribe]

theorem ScannedInvoice.numbers_sourceLines (i : ScannedInvoice) (document : Option Document)
    (currency : Option String) :
    ((i.sourceLines document).map (·.toLine currency)).map (·.number) =
      (List.range ((i.sourceLines document).map (·.toLine currency)).length).map
        LineNumber.ofIndex := by
  unfold sourceLines
  split
  · exact SourceLine.numbers_mapIdx _ _ fun _ _ => rfl
  · exact SourceLine.numbers_mapIdx _ _ fun _ _ => rfl

theorem ScannedInvoice.origin_sourceLines (i : ScannedInvoice) (document : Option Document)
    (currency : Option String) :
    ∀ l ∈ (i.sourceLines document).map (·.toLine currency),
      l.origin = if i.isKeyed then .manual else .ocr := by
  unfold sourceLines
  split
  · exact SourceLine.origin_mapIdx _ _ fun _ _ => rfl
  · exact SourceLine.origin_mapIdx _ _ fun _ _ => rfl

theorem ScannedInvoice.transcribe_ofLink {i : ScannedInvoice} {t : Transcription}
    (h : i.transcribe = .ok t) : t.OfLink (.ocr i.id) := by
  obtain ⟨document, -, rfl⟩ := transcribe_eq_ok_iff.mp h
  exact
    { ocrPointer := rfl
      xeroPointer := rfl
      numbers := i.numbers_sourceLines document _
      origin := i.origin_sourceLines document _ }

theorem BookedInvoice.transcribe_ofLink (i : BookedInvoice) : i.transcribe.OfLink (.xero i.id) where
  ocrPointer := rfl
  xeroPointer := rfl
  numbers := SourceLine.numbers_mapIdx i.lines _ fun _ _ => rfl
  origin := SourceLine.origin_mapIdx i.lines _ fun _ _ => rfl

namespace Backfill

theorem transcribe_ofLink {i : LegacyInvoice} {t : Transcription} (h : transcribe i = .ok t) :
    t.OfLink i.link := by
  cases i with
  | ocr i =>
    rcases hi : i.transcribe with e | u
    · simp [transcribe, hi] at h
    · simp only [transcribe, hi, Except.ok.injEq] at h
      exact h ▸ i.transcribe_ofLink hi
  | xero i =>
    simp only [transcribe, Except.ok.injEq] at h
    exact h ▸ i.transcribe_ofLink

/-- An invoice is left out of the scans for want of lines exactly if its transcription has none. -/
theorem hasLines_eq_false_iff (i : LegacyInvoice) :
    i.hasLines = false ↔ ∃ t, transcribe i = .ok t ∧ t.lines = [] := by
  cases i with
  | ocr i =>
    rw [LegacyInvoice.hasLines, i.hasLines_eq_false_iff]
    rcases hi : i.transcribe with e | u <;> simp [transcribe, hi]
  | xero i => simp [LegacyInvoice.hasLines, transcribe, i.hasLines_eq_false_iff]

/-- An invoice with lines to transcribe is malformed or has lines when it is transcribed. -/
theorem lines_ne_nil_of_hasLines {i : LegacyInvoice} {t : Transcription}
    (h : transcribe i = .ok t) (hlines : i.hasLines = true) : t.lines ≠ [] := by
  intro hnil
  have hnone : i.hasLines = false := (hasLines_eq_false_iff i).mpr ⟨t, h, hnil⟩
  rw [hlines] at hnone
  cases hnone

/-! ## Section 3: Plans -/

theorem plan_eq_write_iff {found : Option LegacyInvoice} {d : HeaderDraft} {lines : List Line} :
    plan found = .ok (.write d lines) ↔
      ∃ i location t link, found = some i ∧ i.location = some location ∧
        transcribe i = .ok t ∧ t.lines ≠ [] ∧
        Link.resolve t.origin t.ocrPointer t.xeroPointer = .ok link ∧
        d = draft t location link ∧ lines = t.lines := by
  rcases found with _ | i
  · simp [plan]
  rcases hl : i.location with _ | location
  · simp [plan, hl]
  rcases ht : transcribe i with e | t
  · simp [plan, hl, ht]
  rcases hlines : t.lines with _ | ⟨l, ls⟩
  · simp [plan, hl, ht, hlines]
  rcases hr : Link.resolve t.origin t.ocrPointer t.xeroPointer with e | link
  · simp [plan, hl, ht, hlines, hr]
  · simp [plan, hl, ht, hlines, hr, eq_comm]

theorem plan_xero {i : BookedInvoice} {location : String} (hl : i.location = some location)
    (hlines : i.lines ≠ []) (hid : Text.isBlankText i.id = false) :
    plan (some (.xero i)) =
      .ok (.write (draft i.transcribe location (.xero i.id)) i.transcribe.lines) := by
  refine plan_eq_write_iff.mpr
    ⟨.xero i, location, i.transcribe, .xero i.id, rfl, hl, rfl, ?_, ?_, rfl, rfl⟩
  · simpa [BookedInvoice.transcribe] using hlines
  · exact (Link.resolve_pointers .xero (.xero i.id) _).mpr ⟨rfl, hid, rfl⟩

/-- A scanned invoice with lines keyed by hand is written, whatever its document is like. -/
theorem plan_keyed {i : ScannedInvoice} {location : String} (hl : i.location = some location)
    (hkeyed : i.isKeyed = true) (hid : Text.isBlankText i.id = false) :
    ∃ d lines, plan (some (.ocr i)) = .ok (.write d lines) := by
  have ht := ScannedInvoice.transcribe_eq_ok_iff.mpr
    ⟨_, ScannedInvoice.usableDocument_of_keyed hkeyed, rfl⟩
  have hlines : i.keyedLines ≠ [] := by simpa [ScannedInvoice.isKeyed] using hkeyed
  refine ⟨_, _, plan_eq_write_iff.mpr
    ⟨.ocr i, location, _, .ocr i.id, rfl, hl, by rw [transcribe, ht], ?_, ?_, rfl, rfl⟩⟩
  · simpa [ScannedInvoice.sourceLines, hkeyed] using hlines
  · rw [if_pos hkeyed]
    exact (Link.resolve_pointers .manual (.ocr i.id) _).mpr ⟨rfl, hid, rfl⟩

/-- What is written for an invoice is written under the link to it. -/
theorem link_of_plan {i : LegacyInvoice} {d : HeaderDraft} {lines : List Line}
    (h : plan (some i) = .ok (.write d lines)) : d.link = i.link := by
  obtain ⟨_, location, t, link, ⟨⟩, -, ht, -, hr, rfl, -⟩ := plan_eq_write_iff.mp h
  have hof := transcribe_ofLink ht
  rw [hof.ocrPointer, hof.xeroPointer, Link.resolve_pointers] at hr
  exact hr.1

/-- An invoice at a location with lines to transcribe is not left out. -/
theorem plan_ne_skip {i : LegacyInvoice} {location : String} (hl : i.location = some location)
    (hlines : i.hasLines = true) (why : Skip) : plan (some i) ≠ .ok (.skip why) := by
  rcases ht : transcribe i with e | t
  · simp [plan, hl, ht]
  have hne : t.lines.isEmpty = false := by
    simpa using lines_ne_nil_of_hasLines ht hlines
  rcases hr : Link.resolve t.origin t.ocrPointer t.xeroPointer with e | link <;>
    simp [plan, hl, ht, hne, hr]

end Backfill

end Reconcile
