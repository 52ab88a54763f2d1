import Reconcile.Proofs.Database.Codec
import Reconcile.Proofs.Database.RunLog

/-! # Pointers and links

    A record has two optional pointers, and stands for a link if one of them names a legacy
    invoice, the other one does not, and the feed of the one is that of the origin.  The guard
    that resolves pointers is passed by what is written as well as by what is read back: no
    header is made from a row with two pointers, with none, or with the wrong one.

    Main statement: `pointers_exact`. -/

namespace Reconcile

/-! ## Section 1: The guard -/

namespace Link

/-- The pointer is there and holds more than white space. -/
def IsGiven (pointer : Option String) : Prop :=
  ∃ id, pointer = some id ∧ Text.isBlankText id = false

/-- Of the two pointers of a record the one into a feed. -/
def pointerInto (ocrPointer xeroPointer : Option String) : Feed → Option String
  | .ocr => ocrPointer
  | .xero => xeroPointer

theorem present_eq_some_iff {pointer : Option String} {id : String} :
    present pointer = some id ↔ pointer = some id ∧ Text.isBlankText id = false := by
  rw [present, Option.filter_eq_some_iff, Bool.not_eq_true']

theorem present_eq_none_iff {pointer : Option String} :
    present pointer = none ↔ ¬ IsGiven pointer := by
  rw [Option.eq_none_iff_forall_ne_some, IsGiven, not_exists]
  exact forall_congr' fun id => not_congr present_eq_some_iff

theorem isGiven_of_present {pointer : Option String} {id : String}
    (h : present pointer = some id) : IsGiven pointer := ⟨id, present_eq_some_iff.mp h⟩

/-- Of the pointers into the feeds the only one that is given is that into the feed of the
    origin, and it holds the identifier of the link. -/
structure PointedAt (link : Link) (origin : Origin) (pointers : Feed → Option String) : Prop where
  feed_eq : link.feed = origin.feed
  pointer_eq : pointers origin.feed = some link.id
  given_iff : ∀ feed, IsGiven (pointers feed) ↔ feed = origin.feed

section Resolve

variable {origin : Origin} {link : Link}

/-- A link is made of the one pointer that is present if the origin uses its feed. -/
theorem ofPointer_eq_ok_iff {pointers : Feed → Option String} {used : Feed} {id : String}
    (hused : present (pointers used) = some id)
    (hother : ∀ feed, feed ≠ used → present (pointers feed) = none) :
    ofPointer origin used id = .ok link ↔ link.PointedAt origin pointers := by
  obtain ⟨hid, -⟩ := present_eq_some_iff.mp hused
  unfold ofPointer
  constructor
  · intro h
    split at h
    · next horigin =>
      obtain rfl : ofFeed used id = link := by simpa using h
      refine ⟨by rw [feed_ofFeed, horigin], by rw [horigin, id_ofFeed, hid], ?_⟩
      intro feed
      rw [horigin]
      constructor
      · intro hgiven
        by_contra hne
        exact present_eq_none_iff.mp (hother feed hne) hgiven
      · rintro rfl
        exact isGiven_of_present hused
    · cases h
  · intro h
    have horigin : used = origin.feed := (h.given_iff used).mp (isGiven_of_present hused)
    have hlink : id = link.id := by
      have hpointer := h.pointer_eq
      rw [← horigin, hid] at hpointer
      exact Option.some.inj hpointer
    rw [if_pos horigin.symm, hlink, horigin, ← h.feed_eq, ofFeed_feed_id]

theorem resolve_eq_ok_iff {ocr xero : Option String} :
    resolve origin ocr xero = .ok link ↔ link.PointedAt origin (pointerInto ocr xero) := by
  unfold resolve
  rcases hocr : present ocr with _ | a <;> rcases hxero : present xero with _ | b
  · -- neither is present, so that the one the origin uses is not given
    have hnone : ∀ feed, present (pointerInto ocr xero feed) = none := by
      intro feed
      cases feed with
      | ocr => exact hocr
      | xero => exact hxero
    refine iff_of_false (fun h => by cases h) fun h => ?_
    exact present_eq_none_iff.mp (hnone origin.feed) ((h.given_iff origin.feed).mpr rfl)
  · have hused : present (pointerInto ocr xero .xero) = some b := hxero
    apply ofPointer_eq_ok_iff hused
    intro feed hne
    cases feed with
    | ocr => exact hocr
    | xero => exact absurd rfl hne
  · have hused : present (pointerInto ocr xero .ocr) = some a := hocr
    apply ofPointer_eq_ok_iff hused
    intro feed hne
    cases feed with
    | ocr => exact absurd rfl hne
    | xero => exact hxero
  · -- both are present, and the origin uses one feed only
    refine iff_of_false (fun h => by cases h) fun h => ?_
    have hone := (h.given_iff .ocr).mp (isGiven_of_present hocr)
    have htwo := (h.given_iff .xero).mp (isGiven_of_present hxero)
    cases hone.trans htwo.symm

theorem exists_resolve_eq_ok_iff {ocr xero : Option String} :
    (∃ m, resolve origin ocr xero = .ok m) ↔
      ∀ feed, IsGiven (pointerInto ocr xero feed) ↔ feed = origin.feed := by
  constructor
  · rintro ⟨m, h⟩
    exact (resolve_eq_ok_iff.mp h).given_iff
  · intro h
    obtain ⟨id, hid, -⟩ := (h origin.feed).mpr rfl
    refine ⟨ofFeed origin.feed id, resolve_eq_ok_iff.mpr ⟨feed_ofFeed _ _, ?_, h⟩⟩
    rw [hid, id_ofFeed]

/-- A pointer with nothing but white space in it is as good as none. -/
theorem resolve_of_blank {blank : String} (h : Text.isBlankText blank = true)
    (origin : Origin) (ocr xero : Option String) :
    resolve origin (some blank) xero = resolve origin none xero ∧
      resolve origin ocr (some blank) = resolve origin ocr none := by
  have hblank : present (some blank) = present none := by simp [present, h]
  unfold resolve
  rw [hblank]
  exact ⟨rfl, rfl⟩

end Resolve

end Link

namespace Database

/-! ## Section 2: Rows -/

/-- The pointers in a row. -/
def Row.pointers (r : Row) (feed : Feed) : Option String := (r.value feed.pointerColumn).asText?

/-- The header in a row is linked to the legacy invoice that the row points at. -/
theorem pointedAt_of_readHeader {r : Row} {h : Header} (hread : readHeader r = .ok h) :
    h.link.PointedAt h.origin r.pointers := by
  obtain ⟨row, hrow, hheader⟩ := bind_eq_ok_iff.mp hread
  obtain ⟨-, -, -, -, -, -, hocr, hxero, -, -, -⟩ := HeaderRow.ofRow_eq_ok_iff.mp hrow
  obtain ⟨origin, link, -, hresolve, rfl⟩ := HeaderRow.toHeader_eq_ok_iff.mp hheader
  have hpointers : Link.pointerInto row.ocrPointer row.xeroPointer = r.pointers := by
    funext feed
    cases feed with
    | ocr => exact hocr.symm
    | xero => exact hxero.symm
  rw [← hpointers]
  exact Link.resolve_eq_ok_iff.mp hresolve

/-- The header that an upsert gives is the one in the first row of its answer. -/
theorem storedHeader_eq_ok_iff {answer : Except String (List Row)} {h : Header} :
    storedHeader answer = .ok h ↔
      ∃ row rows, answer = .ok (row :: rows) ∧ readHeader row = .ok h := by
  rcases answer with m | (_ | ⟨row, rows⟩)
  · simp [storedHeader]
  · simp [storedHeader]
  · have hrow : storedHeader (.ok (row :: rows)) = readHeader row := by
      simp only [storedHeader, readHeader]
      rcases HeaderRow.ofRow row with e | r <;> rfl
    rw [hrow]
    simp

/-- Two pointers are resolved if and only if one of them is given and not the other one, and it
    is the one that the origin uses; the link then has its text.  It makes no difference whether
    a pointer is blank or absent.  A link that names an invoice is what its own pointers resolve
    to.  So a row that a header can be read from has one pointer, into the feed of its origin,
    and a header that the database gives comes from such a row. -/
theorem pointers_exact :
    (∀ (origin : Origin) (ocr xero : Option String),
      ((∃ link, Link.resolve origin ocr xero = .ok link) ↔
        ∀ feed, Link.IsGiven (Link.pointerInto ocr xero feed) ↔ feed = origin.feed) ∧
      (∀ link, Link.resolve origin ocr xero = .ok link ↔
        link.PointedAt origin (Link.pointerInto ocr xero)) ∧
      ∀ blank, Text.isBlankText blank = true →
        Link.resolve origin (some blank) xero = Link.resolve origin none xero ∧
          Link.resolve origin ocr (some blank) = Link.resolve origin ocr none) ∧
    (∀ (origin : Origin) (link : Link), Text.isBlankText link.id = false →
      link.feed = origin.feed →
        Link.resolve origin link.ocrPointer link.xeroPointer = .ok link) ∧
    (∀ (r : Row) (h : Header), readHeader r = .ok h → h.link.PointedAt h.origin r.pointers) ∧
    ∀ {σ : Type} (connection : Connection σ) (d : HeaderDraft) (s : σ) (h : Header),
      ((upsertHeader d).exec connection s).1 = .ok h →
        ∃ row rows, (connection (.query (.upsertHeader d)) s).1 = .ok (row :: rows) ∧
          readHeader row = .ok h := by
  refine ⟨?_, ?_, ?_, ?_⟩
  · intro origin ocr xero
    refine ⟨Link.exists_resolve_eq_ok_iff, fun _ => Link.resolve_eq_ok_iff, ?_⟩
    intro blank hblank
    exact Link.resolve_of_blank hblank origin ocr xero
  · intro origin link hid hfeed
    exact (Link.resolve_pointers origin link link).mpr ⟨rfl, hid, hfeed.symm⟩
  · intro r h hread
    exact pointedAt_of_readHeader hread
  · intro σ connection d s h hupsert
    rw [exec_upsertHeader] at hupsert
    exact storedHeader_eq_ok_iff.mp hupsert

/-- The row of a header with keyed lines, written by someone who leaves blanks. -/
def blankedRow : HeaderRow :=
  ⟨⟨0, 1⟩, "org", "loc", none, "Manual ", some "inv-1", some " \t", "ocr:inv-1", none, none, none⟩

/-- A header is read from a row with a blank pointer, and one comes back from an upsert. -/
theorem pointers_exact_blanked :
    let r : Row := .ofValues HeaderRow.columns blankedRow.values
    (Text.isBlankText " \t" = true ∧
      Link.resolve .manual (some "inv-1") (some " \t") =
        Link.resolve .manual (some "inv-1") none) ∧
    (Text.isBlankText "inv-1" = false ∧
      Link.resolve .manual (some "inv-1") none = .ok (.ocr "inv-1")) ∧
    (∃ h, readHeader r = .ok h ∧ h.link.PointedAt h.origin r.pointers) ∧
    ∃ h row rows, ((upsertHeader oneLineDraft).exec oneLineConnection 3).1 = .ok h ∧
      (oneLineConnection (.query (.upsertHeader oneLineDraft)) 3).1 = .ok (row :: rows) ∧
      readHeader row = .ok h := by
  intro r
  obtain ⟨hresolve, hown, hrow, hanswer⟩ := pointers_exact
  obtain ⟨-, -, hblanks⟩ := hresolve .manual (some "inv-1") none
  have hblank : Text.isBlankText " \t" = true := by decide +kernel
  have hid : Text.isBlankText "inv-1" = false := by decide +kernel
  have hsame := (hblanks " \t" hblank).2
  have hlink : Link.resolve .manual (some "inv-1") none = .ok (.ocr "inv-1") :=
    hown .manual (.ocr "inv-1") hid rfl
  have horigin : (Coded.read "Manual " : Except UnknownCode Origin) = .ok .manual := by
    rw [Coded.read, Text.asciiUpper_eq]
    rfl
  obtain ⟨h, hread⟩ : ∃ h, readHeader r = .ok h := by
    unfold readHeader
    rw [HeaderRow.ofRow_ofValues]
    exact ⟨_, HeaderRow.toHeader_eq_ok_iff.mpr ⟨_, _, horigin, hsame.trans hlink, rfl⟩⟩
  have hupsert : ((upsertHeader oneLineDraft).exec oneLineConnection 3).1 =
      .ok (oneLineDraft.toHeader oneLineDraft.link.headerId) := by
    rw [exec_upsertHeader]
    exact storedHeader_oneLine
  obtain ⟨row, rows, hgiven, hstored⟩ := hanswer oneLineConnection oneLineDraft 3 _ hupsert
  exact ⟨⟨hblank, hsame⟩, ⟨hid, hlink⟩, ⟨h, hread, hrow r h hread⟩,
    ⟨_, row, rows, hupsert, hgiven, hstored⟩⟩

end Database

end Reconcile
