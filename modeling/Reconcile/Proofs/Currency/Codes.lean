import Mathlib
import Reconcile.Proofs.Invoice.Sources

/-! # Texts that pass for currency codes

    A written currency is put into upper case before anybody asks whether it is a code, and upper
    case is that of all of Unicode.  Besides the letters of ASCII there are ten characters that
    become such letters, some of them two or three at once: the sharp s, the dotless i, the long
    s, and the ligatures of f and of st.  So what passes are the texts that stand for three
    capitals in this way, and only without the ten these are the texts of three letters.

    Main statement: `isValid_normalize?_iff`; `ligature_passes` is a text of two characters that
    is taken for a code. -/

namespace Reconcile.Currency

open Text

/-! ## Section 1: Characters that stand for capitals -/

/-- The characters outside of ASCII that become letters of ASCII in upper case, and what they
    become. -/
def letterForms : List (Char × List Char) :=
  [('ß', ['S', 'S']), ('ı', ['I']), ('ſ', ['S']), ('ﬀ', ['F', 'F']), ('ﬁ', ['F', 'I']),
    ('ﬂ', ['F', 'L']), ('ﬃ', ['F', 'F', 'I']), ('ﬄ', ['F', 'F', 'L']), ('ﬅ', ['S', 'T']),
    ('ﬆ', ['S', 'T'])]

/-- The capitals of ASCII that a character stands for: a letter of ASCII for its capital. -/
def capitals? (c : Char) : Option (List Char) :=
  if c.isAlpha then some [c.toUpper] else letterForms.lookup c

theorem isCapital_iff {c : Char} : isCapital c = true ↔ 65 ≤ c.toNat ∧ c.toNat ≤ 90 := by
  simp only [isCapital, Char.le_def, UInt32.le_iff_toNat_le, Bool.and_eq_true, decide_eq_true_eq]
  exact Iff.rfl

/-- A letter of ASCII is one of the first 128 characters. -/
theorem toNat_lt_of_isAlpha {c : Char} (h : c.isAlpha = true) : c.toNat < 128 := by
  simp only [Char.isAlpha, Char.isUpper, Char.isLower, UInt32.le_iff_toNat_le] at h
  simp at h
  omega

theorem upperChar_of_isAlpha {c : Char} (h : c.isAlpha = true) :
    upperChar c = [c.toUpper] ∧ isCapital c.toUpper = true := by
  have hascii : ∀ n ∈ List.range 128, (Char.ofNat n).isAlpha = true →
      upperChar (Char.ofNat n) = [(Char.ofNat n).toUpper] ∧
        isCapital (Char.ofNat n).toUpper = true := by
    decide +kernel
  have hchar := hascii c.toNat (List.mem_range.mpr (toNat_lt_of_isAlpha h))
  rw [Char.ofNat_toNat] at hchar
  exact hchar h

theorem upperChar_of_letterForms :
    ∀ e ∈ letterForms, upperChar e.1 = e.2 ∧ e.2.all isCapital = true := by
  decide +kernel

/-- The characters that a span moves to capitals, and those that become several capitals, are
    among the ones above. -/
theorem capitals?_of_tables :
    (∀ span ∈ Case.upperSpans, ∀ n ∈ span.members,
        isCapital (Char.ofNat (span.apply n)) = true →
          capitals? (Char.ofNat n) = some [Char.ofNat (span.apply n)]) ∧
      ∀ e ∈ Case.upperExpansions, (e.2.map Char.ofNat).all isCapital = true →
        capitals? (Char.ofNat e.1) = some (e.2.map Char.ofNat) := by
  decide +kernel

/-- A capital stands for itself. -/
theorem capitals?_of_isCapital {c : Char} (h : isCapital c = true) : capitals? c = some [c] := by
  have hall : ∀ n ∈ List.range' 65 26, capitals? (Char.ofNat n) = some [Char.ofNat n] := by
    decide +kernel
  have hcode := isCapital_iff.mp h
  have hchar := hall c.toNat (List.mem_range'_1.mpr (by omega))
  rwa [Char.ofNat_toNat] at hchar

/-- A character stands for some capitals if they are its upper case. -/
theorem capitals?_eq_some_iff {c : Char} {ds : List Char} :
    capitals? c = some ds ↔ upperChar c = ds ∧ ∀ d ∈ ds, isCapital d = true := by
  constructor
  · intro h
    rw [capitals?] at h
    split at h
    · rename_i halpha
      obtain ⟨hupper, hcapital⟩ := upperChar_of_isAlpha halpha
      obtain rfl := Option.some.inj h
      exact ⟨hupper, by simpa using hcapital⟩
    · obtain ⟨before, after, hsplit, -⟩ := List.lookup_eq_some_iff.mp h
      obtain ⟨hupper, hcapital⟩ := upperChar_of_letterForms (c, ds) (by simp [hsplit])
      exact ⟨hupper, List.all_eq_true.mp hcapital⟩
  · rintro ⟨rfl, hcapital⟩
    rcases upperChar_sources c with hsame | ⟨span, hspan, hmem, hupper⟩ | ⟨e, he, hcode, hupper⟩
    · rw [hsame] at hcapital ⊢
      exact capitals?_of_isCapital (hcapital c (List.mem_singleton.mpr rfl))
    · rw [hupper] at hcapital ⊢
      have hspans := capitals?_of_tables.1 span hspan c.toNat hmem
        (hcapital _ (List.mem_singleton.mpr rfl))
      rwa [Char.ofNat_toNat] at hspans
    · rw [hupper] at hcapital ⊢
      have hmany := capitals?_of_tables.2 e he (List.all_eq_true.mpr hcapital)
      rwa [← hcode, Char.ofNat_toNat] at hmany

/-! ## Section 2: Texts that stand for capitals -/

/-- The capitals that a text stands for, if all of its characters stand for some. -/
def spelled? : List Char → Option (List Char)
  | [] => some []
  | c :: s =>
    match capitals? c, spelled? s with
    | some ds, some rest => some (ds ++ rest)
    | _, _ => none

/-- A text stands for some capitals if they are its upper case. -/
theorem spelled?_eq_some_iff {s ds : List Char} :
    spelled? s = some ds ↔ upper s = ds ∧ ∀ d ∈ ds, isCapital d = true := by
  induction s generalizing ds with
  | nil =>
    simp only [spelled?, upper, List.flatMap_nil, Option.some.injEq]
    constructor
    · rintro rfl
      simp
    · exact fun h => h.1
  | cons c s ih =>
    rw [upper_cons]
    constructor
    · intro h
      rcases hc : capitals? c with _ | first
      · simp [spelled?, hc] at h
      · rcases hs : spelled? s with _ | rest
        · simp [spelled?, hc, hs] at h
        · obtain rfl : first ++ rest = ds := by simpa [spelled?, hc, hs] using h
          obtain ⟨hupper, hfirst⟩ := capitals?_eq_some_iff.mp hc
          obtain ⟨hrest, hall⟩ := ih.mp hs
          exact ⟨by rw [hupper, hrest], List.forall_mem_append.mpr ⟨hfirst, hall⟩⟩
    · rintro ⟨rfl, hall⟩
      obtain ⟨hfirst, hrest⟩ := List.forall_mem_append.mp hall
      simp only [spelled?, capitals?_eq_some_iff.mpr ⟨rfl, hfirst⟩, ih.mpr ⟨rfl, hrest⟩]

/-- Without the ten characters, a text stands for capitals if it consists of letters of ASCII. -/
theorem spelled?_of_no_letterForms {s : List Char} (h : ∀ c ∈ s, letterForms.lookup c = none) :
    spelled? s = if s.all Char.isAlpha then some (s.map Char.toUpper) else none := by
  induction s with
  | nil => rfl
  | cons c s ih =>
    rw [List.forall_mem_cons] at h
    rw [spelled?, ih h.2, capitals?, h.1, List.all_cons, List.map_cons]
    by_cases hc : c.isAlpha = true
    · by_cases hs : s.all Char.isAlpha = true <;> simp [hc, hs]
    · simp [hc]

/-! ## Section 3: Codes -/

/-- The written text stands for this code of three capitals, up to white space around it. -/
def Spells (raw code : String) : Prop :=
  ∃ capitals, spelled? (trim raw.toList) = some capitals ∧ capitals.length = 3 ∧
    code = String.ofList capitals

theorem isValid_ofList {ds : List Char} :
    isValid (String.ofList ds) = true ↔ ds.length = 3 ∧ ∀ d ∈ ds, isCapital d = true := by
  simp [isValid]

theorem valid_iff_spells {raw code : String} :
    normalize? (some raw) = some code ∧ isValid code = true ↔ Spells raw code := by
  rw [normalize?_some]
  constructor
  · rintro ⟨hcode, hvalid⟩
    split at hcode
    · cases hcode
    · obtain rfl := Option.some.inj hcode
      rw [isValid_ofList] at hvalid
      exact ⟨_, spelled?_eq_some_iff.mpr ⟨rfl, hvalid.2⟩, hvalid.1, rfl⟩
  · rintro ⟨capitals, hspelled, hlength, rfl⟩
    obtain ⟨hupper, hcapital⟩ := spelled?_eq_some_iff.mp hspelled
    have hne : trim raw.toList ≠ [] := by
      intro hnil
      rw [hnil] at hupper
      subst hupper
      cases hlength
    rw [if_neg hne, hupper]
    exact ⟨rfl, isValid_ofList.mpr ⟨hlength, hcapital⟩⟩

/-- Up to white space around it, the written text is three letters of ASCII. -/
def IsThreeLetters (raw : String) : Prop :=
  (trim raw.toList).length = 3 ∧ (trim raw.toList).all Char.isAlpha = true

instance (raw : String) : Decidable (IsThreeLetters raw) := inferInstanceAs (Decidable (_ ∧ _))

/-- Without the ten characters, three letters are needed, and the code is their upper case. -/
theorem spells_iff_of_no_letterForms {raw : String}
    (h : ∀ c ∈ raw.toList, letterForms.lookup c = none) (code : String) :
    Spells raw code ↔ IsThreeLetters raw ∧ code = asciiUpper (trimmed raw) := by
  have htrim : ∀ c ∈ trim raw.toList, letterForms.lookup c = none := by
    obtain ⟨before, after, hraw, -, -⟩ := exists_eq_append_trim raw.toList
    intro c hc
    refine h c ?_
    rw [hraw]
    exact List.mem_append_right _ (List.mem_append_left _ hc)
  unfold Spells IsThreeLetters
  rw [spelled?_of_no_letterForms htrim, asciiUpper_eq, trimmed, String.toList_ofList]
  rcases (trim raw.toList).all Char.isAlpha with _ | _ <;> simp

/-! ## Section 4: Lines -/

/-- What is written for the currency of a line and stands for no code is flagged, unless it is
    nothing but white space. -/
theorem fires_invalidCurrencyCode_iff {w : WrittenLine} {raw : String}
    (h : w.currency = some raw) : Flag.fires w.facts .invalidCurrencyCode = true ↔
      isBlankText raw = false ∧ ¬ ∃ code, Spells raw code := by
  have hfires : Flag.fires w.facts .invalidCurrencyCode =
      (normalize? (some raw)).any (!isValid ·) := by
    rw [← h]
    rfl
  have hblank : normalize? (some raw) = none ↔ isBlankText raw = true := by
    rw [normalize?_eq_none_iff]
    simp [IsMissing]
  rw [hfires]
  rcases hcode : normalize? (some raw) with _ | code
  · simp [hblank.mp hcode]
  · have hwritten : isBlankText raw = false := by
      rw [Bool.eq_false_iff, Ne, ← hblank, hcode]
      exact Option.some_ne_none code
    have hspells : (∃ code, Spells raw code) ↔ isValid code = true := by
      simp [← valid_iff_spells, hcode]
    simp [hwritten, hspells]

/-- A written text is taken for a valid code if it stands for three capitals, which are then the
    code; that is, if it is three letters of ASCII, unless it has one of the ten characters that
    upper case makes letters of.  A line is told that its currency is invalid for any other text
    but white space. -/
theorem isValid_normalize?_iff (raw : String) :
    (∀ code, normalize? (some raw) = some code ∧ isValid code = true ↔ Spells raw code) ∧
    ((∀ c ∈ raw.toList, letterForms.lookup c = none) →
      ∀ code, Spells raw code ↔ IsThreeLetters raw ∧ code = asciiUpper (trimmed raw)) ∧
    ∀ w : WrittenLine, w.currency = some raw →
      (Coded.code Flag.invalidCurrencyCode ∈ w.resolve.reasons ↔
        (isBlankText raw = false ∧ ¬ ∃ code, Spells raw code) ∨
          Coded.code Flag.invalidCurrencyCode ∈ w.notes.warnings) := by
  refine ⟨fun code => valid_iff_spells, spells_iff_of_no_letterForms, fun w hw => ?_⟩
  have hreasons : w.resolve.reasons = w.facts.reasons := rfl
  rw [hreasons, LineFacts.code_mem_reasons_iff, fires_invalidCurrencyCode_iff hw]
  rfl

/-- A ligature and one letter pass for a code, on their own and on a line. -/
theorem ligature_passes :
    normalize? (some "ﬁm") = some "FIM" ∧ isValid "FIM" = true ∧ ¬ IsThreeLetters "ﬁm" ∧
      (WrittenLine.resolve ⟨"Ham 2kg", none, some ⟨1, 0⟩, none, some ⟨5, 0⟩, some "ﬁm", none, none,
        .clean⟩).reasons = [] := by
  decide +kernel

end Reconcile.Currency
