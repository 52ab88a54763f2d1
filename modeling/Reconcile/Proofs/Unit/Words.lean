import Mathlib
import Reconcile.Proofs.Text.Pattern
import Reconcile.Unit.Measure

/-! # Unit words

    A unit word may be written in any case, and case is folded as it is for all of Unicode: the
    Kelvin sign counts as a `k`, and the long s as an `s`.  The table of synonyms is asked in
    upper case of ASCII only, to which these two are foreign.  So every unit word is a known
    spelling, except where one of the two is in it.

    Main statements: `reads_unitWordOf`, `ofSpelling?_of_ascii` and
    `ofSpelling?_eq_none_of_foreign`. -/

namespace Reconcile.Measure

open Reconcile.Text

/-! ## Section 1: Letters -/

/-- A letter without its case: simple case folding, as far as it leads to small letters of
    ASCII. -/
def folded (c : Char) : Char :=
  if c = '\u212A' then 'k' else if c = '\u017F' then 's' else c.toLower

/-- The two letters outside ASCII that are forms of letters of ASCII. -/
def IsForeign (c : Char) : Prop := c = '\u212A' ∨ c = '\u017F'

instance (c : Char) : Decidable (IsForeign c) := inferInstanceAs (Decidable (_ ∨ _))

theorem folded_of_not_foreign {c : Char} (h : ¬ IsForeign c) : folded c = c.toLower := by
  rw [IsForeign, not_or] at h
  rw [folded, if_neg h.1, if_neg h.2]

theorem toLower_eq_iff {letter c : Char} (h : letter.isLower = true) :
    c.toLower = letter ↔ c = letter ∨ c = letter.toUpper := by
  constructor
  · rintro rfl
    by_cases hc : c.isUpper = true
    · -- a capital is the capital of its small letter
      rw [Char.toUpper_toLower_eq_toUpper]
      exact .inr (Char.toUpper_eq_of_not_isLower (Char.not_isLower_of_isUpper hc)).symm
    · exact .inl (Char.toLower_eq_of_not_isUpper hc).symm
  · have hsmall : letter.toLower = letter :=
      Char.toLower_eq_of_not_isUpper (Char.not_isUpper_of_isLower h)
    rintro (rfl | rfl)
    · exact hsmall
    · rw [Char.toLower_toUpper_eq_toLower, hsmall]

/-- What a small letter of a unit word stands for is what is folded to it. -/
theorem sameLetter_iff {letter c : Char} (h : letter.isLower = true) :
    sameLetter letter c = true ↔ folded c = letter := by
  have hsame : sameLetter letter c = true ↔ (c = letter ∨ c = letter.toUpper) ∨
      (letter = 'k' ∧ c = '\u212A') ∨ (letter = 's' ∧ c = '\u017F') := by
    simp [sameLetter, or_assoc]
  rw [hsame, ← toLower_eq_iff h]
  by_cases hc : IsForeign c
  · have hother : c.toLower ≠ letter := by
      rintro rfl
      rcases hc with rfl | rfl <;> exact absurd h (by decide)
    rw [iff_false_intro hother, false_or]
    rcases hc with rfl | rfl <;> simp [folded, eq_comm]
  · rw [folded_of_not_foreign hc]
    rw [IsForeign, not_or] at hc
    simp [hc]

/-- What is folded to a small letter is a word character that belongs neither to a number nor to
    the white space behind it. -/
theorem isWordChar_of_folded {c : Char} (h : (folded c).isLower = true) :
    isWordChar c = true ∧ isDigit c = false ∧ isPoint c = false ∧ isBlank c = false := by
  have hletters : ((List.range' 65 26 ++ List.range' 97 26 ++ [0x212A, 0x17F]).all fun n =>
      isWordChar (Char.ofNat n) && !isDigit (Char.ofNat n) && !isPoint (Char.ofNat n) &&
        !isBlank (Char.ofNat n)) = true := by
    decide +kernel
  have hmem : c.toNat ∈ List.range' 65 26 ++ List.range' 97 26 ++ [0x212A, 0x17F] := by
    by_cases hc : IsForeign c
    · rcases hc with rfl | rfl <;> decide
    · rw [folded_of_not_foreign hc, Char.isLower_toLower_eq_isAlpha] at h
      simp only [Char.isAlpha, Char.isUpper, Char.isLower, UInt32.le_iff_toNat_le] at h
      simp only [List.mem_append, List.mem_range'_1]
      simp at h
      omega
  have hc := List.all_eq_true.mp hletters _ hmem
  rw [Char.ofNat_toNat] at hc
  simpa [and_assoc] using hc

/-! ## Section 2: Unit words -/

/-- The word is one of some words, in any case. -/
def IsUnitWord (words : List String) (w : List Char) : Prop :=
  ∃ u ∈ words, w.map folded = u.toList

theorem isLower_of_mem_unitWords {u : String} (hu : u ∈ unitWords) {letter : Char}
    (h : letter ∈ u.toList) : letter.isLower = true := by
  have hall : (unitWords.all fun u => u.toList.all Char.isLower) = true := by decide +kernel
  exact List.all_eq_true.mp (List.all_eq_true.mp hall u hu) letter h

/-- The pattern for some unit words, tried in their order. -/
def unitWordOf (words : List String) : Pattern :=
  .anyOf (words.map fun w => .spelled sameLetter w.toList)

theorem forall₂_sameLetter_iff {u w : List Char} (hu : ∀ letter ∈ u, letter.isLower = true) :
    List.Forall₂ (fun c d => sameLetter c d = true) u w ↔ w.map folded = u := by
  induction u generalizing w with
  | nil => simp
  | cons letter u ih =>
    rw [List.forall_mem_cons] at hu
    rcases w with _ | ⟨c, w⟩
    · simp
    · simp [sameLetter_iff hu.1, ih hu.2]

/-- The order in which unit words are tried does not matter for what can be read. -/
theorem reads_unitWordOf {words : List String} (h : ∀ u, u ∈ words ↔ u ∈ unitWords) :
    (unitWordOf words).Reads (IsUnitWord unitWords) := by
  refine (Pattern.reads_anyOf fun u : String =>
    Pattern.reads_spelled sameLetter u.toList).congr fun w => ?_
  simp only [h]
  exact exists_congr fun u => and_congr_right fun hu =>
    forall₂_sameLetter_iff fun _ => isLower_of_mem_unitWords hu

theorem IsUnitWord.folded_isLower {w : List Char} (h : IsUnitWord unitWords w) {c : Char}
    (hc : c ∈ w) : (folded c).isLower = true := by
  obtain ⟨u, hu, hw⟩ := h
  apply isLower_of_mem_unitWords hu
  rw [← hw]
  exact List.mem_map_of_mem hc

theorem IsUnitWord.ne_nil {w : List Char} (h : IsUnitWord unitWords w) : w ≠ [] := by
  have hall : (unitWords.all fun u => !u.toList.isEmpty) = true := by decide +kernel
  obtain ⟨u, hu, hw⟩ := h
  rintro rfl
  have := List.all_eq_true.mp hall u hu
  simp [← hw] at this

/-! ## Section 3: The table of synonyms -/

theorem toUpper_folded {c : Char} (h : ¬ IsForeign c) : (folded c).toUpper = c.toUpper := by
  rw [folded_of_not_foreign h, Char.toUpper_toLower_eq_toUpper]

/-- A unit word in letters of ASCII is a known spelling of a label whose dimension is known. -/
theorem ofSpelling?_of_ascii {w : List Char} (h : IsUnitWord unitWords w)
    (hw : ∀ c ∈ w, ¬ IsForeign c) :
    ∃ label, UnitLabel.ofSpelling? (asciiUpper (String.ofList w)) = some label ∧
      UnitLabel.dimension label ≠ .unknown := by
  have htable : (unitWords.all fun u => (UnitLabel.ofSpelling? (asciiUpper u)).any fun label =>
      UnitLabel.dimension label != .unknown) = true := by
    decide +kernel
  obtain ⟨u, hu, hfolded⟩ := h
  have hupper : asciiUpper (String.ofList w) = asciiUpper u := by
    apply String.toList_injective
    rw [asciiUpper, asciiUpper, String.toList_map, String.toList_map, String.toList_ofList,
      ← hfolded, List.map_map]
    exact List.map_congr_left fun c hc => (toUpper_folded (hw c hc)).symm
  rw [hupper]
  simpa [Option.any_eq_true] using List.all_eq_true.mp htable u hu

/-- No spelling of the table has a letter outside ASCII. -/
theorem ofSpelling?_eq_none_of_foreign {w : List Char} {c : Char} (hc : c ∈ w)
    (h : IsForeign c) : UnitLabel.ofSpelling? (asciiUpper (String.ofList w)) = none := by
  have htable : (UnitLabel.synonyms.all fun e => e.1.toList.all fun c => !IsForeign c) = true := by
    decide +kernel
  have hupper : c.toUpper = c := by
    rcases h with rfl | rfl <;> decide
  have hmem : c ∈ (asciiUpper (String.ofList w)).toList := by
    rw [asciiUpper, String.toList_map, String.toList_ofList, ← hupper]
    exact List.mem_map_of_mem hc
  rw [UnitLabel.ofSpelling?, List.lookup_eq_none_iff]
  intro e he
  rw [bne_iff_ne]
  intro heq
  have hplain := List.all_eq_true.mp (List.all_eq_true.mp htable e he) c (heq ▸ hmem)
  simp [h] at hplain

end Reconcile.Measure
