import Mathlib
import Reconcile.Proofs.Unit.Amount

/-! # The unit that a description tells

    A measure is an amount in front of which nothing goes on as a number.  A description without
    a pack tells the unit of the first measure in it, and it tells none if there is no measure;
    the order in which the unit words are tried does not matter.  The word is looked up as it
    stands there, and it is found unless the Kelvin sign or the long s is in it.

    Main statements: `label?_of_first_measure` and `label?_known_iff`. -/

namespace Reconcile.Measure

open Reconcile.Text

/-! ## Section 1: Measures -/

/-- A measure occurs at a position: a maximal run of digits that does not go on a number, with a
    fraction or without one, optional white space, and then a whole word which is a unit word. -/
def MeasureAt (s : List Char) (position : Nat) (w : List Char) : Prop :=
  ∃ before number gap rest, s = before ++ (number ++ (gap ++ (w ++ rest))) ∧
    before.length = position ∧ Leads before ∧ MaximalNumber number (gap ++ (w ++ rest)) ∧
    Gap gap ∧ Run isWordChar w rest ∧ IsUnitWord unitWords w

/-- The measure at this position is the first one of the text. -/
def FirstMeasure (s : List Char) (position : Nat) (w : List Char) : Prop :=
  MeasureAt s position w ∧ ∀ earlier < position, ∀ w', ¬ MeasureAt s earlier w'

theorem measureAt_iff {s w : List Char} {position : Nat} :
    MeasureAt s position w ↔
      ∃ before text, s = before ++ text ∧ before.length = position ∧ Leads before ∧
        Amount text w := by
  simp only [amount_iff_maximal]
  constructor
  · rintro ⟨before, number, gap, rest, hs, hlength, hleads, hparts⟩
    exact ⟨before, _, hs, hlength, hleads, number, gap, rest, rfl, hparts⟩
  · rintro ⟨before, _, hs, hlength, hleads, number, gap, rest, rfl, hparts⟩
    exact ⟨before, number, gap, rest, hs, hlength, hleads, hparts⟩

theorem MeasureAt.isUnitWord {s w : List Char} {position : Nat} (h : MeasureAt s position w) :
    IsUnitWord unitWords w := by
  obtain ⟨before, number, gap, rest, -, -, -, -, -, -, hword⟩ := h
  exact hword

/-- At a position there is one measure at most. -/
theorem MeasureAt.word_eq {s w w' : List Char} {position : Nat} (h : MeasureAt s position w)
    (h' : MeasureAt s position w') : w = w' := by
  obtain ⟨before, text, rfl, hlength, -, hamount⟩ := measureAt_iff.mp h
  obtain ⟨before', text', heq, hlength', -, hamount'⟩ := measureAt_iff.mp h'
  obtain ⟨-, rfl⟩ := List.append_inj heq (hlength.trans hlength'.symm)
  exact hamount.word_eq hamount'

/-- Where there is a measure there is a first one. -/
theorem MeasureAt.exists_first {s w : List Char} {position : Nat} (h : MeasureAt s position w) :
    ∃ first v, FirstMeasure s first v := by
  induction position using Nat.strongRecOn generalizing w with
  | ind position ih =>
    by_cases hearlier : ∃ earlier < position, ∃ v, MeasureAt s earlier v
    · obtain ⟨earlier, hlt, v, hv⟩ := hearlier
      exact ih earlier hlt hv
    · refine ⟨position, w, h, fun earlier hlt v hv => hearlier ⟨earlier, hlt, v, hv⟩⟩

/-- Measures at places are measures at positions. -/
theorem exists_place_iff {s w : List Char} {position : Nat} :
    (∃ q, Pattern.LedAt (fun c => !(isDigit c || isPoint c)) s q ∧
      q.before.length = position ∧ Amount q.after w) ↔ MeasureAt s position w := by
  simp only [measureAt_iff, ledAt_iff]
  constructor
  · rintro ⟨q, ⟨hs, hleads⟩, hlength, hamount⟩
    exact ⟨q.before.reverse, q.after, hs, by rw [List.length_reverse, hlength], hleads, hamount⟩
  · rintro ⟨before, text, hs, hlength, hleads, hamount⟩
    exact ⟨⟨before.reverse, text⟩, by simpa using ⟨hs, hleads⟩, by simpa using hlength, hamount⟩

/-! ## Section 2: Unit words in another order -/

/-- The unit word of the first measure, where the unit words are tried in this order. -/
def wordOf (words : List String) (s : List Char) : Option (List Char) :=
  Pattern.capture? upToUnit (unitWordOf words) .wordEdge s

/-- The unit label that a description tells, where the unit words are tried in this order. -/
def labelOf (words : List String) (description : String) : Option String :=
  if (packOf words).occursIn description.toList then none
  else (wordOf words description.toList).bind fun w =>
    UnitLabel.ofSpelling? (asciiUpper (String.ofList w))

theorem labelOf_unitWords (description : String) :
    labelOf unitWords description = label? description := rfl

theorem word?_eq_wordOf (s : List Char) : word? s = wordOf unitWords s := rfl

/-- The search finds the first measure, in whatever order the unit words are tried. -/
theorem wordOf_eq_some_iff {words : List String} (h : ∀ u, u ∈ words ↔ u ∈ unitWords)
    {s w : List Char} :
    wordOf words s = some w ↔ ∃ position, FirstMeasure s position w := by
  have hone : ∀ q v v',
      Pattern.CapturesAt (.andThen number gap) (unitWordOf words) .wordEdge q v →
      Pattern.CapturesAt (.andThen number gap) (unitWordOf words) .wordEdge q v' → v = v' := by
    intro q v v' hv hv'
    exact ((capturesAt_iff h).mp hv).word_eq ((capturesAt_iff h).mp hv')
  rw [wordOf, upToUnit, lead, Pattern.capture?_eq_some_iff hone]
  simp only [capturesAt_iff h, FirstMeasure]
  constructor
  · rintro ⟨q, hled, hamount, hfirst⟩
    refine ⟨q.before.length, exists_place_iff.mp ⟨q, hled, rfl, hamount⟩, ?_⟩
    intro earlier hlt w' hmeasure
    obtain ⟨q', hled', rfl, hamount'⟩ := exists_place_iff.mpr hmeasure
    exact hfirst q' hled' hlt w' hamount'
  · rintro ⟨position, hmeasure, hfirst⟩
    obtain ⟨q, hled, rfl, hamount⟩ := exists_place_iff.mpr hmeasure
    refine ⟨q, hled, hamount, fun q' hled' hlt w' hamount' => ?_⟩
    exact hfirst _ hlt w' (exists_place_iff.mp ⟨q', hled', rfl, hamount'⟩)

theorem word?_eq_some_iff {s w : List Char} :
    word? s = some w ↔ ∃ position, FirstMeasure s position w := by
  rw [word?_eq_wordOf]
  exact wordOf_eq_some_iff fun _ => Iff.rfl

theorem labelOf_eq {words : List String} (h : ∀ u, u ∈ words ↔ u ∈ unitWords)
    (description : String) : labelOf words description = label? description := by
  have hpack : (packOf words).occursIn description.toList =
      (packOf unitWords).occursIn description.toList := by
    rw [Bool.eq_iff_iff, occursIn_packOf_iff h, occursIn_packOf_iff fun _ => Iff.rfl]
  have hword : wordOf words description.toList = wordOf unitWords description.toList := by
    apply Option.ext
    intro w
    rw [wordOf_eq_some_iff h, wordOf_eq_some_iff fun _ => Iff.rfl]
  rw [← labelOf_unitWords, labelOf, labelOf, hpack, hword]

/-! ## Section 3: The first measure -/

theorem label?_eq_of_no_pack {description : String}
    (h : pack.occursIn description.toList = false) :
    label? description = (word? description.toList).bind fun w =>
      UnitLabel.ofSpelling? (asciiUpper (String.ofList w)) := by
  rw [label?, h]
  rfl

/-- A description without a pack tells the label that its first measure is known by.  The word of
    a measure is told by where the measure begins, and the order in which the unit words are
    tried does not matter. -/
theorem label?_of_first_measure {description : String}
    (h : pack.occursIn description.toList = false) :
    (∀ label, label? description = some label ↔
      ∃ position w, FirstMeasure description.toList position w ∧
        UnitLabel.ofSpelling? (asciiUpper (String.ofList w)) = some label) ∧
    (∀ position w w', MeasureAt description.toList position w →
      MeasureAt description.toList position w' → w = w') ∧
    ∀ words, (∀ u, u ∈ words ↔ u ∈ unitWords) →
      labelOf words description = label? description := by
  refine ⟨fun label => ?_, fun _ _ _ => MeasureAt.word_eq, fun words hwords =>
    labelOf_eq hwords description⟩
  rw [label?_eq_of_no_pack h, Option.bind_eq_some_iff]
  simp only [word?_eq_some_iff]
  constructor
  · rintro ⟨w, ⟨position, hfirst⟩, hlabel⟩
    exact ⟨position, w, hfirst, hlabel⟩
  · rintro ⟨position, w, hfirst, hlabel⟩
    exact ⟨w, ⟨position, hfirst⟩, hlabel⟩

/-- A number without a unit, a measure with a fraction and a second measure. -/
theorem label?_of_first_measure_oil :
    let description := "Oil 12 tins 2,5Ltr + 3kg"
    pack.occursIn description.toList = false ∧
      (∃ position w, FirstMeasure description.toList position w ∧
        UnitLabel.ofSpelling? (asciiUpper (String.ofList w)) = some "L") ∧
      labelOf unitWords.reverse description = some "L" := by
  intro description
  have hpack : pack.occursIn description.toList = false := by decide +kernel
  have hlabel : label? description = some "L" := by decide +kernel
  obtain ⟨hfirst, -, horder⟩ := label?_of_first_measure hpack
  exact ⟨hpack, (hfirst "L").mp hlabel,
    (horder unitWords.reverse fun _ => List.mem_reverse).trans hlabel⟩

/-! ## Section 4: Words that are not found -/

/-- Where a measure is found and no pack is, the description tells a label whose dimension is
    known if and only if all letters of the unit word are of ASCII; otherwise it tells none. -/
theorem label?_known_iff {description : String} {w : List Char}
    (hpack : pack.occursIn description.toList = false)
    (hword : word? description.toList = some w) :
    ((∃ label, label? description = some label ∧ UnitLabel.dimension label ≠ .unknown) ↔
      ∀ c ∈ w, ¬ IsForeign c) ∧
    ((∃ c ∈ w, IsForeign c) → label? description = none) := by
  have hlabel : label? description =
      UnitLabel.ofSpelling? (asciiUpper (String.ofList w)) := by
    rw [label?_eq_of_no_pack hpack, hword]
    rfl
  obtain ⟨position, hmeasure, -⟩ := word?_eq_some_iff.mp hword
  have hforeign : (∃ c ∈ w, IsForeign c) → label? description = none := by
    rintro ⟨c, hc, hforeign⟩
    rw [hlabel, ofSpelling?_eq_none_of_foreign hc hforeign]
  refine ⟨⟨?_, fun hw => hlabel ▸ ofSpelling?_of_ascii hmeasure.isUnitWord hw⟩,
    hforeign⟩
  rintro ⟨label, hsome, -⟩ c hc hc'
  rw [hforeign ⟨c, hc, hc'⟩] at hsome
  cases hsome

/-- Capitals and small letters of ASCII are all found. -/
theorem label?_known_mixedCase :
    let description := "Cream 500 mILLiLitreS"
    pack.occursIn description.toList = false ∧
      word? description.toList = some "mILLiLitreS".toList ∧
      ∃ label, label? description = some label ∧ UnitLabel.dimension label ≠ .unknown := by
  intro description
  have hpack : pack.occursIn description.toList = false := by decide +kernel
  have hword : word? description.toList = some "mILLiLitreS".toList := by decide +kernel
  exact ⟨hpack, hword, (label?_known_iff hpack hword).1.mpr (by simp [IsForeign])⟩

/-- The Kelvin sign is read as a letter of the unit word, and then the word is not found. -/
theorem kelvin_sign_not_found :
    let description := "Ham 2\u212Ag"
    pack.occursIn description.toList = false ∧
      word? description.toList = some ['\u212A', 'g'] ∧
      ¬ ∃ label, label? description = some label ∧ UnitLabel.dimension label ≠ .unknown := by
  intro description
  have hnone : label? description = none := by decide +kernel
  refine ⟨by decide +kernel, by decide +kernel, ?_⟩
  rintro ⟨label, hlabel, -⟩
  rw [hnone] at hlabel
  cases hlabel

end Reconcile.Measure
