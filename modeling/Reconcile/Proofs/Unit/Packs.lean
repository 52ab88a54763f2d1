import Mathlib
import Reconcile.Proofs.Text.Words
import Reconcile.Proofs.Unit.Reading
import Reconcile.Unit

/-! # Packs

    A pack gives the size of each of several pieces, so that a description with a pack in it is
    to tell no unit.  The search looks for a pack where nothing before its count goes on as a
    number, and there it finds every pack.  It takes every point for the point of a number,
    though: where the count follows a point or comma with no digit before it, as in
    `Water,24x600ml`, the pack is missed, and the measure of one piece is taken for the unit.

    Main statements: `label?_of_pack`; `pack_after_comma_tells_unit` is a pack that is missed. -/

namespace Reconcile.Measure

open Reconcile.Text

/-! ## Section 1: Descriptions with packs -/

/-- The text has a pack in front of which nothing goes on as a number. -/
def HasLedPack (s : List Char) : Prop := ∃ before text, s = before ++ text ∧ Leads before ∧ Pack text

theorem occursIn_pack_iff {s : List Char} : pack.occursIn s = true ↔ HasLedPack s :=
  occursIn_packOf_iff fun _ => Iff.rfl

/-- Nothing in front of the size of a piece goes on as a number. -/
theorem leads_of_times {times : Char} {before gap : List Char} (htimes : isTimes times = true)
    (hgap : Gap gap) : Leads (before ++ times :: gap) := by
  intro c hc
  rcases List.eq_nil_or_concat gap with rfl | ⟨start, d, rfl⟩
  · obtain rfl : times = c := by simpa using hc
    exact isDigit_of_isTimes htimes
  · have hlast : before ++ times :: start.concat d = (before ++ times :: start) ++ [d] := by simp
    rw [hlast, List.getLast?_concat] at hc
    obtain rfl : d = c := Option.some.inj hc
    exact isDigit_of_isBlank (hgap d (by simp [List.concat_eq_append]))

/-- The size of a piece is a measure, whatever stands before the pack. -/
theorem Pack.exists_measureAt {text : List Char} (h : Pack text) (before : List Char) :
    ∃ position w, MeasureAt (before ++ text) position w := by
  obtain ⟨count, gap, times, gap', size, rfl, -, -, htimes, hgap', w, hsize⟩ := h
  refine ⟨_, w, measureAt_iff.mpr ⟨(before ++ (count ++ gap)) ++ times :: gap', size, ?_, rfl,
    leads_of_times htimes hgap', hsize⟩⟩
  simp

/-! ## Section 2: Labels that are not given -/

theorem words_of_blank {s : List Char} (h : s.all isBlank = true) : words s = [] := by
  induction s with
  | nil => rfl
  | cons c s ih =>
    rw [List.all_cons, Bool.and_eq_true] at h
    rw [words_cons_of_blank h.1, ih h.2]

theorem canonical?_of_blank {raw : String} (h : isBlankText raw = true) :
    UnitLabel.canonical? raw = none := by
  have hsqueezed : squeeze raw.toList = [] := by
    rw [squeeze, words_of_blank h]
    rfl
  have htidy : UnitLabel.tidy raw = "" := by
    apply String.toList_injective
    rw [UnitLabel.tidy, hsqueezed, asciiUpper, String.toList_map, String.toList_ofList]
    rfl
  rw [UnitLabel.canonical?, htidy]
  rfl

/-- Where a line gives no label, its description is asked. -/
theorem resolve_of_missing {given : Option String}
    (h : ∀ raw, given = some raw → isBlankText raw = true) (description : String) :
    ResolvedUnit.resolve given description = ResolvedUnit.ofLabel? (label? description) := by
  rcases given with _ | raw
  · rfl
  · rw [ResolvedUnit.resolve, Option.bind_some, canonical?_of_blank (h raw rfl)]
    rfl

/-! ## Section 3: What a description with a pack tells -/

/-- A description with a pack tells no unit if nothing before a pack in it goes on as a number,
    and a line that gives no label has no unit then.  Otherwise the description tells what its
    first measure is known by, which is the size of a piece if there is none before it. -/
theorem label?_of_pack {description : String} {before text : List Char}
    (hsplit : description.toList = before ++ text) (hpack : Pack text) :
    (HasLedPack description.toList → label? description = none ∧
      ∀ given : Option String, (∀ raw, given = some raw → isBlankText raw = true) →
        ResolvedUnit.resolve given description = ⟨none, .unknown⟩) ∧
    (Leads before → HasLedPack description.toList) ∧
    (¬ HasLedPack description.toList → ∃ position w,
      FirstMeasure description.toList position w ∧
        label? description = UnitLabel.ofSpelling? (asciiUpper (String.ofList w))) := by
  refine ⟨fun hled => ?_, fun hleads => ⟨before, text, hsplit, hleads, hpack⟩, fun hled => ?_⟩
  · have hnone : label? description = none := by
      rw [label?, if_pos (occursIn_pack_iff.mpr hled)]
    refine ⟨hnone, fun given hgiven => ?_⟩
    rw [resolve_of_missing hgiven, hnone]
    rfl
  · obtain ⟨position, v, hmeasure⟩ := hpack.exists_measureAt before
    rw [← hsplit] at hmeasure
    obtain ⟨first, w, hfirst⟩ := hmeasure.exists_first
    have hnopack : pack.occursIn description.toList = false := by
      rw [Bool.eq_false_iff]
      exact fun h => hled (occursIn_pack_iff.mp h)
    refine ⟨first, w, hfirst, ?_⟩
    rw [label?_eq_of_no_pack hnopack, word?_eq_some_iff.mpr ⟨first, hfirst⟩]
    rfl

/-- Bottles of six hundred millilitres. -/
theorem pack_bottles : Pack "24x600ml".toList := by
  have hdigits : ∀ ds : List Char, ds ≠ [] → ds.all isDigit = true → Digits ds := fun ds hne h =>
    ⟨hne, List.all_eq_true.mp h⟩
  have hcount : Digits ['2', '4'] := hdigits _ (by decide) (by decide +kernel)
  have hnumber : IsNumber ['6', '0', '0'] := .whole (hdigits _ (by decide) (by decide +kernel))
  have hgap : Gap [] := by simp [Gap]
  have hword : IsUnitWord unitWords ['m', 'l'] := ⟨"ml", by decide, by decide⟩
  have hends : Pattern.EndsWord [] := by simp [Pattern.EndsWord]
  have hsize : Amount ['6', '0', '0', 'm', 'l'] ['m', 'l'] :=
    ⟨_, [], [], rfl, hnumber, hgap, hword, hends⟩
  exact ⟨_, [], 'x', [], _, by decide, hcount, hgap, by decide, hgap, _, hsize⟩

/-- A line without a label, whose description has a pack behind a space. -/
theorem label?_of_pack_water :
    let description := "Water 24x600ml"
    description.toList = "Water ".toList ++ "24x600ml".toList ∧ Pack "24x600ml".toList ∧
      label? description = none ∧
      ResolvedUnit.resolve (some " \t") description = ⟨none, .unknown⟩ := by
  intro description
  have hsplit : description.toList = "Water ".toList ++ "24x600ml".toList := by decide +kernel
  have hleads : Leads "Water ".toList := by
    intro c hc
    obtain rfl : ' ' = c := by simpa using hc
    decide +kernel
  obtain ⟨hnone, hled, -⟩ := label?_of_pack hsplit pack_bottles
  have hblank : ∀ raw, some " \t" = some raw → isBlankText raw = true := by
    rintro _ ⟨⟩
    decide +kernel
  exact ⟨hsplit, pack_bottles, (hnone (hled hleads)).1, (hnone (hled hleads)).2 _ hblank⟩

/-! ## A pack that is missed -/

/-- The count of a pack is no part of a number before it: in front of it stands neither a digit
    nor a digit and a point. -/
def StandsAlone (before : List Char) : Prop :=
  (∀ c, before.getLast? = some c → isDigit c = false) ∧
    ∀ start d c, before = start ++ [d, c] → isPoint c = true → isDigit d = false

/-- The comma in front of the count is no point of a number, and the description tells the unit
    of the size of a piece all the same. -/
theorem pack_after_comma_tells_unit :
    let description := "Water,24x600ml"
    (∃ before text, description.toList = before ++ text ∧ StandsAlone before ∧ Pack text) ∧
      label? description = some "ML" ∧
      ResolvedUnit.resolve none description = ⟨some "ML", .volume⟩ := by
  intro description
  have halone : StandsAlone "Water,".toList := by
    constructor
    · intro c hc
      obtain rfl : ',' = c := by simpa using hc
      decide +kernel
    · intro start d c hsplit _
      have hlast : "Water,".toList = ['W', 'a', 't', 'e'] ++ ['r', ','] := by decide
      rw [hlast] at hsplit
      obtain ⟨-, hpair⟩ := List.append_inj' hsplit rfl
      obtain ⟨rfl, -⟩ := List.cons_eq_cons.mp hpair
      decide +kernel
  exact ⟨⟨_, _, by decide +kernel, halone, pack_bottles⟩, by decide +kernel, by decide +kernel⟩

end Reconcile.Measure
