import Reconcile.Description
import Reconcile.Proofs.Text.LowerCase
import Reconcile.Proofs.Text.Squeezed

/-! # The normal form of a description

    A description in normal form is in lower case, has no light punctuation, and has no white space
    but single spaces between other characters.  Normalizing gives this form and changes nothing
    that has it already.  The punctuation goes after the text was put into lower case, which may
    join words and leave a final sigma inside of one; but whether a character is in lower case has
    nothing to do with its neighbours, so that this needs no second look.

    Main statement: `normalize_normalForm`. -/

namespace Reconcile.Description

open Text

/-! ## Section 1: Normal texts -/

/-- The text is in lower case, without light punctuation, and without white space but single
    spaces, each of them between two other characters. -/
structure IsNormal (s : String) : Prop where
  bare : ∀ c ∈ s.toList, isLight c = false
  squeezed : IsSqueezed s.toList
  lowered : lower s.toList = s.toList

theorem toList_normalize (raw : String) : (normalize raw).toList =
    squeeze ((lower (trim raw.toList)).filter (!isLight ·)) := by
  rw [normalize, String.toList_ofList]

theorem isNormal_normalize (raw : String) : IsNormal (normalize raw) := by
  have hspace : isLight ' ' = false ∧ lowerChar ' ' = [' '] := by decide +kernel
  constructor
  · intro c hc
    rw [toList_normalize] at hc
    rcases mem_squeeze hc with rfl | hkept
    · exact hspace.1
    · simpa using (List.mem_filter.mp hkept).2
  · rw [toList_normalize]
    exact isSqueezed_squeeze _
  · rw [lower_eq_self_iff]
    intro c hc
    rw [toList_normalize] at hc
    rcases mem_squeeze hc with rfl | hkept
    · exact hspace.2
    · exact lowerChar_of_mem_lower (List.mem_filter.mp hkept).1

/-- Each step of normalizing leaves a normal text alone. -/
theorem IsNormal.normalize_eq {s : String} (h : IsNormal s) : normalize s = s := by
  have hbare : s.toList.filter (!isLight ·) = s.toList :=
    List.filter_eq_self.mpr fun c hc => by simp [h.bare c hc]
  apply String.toList_injective
  rw [toList_normalize, h.squeezed.trimmed.trim_eq, h.lowered, hbare, h.squeezed.squeeze_eq]

/-! ## Section 2: Normalizing -/

/-- All that is taken from the lower case of a text is white space and light punctuation. -/
theorem filter_normalize (raw : String) : (normalize raw).toList.filter (!isBlank ·) =
    (lower (trim raw.toList)).filter fun c => !isBlank c && !isLight c := by
  rw [toList_normalize, filter_squeeze, List.filter_filter]

/-- Normalizing gives a normal text, which has all characters of the lower case of the text but
    white space and light punctuation.  The texts that it leaves as they are are the normal ones,
    and so it makes no difference to normalize twice. -/
theorem normalize_normalForm (raw : String) :
    IsNormal (normalize raw) ∧
    (normalize raw).toList.filter (!isBlank ·) =
      ((lower (trim raw.toList)).filter fun c => !isBlank c && !isLight c) ∧
    (normalize raw = raw ↔ IsNormal raw) ∧
    normalize (normalize raw) = normalize raw := by
  refine ⟨isNormal_normalize raw, filter_normalize raw, ⟨fun h => ?_, IsNormal.normalize_eq⟩,
    (isNormal_normalize raw).normalize_eq⟩
  rw [← h]
  exact isNormal_normalize raw

/-- Without the comma the final sigma stands inside of a word, and stays what it is. -/
example : normalize "ΑΣ,Α" = "αςα" ∧ normalize "αςα" = "αςα" := by decide +kernel

end Reconcile.Description
