import Reconcile.Proofs.Text.Mapping

/-! # Texts in lower case

    The lower case of a capital sigma depends on what stands around it, but neither of its two
    forms is changed again, and nor is the lower case of any other character.  So a text is in
    lower case if each of its characters is, wherever they stand: characters can be taken out of it
    and put into it, and it need not be looked at again.

    Main statements: `lower_eq_self_iff` and `lowerChar_of_mem_lower`. -/

namespace Reconcile.Text

/-! ## Section 1: Characters -/

namespace Case

/-- Lower case leaves alone what it has made. -/
theorem settles_lower : Settles lowerSpans lowerExpansions where
  ne_nil := by decide
  valid := by decide +kernel
  apart _ hn := not_mem_of_bits
    (by decide +kernel : bits (formsOf lowerSpans lowerExpansions) &&&
      bits (changedBy lowerSpans lowerExpansions) = 0) hn

end Case

/-- What lower case gives is in lower case. -/
theorem lowerChar_of_mem {c d : Char} (h : d ∈ lowerChar c) : lowerChar d = [d] :=
  Case.settles_lower.mapChar_of_mem h

/-- Both small forms of the sigma are in lower case, and its capital is not. -/
theorem lowerChar_sigma : lowerChar 'σ' = ['σ'] ∧ lowerChar 'ς' = ['ς'] ∧ lowerChar 'Σ' ≠ ['Σ'] := by
  decide +kernel

/-! ## Section 2: Texts -/

variable {s : List Char}

theorem lowerChar_of_mem_lowerAfter {before : List Char} {d : Char}
    (h : d ∈ lowerAfter before s) : lowerChar d = [d] := by
  induction s generalizing before with
  | nil => cases h
  | cons c s ih =>
    rw [lowerAfter] at h
    rcases List.mem_append.mp h with himage | hrest
    · split at himage
      · -- whatever stands around the sigma, it becomes one of its two small forms
        split at himage
        · rw [List.mem_singleton.mp himage]
          exact lowerChar_sigma.2.1
        · rw [List.mem_singleton.mp himage]
          exact lowerChar_sigma.1
      · exact lowerChar_of_mem himage
    · exact ih hrest

/-- Every character of a text in lower case is in lower case. -/
theorem lowerChar_of_mem_lower {d : Char} (h : d ∈ lower s) : lowerChar d = [d] :=
  lowerChar_of_mem_lowerAfter h

theorem lowerAfter_eq_self (h : ∀ c ∈ s, lowerChar c = [c]) (before : List Char) :
    lowerAfter before s = s := by
  induction s generalizing before with
  | nil => rfl
  | cons c s ih =>
    rw [List.forall_mem_cons] at h
    have hsigma : c ≠ 'Σ' := by
      rintro rfl
      exact lowerChar_sigma.2.2 h.1
    rw [lowerAfter, if_neg hsigma, h.1, ih h.2]
    rfl

/-- Lower case leaves a text alone if it leaves each of its characters alone. -/
theorem lower_eq_self_iff : lower s = s ↔ ∀ c ∈ s, lowerChar c = [c] := by
  constructor
  · intro h c hc
    rw [← h] at hc
    exact lowerChar_of_mem_lower hc
  · exact fun h => lowerAfter_eq_self h []

end Reconcile.Text
