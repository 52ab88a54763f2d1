import Mathlib.Data.List.DropRight
import Reconcile.Proofs.Text.Mapping
import Reconcile.Text.Blank

/-! # Trimmed texts and their upper case

    A trimmed text has no white space at either end, and that is all there is to it.  Upper case
    leaves such a text trimmed, since no character becomes white space or vanishes, and it leaves
    upper case alone, since every form that a character can take is its own upper case.

    Main statements: `Trimmed.trim_eq`, `Trimmed.upper` and `upper_upper`. -/

namespace Reconcile.Text

/-! ## Section 1: Trimmed texts -/

/-- There is no white space at either end. -/
structure Trimmed (s : List Char) : Prop where
  head : ∀ c, s.head? = some c → isBlank c = false
  last : ∀ c, s.getLast? = some c → isBlank c = false

/-- What may be dropped at the end is dropped, whatever stands in front of it. -/
theorem rdropWhile_append_of_all {p : Char → Bool} {t : List Char} (h : ∀ c ∈ t, p c = true)
    (s : List Char) : (s ++ t).rdropWhile p = s.rdropWhile p := by
  have hnone : t.reverse.dropWhile p = [] := by
    simpa [List.dropWhile_eq_nil_iff] using h
  unfold List.rdropWhile
  rw [List.reverse_append, List.dropWhile_append, hnone]
  simp

/-- What is left of the end keeps all that stands in front of it. -/
theorem rdropWhile_append_of_ne_nil {p : Char → Bool} {t : List Char} (h : t.rdropWhile p ≠ [])
    (s : List Char) : (s ++ t).rdropWhile p = s ++ t.rdropWhile p := by
  have hsome : t.reverse.dropWhile p ≠ [] := by
    simpa [List.rdropWhile] using h
  unfold List.rdropWhile
  rw [List.reverse_append, List.dropWhile_append]
  simp [hsome]

theorem trimEnd_eq (s : List Char) : trimEnd s = s.rdropWhile isBlank := by
  induction s with
  | nil => rfl
  | cons c s ih =>
    rw [trimEnd, ih]
    rcases hrest : s.rdropWhile isBlank with _ | ⟨d, t⟩
    · have hlast := rdropWhile_append_of_all (List.rdropWhile_eq_nil_iff.mp hrest) [c]
      rw [List.singleton_append, List.rdropWhile_singleton] at hlast
      exact hlast.symm
    · have hne : s.rdropWhile isBlank ≠ [] := by
        rw [hrest]
        exact List.cons_ne_nil d t
      have hkeeps := rdropWhile_append_of_ne_nil hne [c]
      rw [List.singleton_append, List.singleton_append, hrest] at hkeeps
      exact hkeeps.symm

theorem head?_dropWhile {s : List Char} {c : Char} (h : (s.dropWhile isBlank).head? = some c) :
    isBlank c = false := by
  have hhead := List.head?_dropWhile_not isBlank s
  rw [h] at hhead
  exact hhead

theorem trimmed_trim (s : List Char) : Trimmed (trim s) := by
  rw [trim, trimEnd_eq]
  constructor
  · intro c hc
    obtain ⟨t, ht⟩ := List.rdropWhile_prefix isBlank (s.dropWhile isBlank)
    apply head?_dropWhile (s := s)
    rw [← ht, List.head?_append, hc]
    rfl
  · intro c hc
    obtain ⟨hne, rfl⟩ := List.mem_getLast?_eq_getLast hc
    simpa using List.rdropWhile_last_not isBlank _ hne

/-- A text that is trimmed already stays as it is. -/
theorem Trimmed.trim_eq {s : List Char} (h : Trimmed s) : trim s = s := by
  have hfront : s.dropWhile isBlank = s := by
    rcases s with _ | ⟨c, s⟩
    · rfl
    · exact List.dropWhile_cons_of_neg (by simp [h.head c rfl])
  rw [trim, trimEnd_eq, hfront, List.rdropWhile_eq_self_iff]
  intro hne
  simp [h.last _ (List.getLast?_eq_some_getLast hne)]

/-- Trimming takes white space and nothing else. -/
theorem exists_eq_append_trim (s : List Char) :
    ∃ before after, s = before ++ (trim s ++ after) ∧ (∀ c ∈ before, isBlank c = true) ∧
      ∀ c ∈ after, isBlank c = true := by
  refine ⟨s.takeWhile isBlank, (s.dropWhile isBlank).rtakeWhile isBlank, ?_, ?_, ?_⟩
  · rw [trim, trimEnd_eq, List.rdropWhile_append_rtakeWhile, List.takeWhile_append_dropWhile]
  · exact fun c hc => List.mem_takeWhile_imp hc
  · exact fun c hc => List.mem_rtakeWhile_imp hc

/-- Nothing is left of white space, and of nothing else. -/
theorem trim_eq_nil_iff {s : List Char} : trim s = [] ↔ s.all isBlank = true := by
  rw [trim, trimEnd_eq, List.rdropWhile_eq_nil_iff, List.all_eq_true]
  constructor
  · intro h
    have hnil : s.dropWhile isBlank = [] := by
      rcases hd : s.dropWhile isBlank with _ | ⟨c, t⟩
      · rfl
      · -- what is left at the front is no white space, though all that is left should be
        have hc : isBlank c = false := head?_dropWhile (by rw [hd]; rfl)
        rw [h c (by simp [hd])] at hc
        cases hc
    exact List.dropWhile_eq_nil_iff.mp hnil
  · intro h c hc
    exact h c ((List.dropWhile_sublist _).subset hc)

/-- A trimmed text is what is left of itself with white space around it. -/
theorem Trimmed.trim_append {s : List Char} (h : Trimmed s) {before after : List Char}
    (hbefore : ∀ c ∈ before, isBlank c = true) (hafter : ∀ c ∈ after, isBlank c = true) :
    trim (before ++ (s ++ after)) = s := by
  rcases s with _ | ⟨c, s⟩
  · rw [trim_eq_nil_iff, List.all_eq_true]
    intro c hc
    rcases List.mem_append.mp hc with hc | hc
    · exact hbefore c hc
    · exact hafter c hc
  · have hfront : (before ++ (c :: s ++ after)).dropWhile isBlank = c :: s ++ after := by
      rw [List.dropWhile_append_of_pos hbefore]
      exact List.dropWhile_cons_of_neg (by simp [h.head c rfl])
    have htrim := h.trim_eq
    have hself : (c :: s).dropWhile isBlank = c :: s :=
      List.dropWhile_cons_of_neg (by simp [h.head c rfl])
    rw [trim, trimEnd_eq, hself] at htrim
    rw [trim, trimEnd_eq, hfront, rdropWhile_append_of_all hafter, htrim]

/-! ## Section 2: Upper-case forms -/

namespace Case

/-- No upper-case form is changed again, and none is white space. -/
theorem upperForms_apart : bits (formsOf upperSpans upperExpansions) &&&
    bits (changedBy upperSpans upperExpansions ++ blankRanges.members) = 0 := by
  decide +kernel

theorem not_mem_of_mem_upperForms {n : Nat} (hn : n ∈ formsOf upperSpans upperExpansions) :
    n ∉ changedBy upperSpans upperExpansions ∧ n ∉ blankRanges.members := by
  have hapart := not_mem_of_bits upperForms_apart hn
  rwa [List.mem_append, not_or] at hapart

/-- Upper case leaves alone what it has made. -/
theorem settles_upper : Settles upperSpans upperExpansions where
  ne_nil := by decide
  valid := by decide +kernel
  apart _ hn := (not_mem_of_mem_upperForms hn).1

end Case

/-- A character stays what it is, or a span moves it, or it is one of those that become several. -/
theorem upperChar_sources (c : Char) :
    upperChar c = [c] ∨
      (∃ span ∈ Case.upperSpans, c.toNat ∈ span.members ∧
        upperChar c = [Char.ofNat (span.apply c.toNat)]) ∨
      ∃ e ∈ Case.upperExpansions, c.toNat = e.1 ∧ upperChar c = e.2.map Char.ofNat :=
  mapChar_sources _ _ c

theorem upperChar_ne_nil (c : Char) : upperChar c ≠ [] := Case.settles_upper.mapChar_ne_nil c

/-- What upper case gives is in upper case. -/
theorem upperChar_of_mem {c d : Char} (h : d ∈ upperChar c) : upperChar d = [d] :=
  Case.settles_upper.mapChar_of_mem h

theorem isBlank_of_mem_upperChar {c d : Char} (hc : isBlank c = false) (h : d ∈ upperChar c) :
    isBlank d = false := by
  rcases mapChar_cases Case.upperSpans Case.settles_upper.ne_nil c with hsame | ⟨-, hforms⟩
  · have hd : d ∈ [c] := hsame ▸ h
    rwa [List.mem_singleton.mp hd]
  · obtain ⟨n, hn, rfl⟩ := hforms d h
    rw [isBlank, Bool.eq_false_iff]
    intro hblank
    have hmem := CodeRanges.mem_members hblank
    rw [toNat_ofNat (Case.settles_upper.valid n hn)] at hmem
    exact (Case.not_mem_of_mem_upperForms hn).2 hmem

/-- Upper case is not changed by upper case. -/
theorem upper_upper (s : List Char) : upper (upper s) = upper s := by
  have hchar : ∀ c, (upperChar c).flatMap upperChar = upperChar c := by
    intro c
    have hfixed : (upperChar c).flatMap upperChar = (upperChar c).flatMap fun d => [d] :=
      List.flatMap_congr fun d hd => upperChar_of_mem hd
    rw [hfixed, List.flatMap_singleton']
  rw [upper, upper, List.flatMap_assoc]
  exact List.flatMap_congr fun c _ => hchar c

theorem upper_cons (c : Char) (s : List Char) : upper (c :: s) = upperChar c ++ upper s :=
  List.flatMap_cons

theorem upper_eq_nil_iff {s : List Char} : upper s = [] ↔ s = [] := by
  rcases s with _ | ⟨c, s⟩
  · simp [upper]
  · simp [upper_cons, upperChar_ne_nil]

/-- Upper case brings no white space to the ends of a text. -/
theorem Trimmed.upper {s : List Char} (h : Trimmed s) : Trimmed (upper s) := by
  constructor
  · intro d hd
    rcases s with _ | ⟨c, s⟩
    · cases hd
    · -- the first character is one of those that the first one becomes
      have hfirst : d ∈ upperChar c := by
        rw [Text.upper, List.flatMap_cons,
          List.head?_append_of_ne_nil _ (upperChar_ne_nil c)] at hd
        exact List.mem_of_head? hd
      exact isBlank_of_mem_upperChar (h.head c rfl) hfirst
  · intro d hd
    rcases List.eq_nil_or_concat s with rfl | ⟨t, c, rfl⟩
    · cases hd
    · have hlast : d ∈ upperChar c := by
        rw [Text.upper, List.concat_eq_append, List.flatMap_append, List.flatMap_singleton,
          List.getLast?_append_of_ne_nil _ (upperChar_ne_nil c)] at hd
        exact List.mem_of_getLast? hd
      exact isBlank_of_mem_upperChar (h.last c (by simp)) hlast

end Reconcile.Text
