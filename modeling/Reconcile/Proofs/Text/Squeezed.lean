import Mathlib.Data.List.Chain
import Reconcile.Proofs.Text.UpperCase
import Reconcile.Proofs.Text.Words

/-! # Squeezed texts

    In a squeezed text there is no white space but single spaces, each of them between two other
    characters.  Squeezing makes any text such a text, leaves such a text as it is, and takes
    nothing from a text but white space.

    Main statements: `isSqueezed_squeeze`, `IsSqueezed.squeeze_eq` and `filter_squeeze`. -/

namespace Reconcile.Text

/-! ## Section 1: Squeezing character by character -/

variable {c d : Char} {s : List Char}

theorem intercalate_eq_nil_iff {ws : List (List Char)} (h : ∀ w ∈ ws, IsWord w) :
    [' '].intercalate ws = [] ↔ ws = [] := by
  rcases ws with _ | ⟨w, _ | ⟨v, ws⟩⟩
  · simp
  · simpa using (h w (by simp)).ne_nil
  · simp [List.intercalate_cons_cons]

theorem squeeze_eq_nil_iff : squeeze s = [] ↔ words s = [] :=
  intercalate_eq_nil_iff (isWord_of_mem_words s)

theorem squeeze_cons_of_blank (h : isBlank c = true) (s : List Char) :
    squeeze (c :: s) = squeeze s := by
  rw [squeeze, words_cons_of_blank h, squeeze]

theorem squeeze_singleton (h : isBlank c = false) : squeeze [c] = [c] := by
  rw [squeeze, words_of_no_blank (List.cons_ne_nil c []) (by simpa using h),
    List.intercalate_singleton]

/-- Inside a word nothing happens. -/
theorem squeeze_cons_cons_of_not_blank (hc : isBlank c = false) (hd : isBlank d = false)
    (s : List Char) : squeeze (c :: d :: s) = c :: squeeze (d :: s) := by
  rw [squeeze, words_cons_cons_of_not_blank hc hd, squeeze]
  rcases hw : words (d :: s) with _ | ⟨w, _ | ⟨v, ws⟩⟩
  · exact absurd hw (words_cons_ne_nil hd s)
  · simp [pushFront]
  · simp [pushFront, List.intercalate_cons_cons]

/-- Behind a word there is one space, if there is another word. -/
theorem squeeze_cons_cons_of_blank (hc : isBlank c = false) (hd : isBlank d = true)
    (s : List Char) : squeeze (c :: d :: s) =
      if squeeze s = [] then [c] else c :: ' ' :: squeeze s := by
  simp only [squeeze_eq_nil_iff]
  rw [squeeze, words_cons_cons_of_blank hc hd, words_cons_of_blank hd, squeeze]
  rcases words s with _ | ⟨w, ws⟩
  · simp
  · simp [List.intercalate_cons_cons]

/-! ## Section 2: Squeezed texts -/

/-- There is no white space but single spaces, each of them between two other characters. -/
structure IsSqueezed (s : List Char) : Prop where
  trimmed : Trimmed s
  spaces : ∀ c ∈ s, isBlank c = true → c = ' '
  apart : s.IsChain fun c d => isBlank c = false ∨ isBlank d = false

theorem isSqueezed_nil : IsSqueezed [] := by
  refine ⟨⟨?_, ?_⟩, ?_, List.isChain_nil⟩ <;> simp

theorem IsSqueezed.cons (hc : isBlank c = false) (h : IsSqueezed s) : IsSqueezed (c :: s) := by
  refine ⟨⟨by simpa using hc, ?_⟩, ?_, ?_⟩
  · intro d hd
    rcases s with _ | ⟨e, s⟩
    · obtain rfl : c = d := by simpa using hd
      exact hc
    · exact h.trimmed.last d (by simpa using hd)
  · simpa [hc] using h.spaces
  · exact h.apart.cons fun d _ => .inl hc

/-- A space may stand between a character and what follows. -/
theorem IsSqueezed.cons_space (hc : isBlank c = false) (h : IsSqueezed s) (hs : s ≠ []) :
    IsSqueezed (c :: ' ' :: s) := by
  refine ⟨⟨by simpa using hc, ?_⟩, ?_, ?_⟩
  · intro d hd
    rw [List.getLast?_cons_cons, List.getLast?_cons_of_ne_nil hs] at hd
    exact h.trimmed.last d hd
  · intro d hd
    simp only [List.mem_cons] at hd
    rcases hd with rfl | rfl | hd
    · simp [hc]
    · exact fun _ => rfl
    · exact h.spaces d hd
  · exact (h.apart.cons fun d hd => .inr (h.trimmed.head d hd)).cons fun d _ => .inl hc

theorem isSqueezed_squeeze (s : List Char) : IsSqueezed (squeeze s) := by
  induction s using words.induct with
  | case1 => exact isSqueezed_nil
  | case2 c s hc ih => rwa [squeeze_cons_of_blank hc]
  | case3 c hc =>
    rw [Bool.not_eq_true] at hc
    rw [squeeze_singleton hc]
    exact isSqueezed_nil.cons hc
  | case4 c hc d s hd ih =>
    rw [Bool.not_eq_true] at hc
    rw [squeeze_cons_of_blank hd] at ih
    rw [squeeze_cons_cons_of_blank hc hd]
    split
    · exact isSqueezed_nil.cons hc
    · rename_i hs
      exact ih.cons_space hc hs
  | case5 c hc d s hd ih =>
    rw [Bool.not_eq_true] at hc hd
    rw [squeeze_cons_cons_of_not_blank hc hd]
    exact ih.cons hc

/-- A text that is squeezed but for a space in front loses this space and nothing else. -/
theorem squeeze_eq_dropWhile (hlast : ∀ c, s.getLast? = some c → isBlank c = false)
    (hspaces : ∀ c ∈ s, isBlank c = true → c = ' ')
    (hapart : s.IsChain fun c d => isBlank c = false ∨ isBlank d = false) :
    squeeze s = s.dropWhile isBlank := by
  -- what holds of a text holds of the rest of it, which may begin with the space
  have hrest : ∀ {c : Char} {s : List Char},
      (∀ d, (c :: s).getLast? = some d → isBlank d = false) →
      ∀ d, s.getLast? = some d → isBlank d = false := by
    intro c s h d hd
    exact h d (by simp [List.getLast?_cons, hd])
  induction s using words.induct with
  | case1 => rfl
  | case2 c s hc ih =>
    rw [squeeze_cons_of_blank hc, List.dropWhile_cons_of_pos hc]
    exact ih (hrest hlast) (fun d hd => hspaces d (.tail c hd)) hapart.tail
  | case3 c hc =>
    rw [Bool.not_eq_true] at hc
    rw [squeeze_singleton hc]
    simp [hc]
  | case4 c hc d s hd ih =>
    rw [Bool.not_eq_true] at hc
    have hsqueeze := ih (hrest hlast) (fun e he => hspaces e (.tail c he)) hapart.tail
    rw [squeeze_cons_of_blank hd, List.dropWhile_cons_of_pos hd] at hsqueeze
    obtain rfl : d = ' ' := hspaces d (by simp) hd
    rcases s with _ | ⟨e, s⟩
    · rw [hlast ' ' rfl] at hd
      cases hd
    · have he : isBlank e = false := by
        simpa [hd] using hapart.tail.rel
      rw [List.dropWhile_cons_of_neg (by simp [he])] at hsqueeze
      rw [squeeze_cons_cons_of_blank hc hd, hsqueeze, if_neg (List.cons_ne_nil e s),
        List.dropWhile_cons_of_neg (by simp [hc])]
  | case5 c hc d s hd ih =>
    rw [Bool.not_eq_true] at hc hd
    have hsqueeze := ih (hrest hlast) (fun e he => hspaces e (.tail c he)) hapart.tail
    rw [List.dropWhile_cons_of_neg (by simp [hd])] at hsqueeze
    rw [squeeze_cons_cons_of_not_blank hc hd, hsqueeze, List.dropWhile_cons_of_neg (by simp [hc])]

/-- A text that is squeezed already stays as it is. -/
theorem IsSqueezed.squeeze_eq (h : IsSqueezed s) : squeeze s = s := by
  rw [squeeze_eq_dropWhile h.trimmed.last h.spaces h.apart]
  rcases s with _ | ⟨c, s⟩
  · rfl
  · exact List.dropWhile_cons_of_neg (by simp [h.trimmed.head c rfl])

/-- Squeezing takes nothing but white space. -/
theorem filter_squeeze (s : List Char) :
    (squeeze s).filter (!isBlank ·) = s.filter (!isBlank ·) := by
  induction s using words.induct with
  | case1 => rfl
  | case2 c s hc ih => simp [squeeze_cons_of_blank hc, hc, ih]
  | case3 c hc => simp [squeeze_singleton, hc]
  | case4 c hc d s hd ih =>
    rw [Bool.not_eq_true] at hc
    have hspace : isBlank ' ' = true := by decide
    rw [squeeze_cons_of_blank hd] at ih
    rw [squeeze_cons_cons_of_blank hc hd]
    split
    · rename_i hnil
      rw [hnil] at ih
      simp [hc, ← ih]
    · simp [hc, hspace, ih]
  | case5 c hc d s hd ih =>
    rw [Bool.not_eq_true] at hc hd
    rw [squeeze_cons_cons_of_not_blank hc hd]
    simpa [List.filter_cons, hc] using ih

/-- What is in a squeezed text was there before, or is a space between two words. -/
theorem mem_squeeze (h : c ∈ squeeze s) : c = ' ' ∨ c ∈ s := by
  by_cases hc : isBlank c = true
  · exact .inl ((isSqueezed_squeeze s).spaces c h hc)
  · have hfilter : c ∈ (squeeze s).filter (!isBlank ·) := List.mem_filter.mpr ⟨h, by simpa using hc⟩
    rw [filter_squeeze] at hfilter
    exact .inr (List.mem_filter.mp hfilter).1

end Reconcile.Text
