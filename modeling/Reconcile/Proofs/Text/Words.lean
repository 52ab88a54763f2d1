import Mathlib.Data.List.Basic
import Reconcile.Text.Blank

/-! # The words of a text

    Where a text is cut at a blank, its words are those of the two parts; words that are written
    one space apart are found again.

    Main statements: `words_append_of_blank`, `words_of_no_blank` and `words_intercalate`. -/

namespace Reconcile.Text

/-! ## Section 1: Texts and their words -/

theorem words_cons_of_blank {c : Char} (h : isBlank c = true) (s : List Char) :
    words (c :: s) = words s := by
  rw [words.eq_def]
  simp [h]

theorem words_cons_ne_nil {c : Char} (h : isBlank c = false) (s : List Char) :
    words (c :: s) ≠ [] := by
  rw [words.eq_def]
  rcases s with _ | ⟨d, s⟩
  · simp [h]
  · by_cases hd : isBlank d = true
    · simp [h, hd]
    · rcases hw : words (d :: s) with _ | ⟨w, ws⟩ <;> simp [h, hd, hw, pushFront]

/-- A word that a blank follows ends there. -/
theorem words_cons_cons_of_blank {c d : Char} (hc : isBlank c = false) (hd : isBlank d = true)
    (s : List Char) : words (c :: d :: s) = [c] :: words (d :: s) := by
  rw [words.eq_def]
  simp [hc, hd]

/-- A word that no blank follows goes on. -/
theorem words_cons_cons_of_not_blank {c d : Char} (hc : isBlank c = false) (hd : isBlank d = false)
    (s : List Char) : words (c :: d :: s) = pushFront c (words (d :: s)) := by
  rw [words.eq_def]
  simp [hc, hd]

theorem pushFront_append {ws : List (List Char)} (h : ws ≠ []) (c : Char)
    (vs : List (List Char)) : pushFront c (ws ++ vs) = pushFront c ws ++ vs := by
  rcases ws with _ | ⟨w, ws⟩
  · exact absurd rfl h
  · rfl

/-- The words before a blank are words of the whole, and so are those after it. -/
theorem words_append_of_blank {d : Char} (hd : isBlank d = true) (s t : List Char) :
    words (s ++ d :: t) = words s ++ words t := by
  induction s with
  | nil => exact words_cons_of_blank hd t
  | cons c s ih =>
    by_cases hc : isBlank c = true
    · rw [List.cons_append, words_cons_of_blank hc, words_cons_of_blank hc, ih]
    · -- the word that begins with `c` ends with it, or goes on with the next character
      rw [Bool.not_eq_true] at hc
      rcases s with _ | ⟨e, s⟩
      · simp [words, hc, hd]
      · by_cases he : isBlank e = true
        · rw [List.cons_append, List.cons_append, words_cons_cons_of_blank hc he,
            words_cons_cons_of_blank hc he, ← List.cons_append, ih]
          rfl
        · rw [Bool.not_eq_true] at he
          have hne : words (e :: s) ≠ [] := words_cons_ne_nil he s
          rw [List.cons_append, List.cons_append, words_cons_cons_of_not_blank hc he,
            words_cons_cons_of_not_blank hc he, ← List.cons_append, ih, pushFront_append hne]

/-- A text without blanks is one word. -/
theorem words_of_no_blank {s : List Char} (hs : s ≠ []) (h : ∀ c ∈ s, isBlank c = false) :
    words s = [s] := by
  induction s with
  | nil => exact absurd rfl hs
  | cons c s ih =>
    have hc : isBlank c = false := h c List.mem_cons_self
    rcases s with _ | ⟨d, s⟩
    · simp [words, hc]
    · have hd : isBlank d = false := h d (by simp)
      have hrest : words (d :: s) = [d :: s] :=
        ih (List.cons_ne_nil d s) fun c hc => h c (List.mem_cons_of_mem _ hc)
      rw [words_cons_cons_of_not_blank hc hd, hrest, pushFront]

/-! ## Section 2: Words and their texts -/

/-- A word: at least one character, and no white space. -/
structure IsWord (w : List Char) : Prop where
  ne_nil : w ≠ []
  not_blank : ∀ c ∈ w, isBlank c = false

theorem isWord_of_mem_pushFront {c : Char} (hc : isBlank c = false) {ws : List (List Char)}
    (hws : ∀ w ∈ ws, IsWord w) : ∀ w ∈ pushFront c ws, IsWord w := by
  rcases ws with _ | ⟨v, ws⟩
  · simpa [pushFront] using ⟨by simp, by simpa using hc⟩
  · rw [List.forall_mem_cons] at hws
    refine List.forall_mem_cons.mpr ⟨⟨by simp, ?_⟩, hws.2⟩
    exact List.forall_mem_cons.mpr ⟨hc, hws.1.not_blank⟩

theorem isWord_of_mem_words (s : List Char) : ∀ w ∈ words s, IsWord w := by
  fun_induction words s with
  | case1 => simp
  | case2 c s hc ih => exact ih
  | case3 c hc => simpa using ⟨by simp, by simpa using hc⟩
  | case4 c hc d s hd ih =>
    exact List.forall_mem_cons.mpr ⟨⟨by simp, by simpa using hc⟩, ih⟩
  | case5 c hc d s hd ih => exact isWord_of_mem_pushFront (by simpa using hc) ih

/-- Words one space apart are the words of the whole. -/
theorem words_intercalate {ws : List (List Char)} (h : ∀ w ∈ ws, IsWord w) :
    words ([' '].intercalate ws) = ws := by
  induction ws with
  | nil => rfl
  | cons w ws ih =>
    rw [List.forall_mem_cons] at h
    have hw : words w = [w] := words_of_no_blank h.1.ne_nil h.1.not_blank
    rcases ws with _ | ⟨v, ws⟩
    · simpa using hw
    · have hspace : isBlank ' ' = true := by decide
      rw [List.intercalate_cons_cons, List.append_assoc, List.singleton_append,
        words_append_of_blank hspace, hw, ih h.2]
      rfl

/-- A change of letters that neither makes nor takes white space changes the words alone. -/
theorem words_map {f : Char → Char} (hf : ∀ c, isBlank (f c) = isBlank c) (s : List Char) :
    words (s.map f) = (words s).map (·.map f) := by
  have hpush : ∀ c ws, pushFront (f c) (ws.map (·.map f)) = (pushFront c ws).map (·.map f) := by
    intro c ws
    cases ws <;> rfl
  fun_induction words s with
  | case1 => rfl
  | case2 c s hc ih =>
    rw [List.map_cons, words_cons_of_blank ((hf c).trans hc), ih]
  | case3 c hc => simp [words, hf, hc]
  | case4 c hc d s hd ih =>
    rw [List.map_cons, List.map_cons, List.map_cons, ← ih, words.eq_def]
    simp [hf, hc, hd]
  | case5 c hc d s hd ih =>
    rw [← hpush, ← ih, List.map_cons, List.map_cons, words.eq_def]
    simp [hf, hc, hd]

/-! ## Section 3: Words one space apart -/

/-- The last word stands behind the others, each of them with a space. -/
theorem intercalate_concat (ws : List (List Char)) (w : List Char) :
    [' '].intercalate (ws ++ [w]) = ws.flatMap (· ++ [' ']) ++ w := by
  induction ws with
  | nil => simp
  | cons v ws ih =>
    rcases ws with _ | ⟨u, ws⟩
    · simp
    · rw [List.cons_append, List.cons_append, List.intercalate_cons_cons, ← List.cons_append, ih]
      simp

theorem squeeze_intercalate {ws : List (List Char)} (h : ∀ w ∈ ws, IsWord w) :
    squeeze ([' '].intercalate ws) = [' '].intercalate ws := by
  rw [squeeze, words_intercalate h]

/-- A change of letters that leaves white space alone can be made before or after. -/
theorem squeeze_map {f : Char → Char} (hf : ∀ c, isBlank (f c) = isBlank c) (hspace : f ' ' = ' ')
    (s : List Char) : squeeze (s.map f) = (squeeze s).map f := by
  have hjoin : ∀ ws : List (List Char),
      [' '].intercalate (ws.map (·.map f)) = ([' '].intercalate ws).map f := by
    intro ws
    rcases List.eq_nil_or_concat ws with rfl | ⟨us, u, rfl⟩
    · rfl
    · rw [List.concat_eq_append, List.map_append, List.map_singleton, intercalate_concat,
        intercalate_concat, List.map_append, List.map_flatMap, List.flatMap_map]
      simp [hspace]
  rw [squeeze, words_map hf, hjoin, squeeze]

end Reconcile.Text
