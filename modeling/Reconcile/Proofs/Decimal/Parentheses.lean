import Mathlib.Data.List.Basic
import Reconcile.Decimal.Amount
import Reconcile.Proofs.Decimal.Sign
import Reconcile.Proofs.Text.UpperCase

/-! # Amounts in parentheses

    Parentheses around an amount negate what is read inside of them.  They do so whatever is
    written inside, so that an amount with a minus sign comes out positive.  Fillers inside of
    them, or in an amount without parentheses, do not count; outside of them only white space
    does not, and a currency sign in front of the parentheses makes the amount unreadable.

    Main statements: `value_nonpos_iff_of_parentheses` and `amount?_without_fillers_iff`;
    `minus_in_parentheses_is_positive` and `sign_outside_parentheses_unreadable` are the amounts
    that come out otherwise than people mean them. -/

namespace Reconcile.Decimal

open Text

/-! ## Section 1: Fillers -/

/-- The text without its fillers. -/
def withoutFillers (s : List Char) : List Char := s.filter (!isFiller ·)

theorem isFiller_of_isBlank {c : Char} (h : isBlank c = true) : isFiller c = true := by
  unfold isFiller
  rw [h, Bool.or_true]

theorem withoutFillers_of_fillers {s : List Char} (h : ∀ c ∈ s, isFiller c = true) :
    withoutFillers s = [] := by
  unfold withoutFillers
  rw [List.filter_eq_nil_iff]
  intro c hc
  simp [h c hc]

theorem withoutFillers_append (s t : List Char) :
    withoutFillers (s ++ t) = withoutFillers s ++ withoutFillers t :=
  List.filter_append s t

theorem withoutFillers_cons_of_not {c : Char} (h : isFiller c = false) (s : List Char) :
    withoutFillers (c :: s) = c :: withoutFillers s :=
  List.filter_cons_of_pos (by simp [h])

theorem withoutFillers_withoutFillers (s : List Char) :
    withoutFillers (withoutFillers s) = withoutFillers s := by
  unfold withoutFillers
  rw [List.filter_filter]
  simp

theorem withoutFillers_trim (s : List Char) : withoutFillers (trim s) = withoutFillers s := by
  obtain ⟨before, after, hs, hbefore, hafter⟩ := exists_eq_append_trim s
  have hfront := withoutFillers_of_fillers fun c hc => isFiller_of_isBlank (hbefore c hc)
  have hback := withoutFillers_of_fillers fun c hc => isFiller_of_isBlank (hafter c hc)
  conv_rhs => rw [hs, withoutFillers_append, withoutFillers_append, hfront, hback]
  simp

/-- What is left without fillers is read as decimal text, since nothing is no decimal text. -/
theorem ofFilled?_eq (s : List Char) : ofFilled? s = readChars? (withoutFillers s) := by
  unfold ofFilled?
  split
  · rename_i hnil
    unfold withoutFillers
    rw [hnil]
    decide
  · rfl

theorem isBlank_of_mem_withoutFillers {s : List Char} {c : Char} (h : c ∈ withoutFillers s) :
    isBlank c = false := by
  obtain ⟨-, hc⟩ := List.mem_filter.mp h
  by_contra hblank
  rw [isFiller_of_isBlank (by simpa using hblank)] at hc
  cases hc

theorem trim_withoutFillers (s : List Char) : trim (withoutFillers s) = withoutFillers s := by
  have htrimmed : Trimmed (withoutFillers s) := by
    constructor
    · intro c hc
      exact isBlank_of_mem_withoutFillers (List.mem_of_head? hc)
    · intro c hc
      exact isBlank_of_mem_withoutFillers (List.mem_of_getLast? hc)
  exact htrimmed.trim_eq

/-! ## Section 2: Parentheses -/

theorem isFiller_parentheses : isFiller '(' = false ∧ isFiller ')' = false := by decide

theorem enclosed?_eq_some_iff {s inner : List Char} :
    enclosed? s = some inner ↔ s = '(' :: (inner ++ [')']) := by
  unfold enclosed?
  split
  · rename_i t
    constructor
    · intro h
      split at h
      · rename_i hlast
        obtain ⟨u, rfl⟩ := List.getLast?_eq_some_iff.mp hlast
        rw [List.dropLast_concat] at h
        rw [Option.some.inj h]
      · cases h
    · intro h
      obtain rfl : t = inner ++ [')'] := (List.cons.inj h).2
      simp
  · rename_i hother
    constructor
    · intro h
      cases h
    · rintro rfl
      exact absurd rfl (hother _)

/-- Fillers in front of a character that is none are the same in both texts. -/
theorem eq_of_fillers_append {before before' rest rest' : List Char} {c : Char}
    (hc : isFiller c = false) (hbefore : ∀ d ∈ before, isFiller d = true)
    (hbefore' : ∀ d ∈ before', isFiller d = true)
    (h : before ++ c :: rest = before' ++ c :: rest') : before = before' ∧ rest = rest' := by
  have hfillers : ∀ b r, (∀ d ∈ b, isFiller d = true) →
      (b ++ c :: r).takeWhile isFiller = b := by
    intro b r hb
    rw [List.takeWhile_append_of_pos hb, List.takeWhile_cons_of_neg (by simp [hc]),
      List.append_nil]
  have hsame : before = before' := by
    rw [← hfillers before rest hbefore, h, hfillers before' rest' hbefore']
  subst hsame
  exact ⟨rfl, (List.cons.inj (List.append_cancel_left h)).2⟩

/-- An amount in parentheses, with nothing but fillers outside of them. -/
structure InParentheses (raw before inner after : List Char) : Prop where
  eq : raw = before ++ '(' :: (inner ++ ')' :: after)
  before_filler : ∀ c ∈ before, isFiller c = true
  after_filler : ∀ c ∈ after, isFiller c = true

namespace InParentheses

variable {raw before inner after before' inner' after' : List Char}

/-- There is one way at most to see a text as an amount in parentheses. -/
theorem unique (h : InParentheses raw before inner after)
    (h' : InParentheses raw before' inner' after') :
    before = before' ∧ inner = inner' ∧ after = after' := by
  obtain ⟨hbefore, hrest⟩ := eq_of_fillers_append isFiller_parentheses.1 h.before_filler
    h'.before_filler (h.eq.symm.trans h'.eq)
  -- from behind, the closing parenthesis is the first character that is no filler
  have hreverse : after.reverse ++ ')' :: inner.reverse =
      after'.reverse ++ ')' :: inner'.reverse := by
    simpa using congrArg List.reverse hrest
  obtain ⟨hafter, hinner⟩ := eq_of_fillers_append isFiller_parentheses.2
    (by simpa using h.after_filler) (by simpa using h'.after_filler) hreverse
  exact ⟨hbefore, List.reverse_injective hinner, List.reverse_injective hafter⟩

theorem withoutFillers_eq (h : InParentheses raw before inner after) :
    withoutFillers raw = '(' :: (withoutFillers inner ++ [')']) := by
  rw [h.eq, withoutFillers_append, withoutFillers_of_fillers h.before_filler,
    withoutFillers_cons_of_not isFiller_parentheses.1, withoutFillers_append,
    withoutFillers_cons_of_not isFiller_parentheses.2, withoutFillers_of_fillers h.after_filler]
  rfl

/-- With nothing but white space outside, the text is trimmed to its parentheses. -/
theorem trim_eq (h : InParentheses raw before inner after)
    (hblank : ∀ c ∈ before ++ after, isBlank c = true) :
    trim raw = '(' :: (inner ++ [')']) := by
  have hends : isBlank '(' = false ∧ isBlank ')' = false := by decide
  have htrimmed : Trimmed ('(' :: (inner ++ [')'])) := by
    constructor
    · intro c hc
      obtain rfl : '(' = c := by simpa using hc
      exact hends.1
    · intro c hc
      rw [← List.cons_append, List.getLast?_concat] at hc
      obtain rfl : ')' = c := by simpa using hc
      exact hends.2
  have hsplit : raw = before ++ ('(' :: (inner ++ [')']) ++ after) := by simp [h.eq]
  rw [hsplit]
  exact htrimmed.trim_append (fun c hc => hblank c (by simp [hc]))
    fun c hc => hblank c (by simp [hc])

end InParentheses

/-- A text that is trimmed to its parentheses has nothing but white space outside of them. -/
theorem exists_inParentheses_of_trim {raw inner : List Char}
    (h : trim raw = '(' :: (inner ++ [')'])) :
    ∃ before after, InParentheses raw before inner after ∧
      ∀ c ∈ before ++ after, isBlank c = true := by
  obtain ⟨before, after, hraw, hbefore, hafter⟩ := exists_eq_append_trim raw
  refine ⟨before, after, ⟨?_, ?_, ?_⟩, ?_⟩
  · rw [hraw, h]
    simp
  · exact fun c hc => isFiller_of_isBlank (hbefore c hc)
  · exact fun c hc => isFiller_of_isBlank (hafter c hc)
  · intro c hc
    rcases List.mem_append.mp hc with hc | hc
    · exact hbefore c hc
    · exact hafter c hc

/-- What is left without fillers is in parentheses only if the whole was. -/
theorem exists_inParentheses {raw t : List Char} (h : enclosed? (withoutFillers raw) = some t) :
    ∃ before inner after, InParentheses raw before inner after := by
  rw [enclosed?_eq_some_iff, withoutFillers, List.filter_eq_cons_iff] at h
  obtain ⟨before, rest, rfl, hbefore, -, hrest⟩ := h
  obtain ⟨inner, last, rfl, -, hlast⟩ := List.filter_eq_append_iff.mp hrest
  obtain ⟨behind, after, rfl, hbehind, -, hafter⟩ := List.filter_eq_cons_iff.mp hlast
  refine ⟨before, inner ++ behind, after, by simp, ?_, ?_⟩
  · intro c hc
    simpa using hbefore c hc
  · intro c hc
    simpa using List.filter_eq_nil_iff.mp hafter c hc

/-! ## Section 3: What is read -/

/-- No decimal text begins with a parenthesis. -/
theorem readChars?_of_parenthesis (s : List Char) : readChars? ('(' :: s) = none := by
  rcases hread : readChars? ('(' :: s) with _ | d
  · rfl
  · have hcoefficient := coefficient?_numeral hread
    have hnumeral : numeral ('(' :: s) = '(' :: numeral s := by
      unfold numeral
      rw [List.takeWhile_cons_of_pos (by decide), List.erase_cons_tail (by decide)]
    rw [hnumeral] at hcoefficient
    simp [coefficient?, splitSign, grouped?] at hcoefficient

/-- Parentheses with nothing but white space outside negate what is read inside. -/
theorem amountChars?_of_enclosed {raw before inner after : List Char}
    (h : InParentheses raw before inner after) (hblank : ∀ c ∈ before ++ after, isBlank c = true) :
    amountChars? raw = (ofFilled? inner).map neg := by
  simp only [amountChars?, enclosed?_eq_some_iff.mpr (h.trim_eq hblank)]

/-- Without parentheses around the whole, it is read as it stands. -/
theorem amountChars?_of_not_enclosed {raw : List Char} (h : enclosed? (trim raw) = none) :
    amountChars? raw = ofFilled? raw := by
  simp only [amountChars?, h]
  rw [ofFilled?_eq, ofFilled?_eq, withoutFillers_trim]

/-- A filler that is no white space stands outside of the parentheses. -/
def IsMarkedOutside (raw : List Char) : Prop :=
  ∃ before inner after, InParentheses raw before inner after ∧
    ∃ c ∈ before ++ after, isBlank c = false

theorem amountChars?_of_isMarkedOutside {raw : List Char} (h : IsMarkedOutside raw) :
    amountChars? raw = none := by
  obtain ⟨before, inner, after, hraw, c, hc, hmark⟩ := h
  have hopen : enclosed? (trim raw) = none := by
    rcases henclosed : enclosed? (trim raw) with _ | inner'
    · rfl
    · -- the only white space around would be where the mark stands
      obtain ⟨before', after', hraw', hblank⟩ :=
        exists_inParentheses_of_trim (enclosed?_eq_some_iff.mp henclosed)
      obtain ⟨rfl, -, rfl⟩ := hraw.unique hraw'
      rw [hblank c hc] at hmark
      cases hmark
  rw [amountChars?_of_not_enclosed hopen, ofFilled?_eq, hraw.withoutFillers_eq]
  exact readChars?_of_parenthesis _

theorem amountChars?_withoutFillers {raw : List Char} (h : ¬ IsMarkedOutside raw) :
    amountChars? raw = amountChars? (withoutFillers raw) := by
  rcases henclosed : enclosed? (withoutFillers raw) with _ | t
  · have hopen : enclosed? (trim raw) = none := by
      rcases hinner : enclosed? (trim raw) with _ | inner
      · rfl
      · obtain ⟨before, after, hraw, -⟩ :=
          exists_inParentheses_of_trim (enclosed?_eq_some_iff.mp hinner)
        rw [enclosed?_eq_some_iff.mpr hraw.withoutFillers_eq] at henclosed
        cases henclosed
    rw [amountChars?_of_not_enclosed hopen,
      amountChars?_of_not_enclosed (by rw [trim_withoutFillers, henclosed]),
      ofFilled?_eq, ofFilled?_eq, withoutFillers_withoutFillers]
  · obtain ⟨before, inner, after, hraw⟩ := exists_inParentheses henclosed
    have hblank : ∀ c ∈ before ++ after, isBlank c = true := by
      intro c hc
      by_contra hmark
      exact h ⟨before, inner, after, hraw, c, hc, by simpa using hmark⟩
    have hinside : InParentheses (withoutFillers raw) [] (withoutFillers inner) [] :=
      ⟨hraw.withoutFillers_eq, by simp, by simp⟩
    rw [amountChars?_of_enclosed hraw hblank, amountChars?_of_enclosed hinside (by simp),
      ofFilled?_eq, ofFilled?_eq, withoutFillers_withoutFillers]

/-! ## Section 4: The sign of an amount in parentheses -/

/-- An amount in parentheses is the negative of what is read inside.  So it is not above zero, if
    and only if what is inside does not say a number below zero itself. -/
theorem value_nonpos_iff_of_parentheses {raw : String} {inner : List Char} {d : Decimal}
    (hraw : trim raw.toList = '(' :: (inner ++ [')'])) (h : amount? raw = some d) :
    (∃ e, ofFilled? inner = some e ∧ d.value = -e.value) ∧
      (d.value ≤ 0 ↔ ¬ SaysNegative (withoutFillers inner)) := by
  obtain ⟨before, after, hparentheses, hblank⟩ := exists_inParentheses_of_trim hraw
  unfold amount? at h
  rw [amountChars?_of_enclosed hparentheses hblank] at h
  obtain ⟨e, he, rfl⟩ := Option.map_eq_some_iff.mp h
  refine ⟨⟨e, he, value_neg e⟩, ?_⟩
  have hdigits : e.neg.digits = -e.digits := rfl
  have hread : readChars? (withoutFillers inner) = some e := by rw [← ofFilled?_eq, he]
  rw [← not_lt, value_pos_iff, ← digits_neg_iff_of_read hread, hdigits]
  omega

/-- A currency sign, a comma and spaces inside of the parentheses. -/
theorem value_nonpos_of_credit :
    let raw := "\t( $ 1,200.50 ) "
    trim raw.toList = '(' :: (" $ 1,200.50 ".toList ++ [')']) ∧
      amount? raw = some ⟨-120050, 2⟩ ∧ Decimal.value ⟨-120050, 2⟩ ≤ 0 := by
  intro raw
  have hraw : trim raw.toList = '(' :: (" $ 1,200.50 ".toList ++ [')']) := by decide +kernel
  have hamount : amount? raw = some ⟨-120050, 2⟩ := by decide +kernel
  have hplain : ¬ SaysNegative (withoutFillers " $ 1,200.50 ".toList) := by decide +kernel
  exact ⟨hraw, hamount, (value_nonpos_iff_of_parentheses hraw hamount).2.mpr hplain⟩

/-- A minus sign inside of the parentheses makes a charge of what is owed back. -/
theorem minus_in_parentheses_is_positive :
    trim "(-5)".toList = '(' :: (['-', '5'] ++ [')']) ∧ amount? "(-5)" = some ⟨5, 0⟩ ∧
      ¬ Decimal.value ⟨5, 0⟩ ≤ 0 := by
  refine ⟨by decide +kernel, by decide +kernel, ?_⟩
  rw [not_le, value_pos_iff]
  decide

/-! ## Section 5: Fillers outside of parentheses -/

/-- An amount is read as it is without its fillers, unless one of them that is no white space
    stands outside of parentheses in which an amount can be read; then nothing is read. -/
theorem amount?_without_fillers_iff (raw : String) :
    (amount? raw = amount? (String.ofList (withoutFillers raw.toList)) ↔
      ¬ (IsMarkedOutside raw.toList ∧
        (amount? (String.ofList (withoutFillers raw.toList))).isSome = true)) ∧
    (IsMarkedOutside raw.toList → amount? raw = none) := by
  unfold amount?
  rw [String.toList_ofList]
  by_cases hmark : IsMarkedOutside raw.toList
  · rw [amountChars?_of_isMarkedOutside hmark]
    rcases amountChars? (withoutFillers raw.toList) with _ | d <;> simp [hmark]
  · simp [hmark, amountChars?_withoutFillers hmark]

/-- The currency sign in front of the parentheses is not taken for a filler. -/
theorem sign_outside_parentheses_unreadable :
    withoutFillers "$(5)".toList = "(5)".toList ∧ amount? "(5)" = some ⟨-5, 0⟩ ∧
      amount? "$(5)" = none ∧ amount? "(5)$" = none ∧ amount? " ( $5 ) " = some ⟨-5, 0⟩ := by
  decide +kernel

end Reconcile.Decimal
