import Mathlib.Algebra.Order.Field.Power
import Mathlib.Algebra.Order.Ring.Rat
import Reconcile.Decimal

/-! # The sign of what is read

    The sign of a decimal is that of its digits, and decimal text says it in one place only: in
    front of the digits, where the first point is not counted.  A number below zero has a minus
    sign there and some digit that is no zero; neither the exponent nor the point has a say.

    Main statements: `value_pos_iff` and `digits_neg_iff_of_read`. -/

namespace Reconcile.Decimal

/-! ## Section 1: Values -/

/-- The number that a decimal stands for. -/
def value (d : Decimal) : ℚ := d.digits * 10 ^ (-d.scale)

theorem value_neg (d : Decimal) : d.neg.value = -d.value := by
  simp [value, neg]

theorem value_pos_iff {d : Decimal} : 0 < d.value ↔ 0 < d.digits := by
  have hpower : (0 : ℚ) < 10 ^ (-d.scale) := zpow_pos (by norm_num) _
  rw [value, mul_pos_iff_of_pos_right hpower, Int.cast_pos]

theorem value_lt_zero_iff {d : Decimal} : d.value < 0 ↔ d.digits < 0 := by
  have hdigits : 0 < d.neg.digits ↔ d.digits < 0 := Int.neg_pos
  rw [← hdigits, ← value_pos_iff, value_neg, neg_pos]

theorem isPositive_iff {d : Decimal} : d.isPositive = true ↔ 0 < d.value := by
  rw [value_pos_iff, isPositive, decide_eq_true_iff]

theorem isNegative_iff {d : Decimal} : d.isNegative = true ↔ d.value < 0 := by
  rw [value_lt_zero_iff, isNegative, decide_eq_true_iff]

/-! ## Section 2: Digits -/

theorem toNat_sub_eq_zero_iff {c : Char} (h : c.isDigit = true) :
    c.toNat - '0'.toNat = 0 ↔ c = '0' := by
  have hzero : '0'.toNat = 48 := rfl
  have hdigit : 48 ≤ c.toNat := by
    simp only [Char.isDigit, UInt32.le_iff_toNat_le, Bool.and_eq_true, decide_eq_true_eq,
      ge_iff_le] at h
    exact h.1
  rw [hzero, ← Char.toNat_inj, hzero]
  omega

/-- Digits stand for zero if each of them does, and so does what was read before them. -/
theorem ofDigitChars_eq_zero_iff {ds : List Char} (h : ∀ c ∈ ds, c.isDigit = true) (before : Nat) :
    Nat.ofDigitChars 10 ds before = 0 ↔ before = 0 ∧ ∀ c ∈ ds, c = '0' := by
  induction ds generalizing before with
  | nil => simp
  | cons c ds ih =>
    rw [List.forall_mem_cons] at h
    have hfirst : 10 * before + (c.toNat - '0'.toNat) = 0 ↔ before = 0 ∧ c = '0' := by
      rw [← toNat_sub_eq_zero_iff h.1]
      omega
    rw [Nat.ofDigitChars_cons, ih h.2, hfirst, List.forall_mem_cons, and_assoc]

/-- There is a digit that is not zero. -/
def HasNonzero (s : List Char) : Prop := ∃ c ∈ s, c.isDigit = true ∧ c ≠ '0'

instance (s : List Char) : Decidable (HasNonzero s) :=
  inferInstanceAs (Decidable (∃ c ∈ s, _))

/-- Digits in groups are not zero if one of them is not. -/
theorem ne_zero_iff_of_grouped {s : List Char} {n : Nat} (h : grouped? s = some n) :
    n ≠ 0 ↔ HasNonzero s := by
  have hgrouped : (∀ c ∈ s, c.isDigit = true ∨ c = '_') ∧
      Nat.ofDigitChars 10 (s.filter (· != '_')) 0 = n := by
    unfold grouped? at h
    split at h
    · cases h
    · cases h
    · split at h
      · rename_i hall
        refine ⟨?_, Option.some.inj h⟩
        simpa using hall
      · cases h
  obtain ⟨hall, rfl⟩ := hgrouped
  have hdigits : ∀ c ∈ s.filter (· != '_'), c.isDigit = true := by
    intro c hc
    obtain ⟨hmem, hplain⟩ := List.mem_filter.mp hc
    exact (hall c hmem).resolve_right (by simpa using hplain)
  rw [Ne, ofDigitChars_eq_zero_iff hdigits]
  unfold HasNonzero
  constructor
  · intro hne
    -- one of the digits that are left without the underscores is no zero
    simp only [true_and, not_forall] at hne
    obtain ⟨c, hc, hzero⟩ := hne
    exact ⟨c, (List.mem_filter.mp hc).1, hdigits c hc, hzero⟩
  · rintro ⟨c, hc, hdigit, hzero⟩ ⟨-, hzeros⟩
    have hplain : c ≠ '_' := by
      rintro rfl
      revert hdigit
      decide
    exact hzero (hzeros c (List.mem_filter.mpr ⟨hc, by simpa using hplain⟩))

/-! ## Section 3: Signs -/

theorem splitSign_of_no_minus {s : List Char} (h : s.head? ≠ some '-') :
    (splitSign s).1 = false := by
  unfold splitSign
  split
  · exact absurd rfl h
  · rfl
  · rfl

/-- A coefficient is below zero if a minus sign is in front of it and a digit of it is not
    zero. -/
theorem neg_iff_of_coefficient {s : List Char} {n : Int} (h : coefficient? s = some n) :
    n < 0 ↔ s.head? = some '-' ∧ HasNonzero s := by
  obtain ⟨m, hm, rfl⟩ : ∃ m, grouped? (splitSign s).2 = some m ∧
      withSign (splitSign s).1 m = n := Option.map_eq_some_iff.mp h
  by_cases hhead : s.head? = some '-'
  · obtain ⟨t, rfl⟩ := List.head?_eq_some_iff.mp hhead
    have hsplit : splitSign ('-' :: t) = (true, t) := rfl
    have hnonzero : HasNonzero ('-' :: t) ↔ HasNonzero t := by
      have hminus : ('-').isDigit = false := by decide
      simp [HasNonzero, hminus]
    rw [hsplit] at hm ⊢
    rw [hnonzero, ← ne_zero_iff_of_grouped hm]
    simp only [withSign, List.head?_cons, true_and, if_true]
    omega
  · -- without a minus sign what was read is a natural number
    rw [splitSign_of_no_minus hhead]
    have hnonneg : 0 ≤ withSign false m := Int.natCast_nonneg m
    simp only [hhead, false_and, iff_false]
    omega

/-! ## Section 4: Decimal text -/

/-- What stands before the exponent, without its first point: a sign and digits. -/
def numeral (s : List Char) : List Char := (s.takeWhile (!isExponentMark ·)).erase '.'

/-- The parts in front of the first point and behind it are what is left without it. -/
theorem whole_append_fraction (base : List Char) :
    base.takeWhile (· != '.') ++ (base.dropWhile (· != '.')).drop 1 = base.erase '.' := by
  induction base with
  | nil => rfl
  | cons c base ih =>
    by_cases hc : c = '.'
    · subst hc
      simp
    · rw [List.takeWhile_cons_of_pos (by simpa using hc), List.dropWhile_cons_of_pos
        (by simpa using hc), List.cons_append, ih, List.erase_cons_tail (by simpa using hc)]

theorem coefficient?_of_base {base : List Char} {exponent : Int} {d : Decimal}
    (h : ofBase? base exponent = some d) : coefficient? (base.erase '.') = some d.digits := by
  unfold ofBase? at h
  split at h
  · cases h
  · obtain ⟨n, hn, rfl⟩ := Option.map_eq_some_iff.mp h
    rw [← whole_append_fraction]
    exact hn

theorem coefficient?_numeral {s : List Char} {d : Decimal} (h : readChars? s = some d) :
    coefficient? (numeral s) = some d.digits := by
  unfold readChars? at h
  split at h
  · exact coefficient?_of_base h
  · obtain ⟨e, -, hbase⟩ := Option.bind_eq_some_iff.mp h
    exact coefficient?_of_base hbase

/-- The text says a number below zero: a minus sign is in front of its digits, and one of these
    is not zero. -/
def SaysNegative (s : List Char) : Prop :=
  (numeral s).head? = some '-' ∧ HasNonzero (numeral s)

instance (s : List Char) : Decidable (SaysNegative s) := inferInstanceAs (Decidable (_ ∧ _))

/-- What was read is below zero if the text says so. -/
theorem digits_neg_iff_of_read {s : List Char} {d : Decimal} (h : readChars? s = some d) :
    d.digits < 0 ↔ SaysNegative s :=
  neg_iff_of_coefficient (coefficient?_numeral h)

end Reconcile.Decimal
