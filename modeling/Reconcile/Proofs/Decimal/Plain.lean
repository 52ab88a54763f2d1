import Reconcile.Decimal.Numeric
import Reconcile.Proofs.Decimal.Grammar

/-! # Plain notation is read back

    The plain notation of a decimal is a base without an exponent: digits, a point at most, and a
    minus sign at most.  None of these is a filler or a parenthesis, so that the notation means the
    same as an amount and as decimal text.  What is read is the decimal itself, unless its scale is
    negative: the zeros that are written for such a scale become digits, and the value is the same.

    Main statements: `amount?_plain` and `value_unscaled`. -/

namespace Reconcile.Decimal

open Text

variable {ds : List Char}

/-! ## Section 1: Signed digits -/

/-- A text with a minus sign in front of it if it is below zero. -/
def signed (negative : Bool) (s : List Char) : List Char := if negative then '-' :: s else s

theorem signed_append (negative : Bool) (s t : List Char) :
    signed negative s ++ t = signed negative (s ++ t) := by
  cases negative <;> rfl

theorem isInteger_signed (negative : Bool) (h : IsDigits ds) :
    IsInteger (signed negative ds) (withSign negative (Nat.ofDigitChars 10 ds 0)) := by
  cases negative with
  | true => exact .minus h
  | false => exact .bare h

theorem point_not_mem_signed (negative : Bool) (h : ∀ c ∈ ds, c.isDigit = true) :
    '.' ∉ signed negative ds := by
  have hdigits : '.' ∉ ds := fun hmem => absurd (h '.' hmem) (by decide)
  cases negative with
  | true => exact List.not_mem_cons_of_ne_of_not_mem (by decide) hdigits
  | false => exact hdigits

/-- What holds of the ten digits one by one holds of every digit. -/
theorem of_isDigit {p : Char → Bool}
    (h : ((List.range' 48 10).all fun n => p (Char.ofNat n)) = true) {c : Char}
    (hc : c.isDigit = true) : p c = true := by
  have hcode : 48 ≤ c.toNat ∧ c.toNat ≤ 57 := by
    simp only [Char.isDigit, UInt32.le_iff_toNat_le, Bool.and_eq_true, decide_eq_true_eq,
      ge_iff_le] at hc
    exact hc
  rw [← Char.ofNat_toNat c]
  exact List.all_eq_true.mp h c.toNat (List.mem_range'_1.mpr (by omega))

/-! ## Section 2: Plain notation as a base -/

theorem isDigit_digitsOf (n : Nat) : ∀ c ∈ digitsOf n, c.isDigit = true :=
  fun _ hc => Nat.isDigit_of_mem_toDigits (by decide) (by decide) hc

theorem isDigit_replicate_zero (k : Nat) : ∀ c ∈ List.replicate k '0', c.isDigit = true := by
  intro c hc
  rw [List.eq_of_mem_replicate hc]
  decide

/-- With a positive scale there is a point, with that many digits behind it. -/
theorem exists_unsignedPlain {scale : Int} (h : 0 < scale) (n : Nat) :
    ∃ whole fraction, unsignedPlain n scale = whole ++ '.' :: fraction ∧ whole ≠ [] ∧
      (∀ c ∈ whole ++ fraction, c.isDigit = true) ∧
      Nat.ofDigitChars 10 (whole ++ fraction) 0 = n ∧ (fraction.length : Int) = scale := by
  have hdigits := isDigit_digitsOf n
  have hvalue : Nat.ofDigitChars 10 (digitsOf n) 0 = n := Nat.ofDigitChars_ten_toDigits
  unfold unsignedPlain
  rw [if_neg (by omega)]
  by_cases hlength : (digitsOf n).length ≤ scale.toNat
  · -- zeros are put in front of the digits, and one in front of the point
    rw [if_pos hlength]
    refine ⟨['0'], List.replicate (scale.toNat - (digitsOf n).length) '0' ++ digitsOf n, rfl,
      by simp, ?_, ?_, ?_⟩
    · exact List.forall_mem_append.mpr ⟨isDigit_replicate_zero 1,
        List.forall_mem_append.mpr ⟨isDigit_replicate_zero _, hdigits⟩⟩
    · rw [← List.append_assoc, List.singleton_append, ← List.replicate_succ,
        Nat.ofDigitChars_append, Nat.ofDigitChars_replicate_zero, Nat.mul_zero, hvalue]
    · rw [List.length_append, List.length_replicate]
      omega
  · -- the point stands among the digits
    rw [if_neg hlength]
    refine ⟨(digitsOf n).take ((digitsOf n).length - scale.toNat),
      (digitsOf n).drop ((digitsOf n).length - scale.toNat), rfl, ?_, ?_, ?_, ?_⟩
    · rw [← List.length_pos_iff, List.length_take]
      omega
    · rwa [List.take_append_drop]
    · rwa [List.take_append_drop]
    · rw [List.length_drop]
      omega

theorem plainChars_eq (d : Decimal) :
    d.plainChars = signed d.isNegative (unsignedPlain d.digits.natAbs d.scale) := rfl

theorem withSign_natAbs (n : Int) : withSign (decide (n < 0)) n.natAbs = n := by
  by_cases h : n < 0
  · simp only [withSign, h, decide_true, if_true]
    omega
  · simp only [withSign, h, decide_false, Bool.false_eq_true, if_false]
    omega

theorem withSign_mul (negative : Bool) (m n : Nat) :
    withSign negative (m * n) = m * withSign negative n := by
  cases negative <;> simp [withSign]

theorem unscaled_of_nonneg {d : Decimal} (h : 0 ≤ d.scale) : d.unscaled = d := by
  rw [unscaled, if_neg (by omega)]

/-- Where the scale is not above zero, the zeros in place of it count as digits. -/
theorem unscaled_of_nonpos {d : Decimal} (h : d.scale ≤ 0) :
    d.unscaled = ⟨(10 ^ d.scale.natAbs : Nat) * d.digits, 0⟩ := by
  by_cases hscale : d.scale < 0
  · rw [unscaled, if_pos hscale, Int.mul_comm, Int.natCast_pow]
    rfl
  · obtain ⟨digits, scale⟩ := d
    obtain rfl : scale = 0 := by
      simp only at h hscale
      omega
    rw [unscaled_of_nonneg (Int.le_refl 0)]
    simp

/-- Plain notation is a base for the decimal without a negative scale. -/
theorem isBase_plainChars (d : Decimal) :
    ∃ places, IsBase d.plainChars d.unscaled.digits places ∧ places = d.unscaled.scale := by
  by_cases hscale : d.scale ≤ 0
  · have hdigits : IsDigits (digitsOf d.digits.natAbs ++ List.replicate d.scale.natAbs '0') := by
      constructor
      · simp [digitsOf, Nat.toDigits_ne_nil]
      · exact List.forall_mem_append.mpr ⟨isDigit_digitsOf _, isDigit_replicate_zero _⟩
    have hinteger := isInteger_signed d.isNegative hdigits
    rw [Nat.ofDigitChars_append, Nat.ofDigitChars_replicate_zero, digitsOf,
      Nat.ofDigitChars_ten_toDigits, withSign_mul, Decimal.isNegative, withSign_natAbs]
      at hinteger
    rw [plainChars_eq, unsignedPlain, if_pos hscale, unscaled_of_nonpos hscale]
    exact ⟨0, .whole (point_not_mem_signed _ hdigits.isDigit) hinteger, rfl⟩
  · obtain ⟨whole, fraction, hplain, hwhole, hdigits, hvalue, hlength⟩ :=
      exists_unsignedPlain (by omega : 0 < d.scale) d.digits.natAbs
    have hinteger := isInteger_signed d.isNegative ⟨by simp [hwhole], hdigits⟩
    rw [hvalue, Decimal.isNegative, withSign_natAbs, ← signed_append] at hinteger
    have hpoint := point_not_mem_signed d.isNegative (List.forall_mem_append.mp hdigits).1
    rw [plainChars_eq, hplain, ← signed_append, unscaled_of_nonneg (by omega)]
    exact ⟨fraction.length, .pointed hpoint hinteger, hlength⟩

/-! ## Section 3: Plain notation as an amount -/

/-- None of the characters of a base has a meaning in an amount that it does not have in decimal
    text. -/
theorem not_special_of_isBaseChar {c : Char} (h : isBaseChar c = true) :
    isFiller c = false ∧ c ≠ '(' ∧ c ≠ '_' := by
  let harmless : Char → Bool := fun c => !isFiller c && c != '(' && c != '_'
  suffices hc : harmless c = true by simpa [harmless, and_assoc] using hc
  simp only [isBaseChar, Bool.or_eq_true, decide_eq_true_eq, or_assoc] at h
  rcases h with hdigit | rfl | rfl | rfl
  · exact of_isDigit (by decide) hdigit
  · decide
  · decide
  · decide

/-- A base is read as it stands. -/
theorem amountChars?_of_isBase {s : List Char} {n : Int} {places : Nat} (h : IsBase s n places) :
    amountChars? s = some ⟨n, places⟩ := by
  have hspecial := fun c hc => not_special_of_isBaseChar (h.all_isBaseChar c hc)
  have hfillers : withoutFillers s = s := by
    unfold withoutFillers
    rw [List.filter_eq_self]
    intro c hc
    simp [(hspecial c hc).1]
  have htrim : trim s = s := by
    rw [← hfillers, trim_withoutFillers]
  have hopen : enclosed? (trim s) = none := by
    rw [htrim]
    rcases henclosed : enclosed? s with _ | inner
    · rfl
    · rw [enclosed?_eq_some_iff] at henclosed
      subst henclosed
      exact absurd rfl (hspecial '(' List.mem_cons_self).2.1
  rw [amountChars?_of_not_enclosed hopen, ofFilled?_eq_some_iff, hfillers]
  exact .base h

/-- The plain notation of a decimal can be read as an amount, and is the decimal without a negative
    scale. -/
theorem amount?_plain (d : Decimal) : amount? d.plain = some d.unscaled := by
  obtain ⟨places, hbase, hplaces⟩ := isBase_plainChars d
  rw [amount?, plain, String.toList_ofList, amountChars?_of_isBase hbase, hplaces]

/-- Without a negative scale a decimal has the same value. -/
theorem value_unscaled (d : Decimal) : d.unscaled.value = d.value := by
  by_cases hscale : d.scale ≤ 0
  · have hpower : ((10 ^ d.scale.natAbs : Nat) : ℚ) = 10 ^ (-d.scale) := by
      rw [Nat.cast_pow, ← zpow_natCast]
      congr 1
      omega
    rw [unscaled_of_nonpos hscale, value, value, Int.cast_mul, Int.cast_natCast, hpower]
    simp [mul_comm]
  · rw [unscaled_of_nonneg (by omega)]

end Reconcile.Decimal
