import Reconcile.Proofs.Binary64.Rounding

/-! # Decimal digits that are read back

    The digits that a number is written with are within reach of it: the ones on a coarse grid
    because they were tried, and eighteen digits because the grid is fine enough.  So they are
    read back as the number.

    Main statement: `ofDigits?_of_reaches`. -/

namespace Reconcile.Binary64

/-! ## Section 1: Digits on a grid -/

/-- The number that digits stand for. -/
def Digits.value (d : Digits) : ℚ := d.coefficient * 10 ^ d.power

variable {x : Binary64}

/-- The trial of a number on a grid tells what is within reach. -/
theorem reaches_of_readsBack (hx : x.IsPositive) {d : ℕ} {power : ℤ}
    (h : x.readsBack d power = true) : x.Reaches (d * 10 ^ power) := by
  have hlow : x.lowQuarters ≤ 4 * x.significand := by
    have := significand_pos hx.nonzero
    have := x.lowQuarters_le
    omega
  simp only [readsBack] at h
  let quarters := (Fraction.scale ⟨d * 4, 1⟩ 10 power).scale 2 (-x.exponent)
  have hden : 0 < quarters.den :=
    Fraction.den_scale_pos (Fraction.den_scale_pos Nat.one_pos (by decide) power) Nat.two_pos _
  have hvalue : 4 * ((d : ℚ) * 10 ^ power * 2 ^ (-x.exponent)) = quarters.value := by
    rw [Fraction.value_scale, Fraction.value_scale, Fraction.value]
    push_cast
    ring
  -- the comparisons are made without a division
  have hle (n : ℕ) := (Fraction.le_value_iff hden (n := n)).symm
  have hge (n : ℕ) := (Fraction.value_le_iff hden (n := n)).symm
  have hcast : ((4 * x.significand - x.lowQuarters : ℕ) : ℚ) =
      4 * x.significand - x.lowQuarters := by
    push_cast [Nat.cast_sub hlow]
    rfl
  by_cases heven : x.significand % 2 = 0
  · simp only [heven, if_true, Bool.and_eq_true, decide_eq_true_eq] at h
    refine ⟨?_, ?_, fun hodd => by omega⟩
    · rw [hvalue, ← hcast]
      exact (hle _).mp h.1
    · rw [hvalue]
      exact_mod_cast (hge _).mp h.2
  · simp only [heven, if_false, Bool.and_eq_true, decide_eq_true_eq] at h
    have h₁ := not_le.mp (mt (hge _).mpr (not_le.mpr h.1))
    have h₂ := not_le.mp (mt (hle _).mpr (not_le.mpr h.2))
    rw [hcast] at h₁
    push_cast at h₂
    rw [← hvalue] at h₁ h₂
    exact ⟨h₁.le, h₂.le, fun _ => ⟨h₁.ne', h₂.ne⟩⟩

theorem reaches_of_onGrid {tie : Tie} (hx : x.IsPositive) {power : ℤ} {d : Digits}
    (h : onGrid? tie x power = some d) : x.Reaches d.value := by
  obtain ⟨n, hn, rfl⟩ := Option.map_eq_some_iff.mp h
  have hback := List.find?_some hn
  exact reaches_of_readsBack hx hback

/-! ## Section 2: The finest grid -/

/-- A power of ten is at most a power of two if a ratio on the right side of the logarithm of two
    says so. -/
theorem ten_zpow_le {j b : ℤ} {m n : ℕ} (hn : n ≠ 0) (hj : j * n ≤ m * b)
    (h : ((10 : ℚ) ^ m) ^ b ≤ (2 ^ n) ^ b) : (10 : ℚ) ^ j ≤ 2 ^ b := by
  refine le_of_pow_le_pow_left₀ hn (zpow_pos two_pos b).le ?_
  calc ((10 : ℚ) ^ j) ^ n = 10 ^ (j * n) := by rw [zpow_mul, zpow_natCast]
    _ ≤ 10 ^ (m * b) := zpow_le_zpow_right₀ (by norm_num) hj
    _ = (10 ^ m) ^ b := by rw [zpow_mul, zpow_natCast]
    _ ≤ (2 ^ n) ^ b := h
    _ = (2 ^ b) ^ n := by rw [← zpow_natCast, ← zpow_natCast, ← zpow_mul, ← zpow_mul, mul_comm]

theorem ten_zpow_le_of_neg {j b : ℤ} (hb : b ≤ 0) (hj : j * 93 ≤ 28 * b) :
    (10 : ℚ) ^ j ≤ 2 ^ b := by
  refine ten_zpow_le (show 93 ≠ 0 by decide) (m := 28) (by push_cast; omega) ?_
  obtain ⟨n, rfl⟩ : ∃ n : ℕ, b = -(n : ℤ) := ⟨(-b).toNat, by omega⟩
  rw [zpow_neg, zpow_neg, zpow_natCast, zpow_natCast]
  exact inv_anti₀ (by positivity) (pow_le_pow_left₀ (by positivity) (by norm_num) n)

theorem ten_zpow_le_of_nonneg {j b : ℤ} (hb : 0 ≤ b) (hj : j * 196 ≤ 59 * b) :
    (10 : ℚ) ^ j ≤ 2 ^ b := by
  refine ten_zpow_le (show 196 ≠ 0 by decide) (m := 59) (by push_cast; omega) ?_
  exact zpow_le_zpow_left₀ hb (by positivity) (by norm_num)

/-- The power of ten from which the search starts is not too large. -/
theorem start_le {b : ℤ} (hlow : -20000 ≤ b) (hhigh : b ≤ 100000) :
    (10 : ℚ) ^ ((b * 30103).fdiv 100000 - 1) ≤ 2 ^ b := by
  rw [Int.fdiv_eq_ediv_of_nonneg _ (by decide)]
  rcases le_or_gt 0 b with hb | hb
  · exact ten_zpow_le_of_nonneg hb (by omega)
  · exact ten_zpow_le_of_neg hb.le (by omega)

namespace Fraction

variable {f : Fraction}

theorem reachesPower_iff (hden : 0 < f.den) (power : ℤ) :
    f.reachesPower power = true ↔ (10 : ℚ) ^ power ≤ f.value := by
  have hone := le_value_iff (den_scale_pos hden (show 0 < 10 by decide) (-power)) (n := 1)
  rw [Nat.one_mul, value_scale, zpow_neg, ← div_eq_mul_inv, Nat.cast_one, Nat.cast_ofNat,
    le_div_iff₀ (by positivity), one_mul] at hone
  rw [reachesPower, decide_eq_true_eq, ← hone]

theorem pow_climb_le (hden : 0 < f.den) {start : ℤ} (h : (10 : ℚ) ^ start ≤ f.value) (steps : ℕ) :
    (10 : ℚ) ^ f.climb steps start ≤ f.value := by
  induction steps generalizing start with
  | zero => exact h
  | succ n ih =>
    rw [climb]
    split
    · exact ih ((reachesPower_iff hden _).mp ‹_›)
    · exact h

/-- The largest power of ten that is found is reached. -/
theorem pow_decimalExponent_le (hnum : 0 < f.num) (hden : 0 < f.den)
    (hlow : -10000 ≤ Int.log 2 f.value) (hhigh : Int.log 2 f.value ≤ 10000) :
    (10 : ℚ) ^ f.decimalExponent ≤ f.value := by
  have hlog := log_cases hnum hden
  refine pow_climb_le hden ((start_le (by omega) (by omega)).trans ?_) 4
  have hvalue := (num_pos_iff hden).mp hnum
  exact (zpow_le_zpow_right₀ one_le_two hlog.1).trans (Int.zpow_log_le_self Nat.one_lt_two hvalue)

end Fraction

/-- The value of a positive number. -/
theorem value_magnitude (x : Binary64) : x.magnitude.value = x.significand * 2 ^ x.exponent := by
  rw [magnitude, Fraction.value_scale, Fraction.value]
  push_cast
  ring

theorem den_magnitude_pos (x : Binary64) : 0 < x.magnitude.den :=
  Fraction.den_scale_pos Nat.one_pos Nat.two_pos _

theorem value_magnitude_pos (hx : x.IsPositive) : 0 < x.magnitude.value := by
  have hsignificand : (0 : ℚ) < x.significand := by exact_mod_cast significand_pos hx.nonzero
  rw [value_magnitude]
  positivity

theorem exponent_le (hx : x.IsPositive) : x.exponent ≤ 971 := by
  have hlt := bits_lt hx
  rw [bits_eq hx.unsigned] at hlt
  rw [exponent]
  split <;> omega

/-- The numbers of the format are neither very small nor very large. -/
theorem log_magnitude (hx : x.IsPositive) :
    -1074 ≤ Int.log 2 x.magnitude.value ∧ Int.log 2 x.magnitude.value < 1024 := by
  have hpos := value_magnitude_pos hx
  have hexponent := x.exponent_ge
  have hexponent' := exponent_le hx
  have hone : (1 : ℚ) ≤ x.significand := by exact_mod_cast significand_pos hx.nonzero
  have hlt : (x.significand : ℚ) < 2 ^ (53 : ℤ) := by exact_mod_cast x.significand_lt
  rw [← Int.zpow_le_iff_le_log Nat.one_lt_two hpos, ← Int.lt_zpow_iff_log_lt Nat.one_lt_two hpos,
    value_magnitude, Nat.cast_ofNat]
  constructor
  · calc (2 : ℚ) ^ (-1074 : ℤ) ≤ 2 ^ x.exponent := zpow_le_zpow_right₀ one_le_two hexponent
      _ ≤ x.significand * 2 ^ x.exponent := le_mul_of_one_le_left (by positivity) hone
  · calc (x.significand : ℚ) * 2 ^ x.exponent < 2 ^ (53 : ℤ) * 2 ^ x.exponent := by gcongr
      _ = 2 ^ (53 + x.exponent) := (zpow_add₀ two_ne_zero _ _).symm
      _ ≤ 2 ^ (1024 : ℤ) := zpow_le_zpow_right₀ one_le_two (by omega)

/-- Eighteen digits are near enough. -/
theorem reaches_finest {top : ℤ} (htop : (10 : ℚ) ^ top ≤ x.magnitude.value) :
    x.Reaches ((x.magnitude.scale 10 (17 - top)).round * 10 ^ (top - 17)) := by
  obtain ⟨hlow, hhigh, -⟩ := Fraction.round_near
    (Fraction.den_scale_pos x.den_magnitude_pos (show 0 < 10 by decide) (17 - top))
  rw [Fraction.value_scale, value_magnitude, Nat.cast_ofNat] at hlow hhigh
  generalize (x.magnitude.scale 10 (17 - top)).round = n at *
  -- half a unit of the last digit, in units of the significand
  let step : ℚ := 10 ^ (top - 17) * 2 ^ (-x.exponent)
  have hstep : 0 < step := by positivity
  have hsmall : step * 10 ^ 17 < 2 ^ 53 := by
    have hlt : (x.significand : ℚ) < 2 ^ 53 := by exact_mod_cast x.significand_lt
    refine lt_of_le_of_lt ?_ hlt
    calc step * 10 ^ 17 = 10 ^ top * 2 ^ (-x.exponent) := by
          rw [mul_right_comm, ← zpow_natCast, ← zpow_add₀ (by norm_num)]
          congr 2
          push_cast
          ring
      _ ≤ x.significand * 2 ^ x.exponent * 2 ^ (-x.exponent) := by
          rw [← value_magnitude]
          gcongr
      _ = x.significand := by
          rw [mul_assoc, ← zpow_add₀ two_ne_zero, add_neg_cancel, zpow_zero, mul_one]
  have hunit : (x.significand * 2 ^ x.exponent * 10 ^ (17 - top) : ℚ) * step = x.significand := by
    calc (x.significand * 2 ^ x.exponent * 10 ^ (17 - top) : ℚ) * step
        = x.significand * (2 ^ x.exponent * 2 ^ (-x.exponent)) *
            (10 ^ (17 - top) * 10 ^ (top - 17)) := by ring
      _ = x.significand := by
          rw [← zpow_add₀ two_ne_zero, ← zpow_add₀ (by norm_num)]
          simp
  have hlow' := mul_le_mul_of_nonneg_right hlow hstep.le
  have hhigh' := mul_le_mul_of_nonneg_right hhigh hstep.le
  have hvalue : (n * 10 ^ (top - 17) : ℚ) * 2 ^ (-x.exponent) = n * step := mul_assoc _ _ _
  have hquarters : (1 : ℚ) ≤ x.lowQuarters := by
    rw [x.lowQuarters_eq]
    split <;> norm_num
  have hnear : (4 * x.significand - 1 : ℚ) < 4 * (n * step) := by linarith
  have hnear' : 4 * (n * step) < (4 * x.significand + 1 : ℚ) := by linarith
  rw [← hvalue] at hnear hnear'
  exact ⟨by linarith, by linarith, fun _ => ⟨ne_of_gt (by linarith), ne_of_lt (by linarith)⟩⟩

/-! ## Section 3: The shortest digits -/

theorem reaches_firstGrid (hx : x.IsPositive) {tie : Tie} {left n : ℕ} (h : left + n = 18) :
    x.Reaches (firstGrid tie x x.magnitude.decimalExponent left n).value := by
  induction left generalizing n with
  | zero =>
    obtain rfl : n = 18 := by omega
    have hlog := log_magnitude hx
    have htop := Fraction.pow_decimalExponent_le
      ((Fraction.num_pos_iff x.den_magnitude_pos).mpr (value_magnitude_pos hx))
      x.den_magnitude_pos (by omega) (by omega)
    have hgrid : ((18 : ℕ) : ℤ) - 1 - x.magnitude.decimalExponent =
        17 - x.magnitude.decimalExponent := rfl
    have hpower : x.magnitude.decimalExponent + 1 - ((18 : ℕ) : ℤ) =
        x.magnitude.decimalExponent - 17 := by omega
    rw [firstGrid, Digits.value, hgrid, hpower]
    exact reaches_finest htop
  | succ left ih =>
    rw [firstGrid]
    split
    · exact reaches_of_onGrid hx ‹_›
    · exact ih (by omega)

theorem Digits.value_strip (fuel : ℕ) (d : Digits) : (d.strip fuel).value = d.value := by
  induction fuel generalizing d with
  | zero => rfl
  | succ fuel ih =>
    rw [strip]
    split
    case isTrue h =>
      have hzero : d.coefficient % 10 = 0 := by simp at h; exact h.2
      have hten : (d.coefficient : ℚ) = (d.coefficient / 10 : ℕ) * 10 := by
        exact_mod_cast (Nat.div_mul_cancel (Nat.dvd_of_mod_eq_zero hzero)).symm
      rw [ih, value, value, hten, zpow_add₀ (by norm_num), zpow_one]
      ring
    case isFalse => rfl

/-- The shortest digits are within reach. -/
theorem reaches_shortest (hx : x.IsPositive) (tie : Tie) : x.Reaches (shortest tie x).value := by
  rw [shortest, Digits.value_strip]
  exact reaches_firstGrid hx rfl

theorem Reaches.digits_pos (hx : x.IsPositive) {d : ℕ} {power : ℤ}
    (h : x.Reaches (d * 10 ^ power)) : 0 < d := by
  have hpos := pos_of_mul_pos_left (h.exponent_cases hx).1 (by positivity)
  exact_mod_cast hpos

theorem coefficient_shortest_pos (hx : x.IsPositive) (tie : Tie) :
    0 < (shortest tie x).coefficient := (reaches_shortest hx tie).digits_pos hx

/-! ## Section 4: Reading -/

/-- What is within reach of a positive number is neither very small nor very large. -/
theorem Reaches.bounds (hx : x.IsPositive) {v : ℚ} (h : x.Reaches v) :
    (2 : ℚ) ^ (-1075 : ℤ) ≤ v ∧ v < 2 ^ (1024 : ℤ) := by
  have hlow := h.low
  have hhigh := h.high
  have hone : (1 : ℚ) ≤ x.significand := by exact_mod_cast significand_pos hx.nonzero
  have hlt : (x.significand : ℚ) + 1 ≤ 2 ^ (53 : ℤ) := by exact_mod_cast x.significand_lt
  have hquarters : (x.lowQuarters : ℚ) ≤ 2 := by exact_mod_cast x.lowQuarters_le
  have hexponent := x.exponent_ge
  have hexponent' := exponent_le hx
  have hvalue : v = v * 2 ^ (-x.exponent) * 2 ^ x.exponent := by
    rw [mul_assoc, ← zpow_add₀ two_ne_zero, neg_add_cancel, zpow_zero, mul_one]
  rw [hvalue]
  constructor
  · calc (2 : ℚ) ^ (-1075 : ℤ) ≤ 2 ^ (-1 + x.exponent) := zpow_le_zpow_right₀ one_le_two (by omega)
      _ = 2 ^ (-1 : ℤ) * 2 ^ x.exponent := zpow_add₀ two_ne_zero _ _
      _ ≤ v * 2 ^ (-x.exponent) * 2 ^ x.exponent := by
          refine mul_le_mul_of_nonneg_right ?_ (zpow_pos two_pos _).le
          rw [zpow_neg_one]
          linarith
  · calc v * 2 ^ (-x.exponent) * 2 ^ x.exponent < 2 ^ (53 : ℤ) * 2 ^ x.exponent := by
          refine mul_lt_mul_of_pos_right ?_ (zpow_pos two_pos _)
          linarith
      _ = 2 ^ (53 + x.exponent) := (zpow_add₀ two_ne_zero _ _).symm
      _ ≤ 2 ^ (1024 : ℤ) := zpow_le_zpow_right₀ one_le_two (by omega)

/-- The number of its digits gives the size of a number. -/
theorem length_toDigits_bounds {n : ℕ} (h : 0 < n) :
    (10 : ℚ) ^ ((Nat.toDigits 10 n).length - 1 : ℤ) ≤ n ∧
      n < (10 : ℚ) ^ ((Nat.toDigits 10 n).length : ℤ) := by
  have hlength {k : ℕ} (hk : 0 < k) : (Nat.toDigits 10 n).length ≤ k ↔ n < 10 ^ k :=
    Nat.length_toDigits_le_iff (by decide) hk
  obtain ⟨k, hk⟩ : ∃ k, (Nat.toDigits 10 n).length = k + 1 :=
    ⟨_, (Nat.sub_add_cancel Nat.length_toDigits_pos).symm⟩
  rw [hk] at hlength ⊢
  constructor
  · have hle : 10 ^ k ≤ n := by
      rcases Nat.eq_zero_or_pos k with rfl | hpos
      · exact h
      · exact Nat.not_lt.mp (mt (hlength hpos).mpr (Nat.not_succ_le_self k))
    rw [Nat.cast_succ, add_sub_cancel_right, zpow_natCast]
    exact_mod_cast hle
  · rw [zpow_natCast]
    exact_mod_cast (hlength k.succ_pos).mp le_rfl

/-- Digits within reach of a number are read as it. -/
theorem ofDigits?_of_reaches (hx : x.IsPositive) {d : ℕ} {power : ℤ}
    (h : x.Reaches (d * 10 ^ power)) : ofDigits? d power = some x := by
  obtain ⟨hlow, hhigh⟩ := h.bounds hx
  have hd : 0 < d := h.digits_pos hx
  obtain ⟨hdigits, hdigits'⟩ := length_toDigits_bounds hd
  have hround : (Fraction.scale ⟨d, 1⟩ 10 power).toBinary64 = x := by
    refine Fraction.toBinary64_of_reaches (Fraction.den_scale_pos Nat.one_pos (by decide) _) hx ?_
    rw [Fraction.value_scale, Fraction.value]
    simpa using h
  -- a reader gives up on sizes that are far outside the format
  have hsmall : ¬ ((Nat.toDigits 10 d).length : ℤ) + power < -400 := by
    intro hlt
    have : (d * 10 ^ power : ℚ) < 2 ^ (-1075 : ℤ) := by
      calc (d * 10 ^ power : ℚ) < 10 ^ ((Nat.toDigits 10 d).length : ℤ) * 10 ^ power := by gcongr
        _ = 10 ^ ((Nat.toDigits 10 d).length + power : ℤ) := (zpow_add₀ (by norm_num) _ _).symm
        _ ≤ 2 ^ (-1075 : ℤ) := ten_zpow_le_of_neg (by decide) (by omega)
    exact absurd hlow (not_le.mpr this)
  have hlarge : ¬ 400 < ((Nat.toDigits 10 d).length : ℤ) + power := by
    intro hgt
    have : (2 : ℚ) ^ (1024 : ℤ) ≤ d * 10 ^ power := by
      calc (2 : ℚ) ^ (1024 : ℤ) ≤ 2 ^ (3 * 342 : ℤ) := zpow_le_zpow_right₀ one_le_two (by decide)
        _ = (2 ^ (3 : ℤ)) ^ (342 : ℤ) := zpow_mul _ _ _
        _ ≤ 10 ^ (342 : ℤ) := zpow_le_zpow_left₀ (by decide) (by positivity) (by norm_num)
        _ ≤ 10 ^ ((Nat.toDigits 10 d).length - 1 + power : ℤ) :=
          zpow_le_zpow_right₀ (by norm_num) (by omega)
        _ = 10 ^ ((Nat.toDigits 10 d).length - 1 : ℤ) * 10 ^ power := zpow_add₀ (by norm_num) _ _
        _ ≤ d * 10 ^ power := by gcongr
    exact absurd hhigh (not_lt.mpr this)
  simp only [ofDigits?, hround, hx.finite, hd.ne', hsmall, hlarge, decide_false, Bool.or_self,
    Bool.false_eq_true, if_false, if_true]

end Reconcile.Binary64
