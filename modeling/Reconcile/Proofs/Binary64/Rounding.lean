import Mathlib.Algebra.Order.Field.Power
import Mathlib.Data.Int.Log
import Mathlib.Data.Rat.Floor
import Mathlib.Tactic.FieldSimp
import Mathlib.Tactic.Linarith
import Mathlib.Tactic.Positivity
import Mathlib.Tactic.Ring
import Reconcile.Binary64.Shortest

/-! # Rounding to the format

    A fraction stands for a rational number.  The numbers that are rounded to a given number of
    the format are those within reach of it: no further from it than halfway to its neighbours,
    and nearer than that if its significand is odd.

    Main statement: `Fraction.toBinary64_of_reaches`. -/

namespace Reconcile.Binary64

/-! ## Section 1: The value of a fraction -/

namespace Fraction

/-- The rational number that a fraction stands for. -/
def value (f : Fraction) : ℚ := (f.num : ℚ) / f.den

variable {f : Fraction}

theorem value_scale (f : Fraction) (base : ℕ) (power : ℤ) :
    (f.scale base power).value = f.value * (base : ℚ) ^ power := by
  rw [scale]
  by_cases hpower : 0 ≤ power
  · rw [if_pos hpower]
    obtain ⟨n, rfl⟩ := Int.eq_ofNat_of_zero_le hpower
    simp only [value, Int.toNat_natCast, zpow_natCast, Nat.pow_eq]
    push_cast
    ring
  · rw [if_neg hpower]
    obtain ⟨n, hn⟩ : ∃ n : ℕ, power = -(n : ℤ) := ⟨(-power).toNat, by omega⟩
    simp only [value, hn, neg_neg, Int.toNat_natCast, zpow_neg, zpow_natCast, Nat.pow_eq]
    push_cast
    rw [div_mul_eq_div_div, div_eq_mul_inv _ ((base : ℚ) ^ n)]

theorem den_scale_pos (hden : 0 < f.den) {base : ℕ} (hbase : 0 < base) (power : ℤ) :
    0 < (f.scale base power).den := by
  rw [scale]
  split
  · exact hden
  · exact Nat.mul_pos hden (Nat.pow_pos hbase)

theorem num_pos_iff (hden : 0 < f.den) : 0 < f.num ↔ 0 < f.value := by
  have hden' : (0 : ℚ) < f.den := by exact_mod_cast hden
  rw [value, div_pos_iff_of_pos_right hden', Nat.cast_pos]

theorem le_value_iff (hden : 0 < f.den) {n : ℕ} : n ≤ f.value ↔ n * f.den ≤ f.num := by
  rw [value, le_div_iff₀ (by exact_mod_cast hden)]
  exact_mod_cast Iff.rfl

theorem value_le_iff (hden : 0 < f.den) {n : ℕ} : f.value ≤ n ↔ f.num ≤ n * f.den := by
  rw [value, div_le_iff₀ (by exact_mod_cast hden)]
  exact_mod_cast Iff.rfl

theorem floor_lt_iff (hden : 0 < f.den) {n : ℕ} : f.floor < n ↔ f.value < n := by
  rw [floor, Nat.div_lt_iff_lt_mul hden, ← not_le, ← not_le, le_value_iff hden]

/-- A value is rounded by one half at most, and by one half only to an even number. -/
theorem round_near (hden : 0 < f.den) :
    (2 * f.round - 1 : ℚ) ≤ 2 * f.value ∧ 2 * f.value ≤ (2 * f.round + 1 : ℚ) ∧
      (2 * f.value = (2 * f.round - 1 : ℚ) ∨ 2 * f.value = (2 * f.round + 1 : ℚ) →
        f.round % 2 = 0) := by
  have hden' : (0 : ℚ) < f.den := by exact_mod_cast hden
  -- what is left of the value behind the point
  have hpart : f.value - (f.num / f.den : ℕ) = (f.num % f.den : ℕ) / (f.den : ℚ) := by
    have hsplit : (f.den : ℚ) * (f.num / f.den : ℕ) + (f.num % f.den : ℕ) = f.num := by
      exact_mod_cast Nat.div_add_mod f.num f.den
    rw [value, eq_div_iff hden'.ne', sub_mul, div_mul_cancel₀ _ hden'.ne', ← hsplit]
    ring
  have hrest := Nat.mod_lt f.num hden
  rw [round]
  generalize f.num / f.den = q at *
  generalize f.num % f.den = r at *
  have hmore : f.den < 2 * r ↔ 1 < 2 * (f.value - q) := by
    rw [hpart, ← mul_div_assoc, one_lt_div hden']
    exact_mod_cast Iff.rfl
  have hhalf : 2 * r = f.den ↔ 2 * (f.value - q) = 1 := by
    rw [hpart, ← mul_div_assoc, div_eq_one_iff_eq hden'.ne']
    exact_mod_cast Iff.rfl
  have hnonneg : 0 ≤ f.value - q := by
    rw [hpart]
    positivity
  have hless : f.value - q < 1 := by
    rw [hpart, div_lt_one hden']
    exact_mod_cast hrest
  simp only [Bool.or_eq_true, Bool.and_eq_true, decide_eq_true_eq, hmore, hhalf]
  split
  case isTrue h =>
    push_cast
    have hge : 1 ≤ 2 * (f.value - q) := h.elim le_of_lt fun h => h.1.ge
    refine ⟨by linarith, by linarith, fun htie => ?_⟩
    have heq : 2 * (f.value - q) = 1 := by rcases htie with htie | htie <;> linarith
    have hodd := (h.resolve_left heq.not_gt).2
    omega
  case isFalse h =>
    rw [not_or, not_and] at h
    refine ⟨by linarith, by linarith, fun htie => ?_⟩
    have heq : 2 * (f.value - q) = 1 := by rcases htie with htie | htie <;> linarith
    have hodd := h.2 heq
    omega

/-- The nearest natural number is the one that is at most one half away; of two such numbers it
    is the even one. -/
theorem round_eq (hden : 0 < f.den) {n : ℕ} (hlow : (2 * n - 1 : ℚ) ≤ 2 * f.value)
    (hhigh : 2 * f.value ≤ (2 * n + 1 : ℚ))
    (hodd : n % 2 = 1 → 2 * f.value ≠ (2 * n - 1 : ℚ) ∧ 2 * f.value ≠ (2 * n + 1 : ℚ)) :
    f.round = n := by
  obtain ⟨hnear, hnear', htie⟩ := round_near hden
  generalize f.round = m at *
  have hle : m ≤ n + 1 := by
    have : (m : ℚ) ≤ n + 1 := by linarith
    exact_mod_cast this
  have hge : n ≤ m + 1 := by
    have : (n : ℚ) ≤ m + 1 := by linarith
    exact_mod_cast this
  -- another number would be exactly one half away, and then the even one counts
  rcases Nat.lt_trichotomy m n with hlt | heq | hgt
  · obtain rfl : n = m + 1 := by omega
    push_cast at hlow hodd
    have heq : 2 * f.value = (2 * m + 1 : ℚ) := by linarith
    have heven := htie (.inr heq)
    exact absurd (by linarith) (hodd (by omega)).1
  · exact heq
  · obtain rfl : m = n + 1 := by omega
    push_cast at hnear htie
    have heq : 2 * f.value = (2 * n + 1 : ℚ) := by linarith
    have heven := htie (.inl (by linarith))
    exact absurd heq (hodd (by omega)).2

theorem log_lt_iff {v : ℚ} (hv : 0 < v) (e : ℤ) (n : ℕ) :
    Int.log 2 v < e + n ↔ v * 2 ^ (-e) < 2 ^ n := by
  rw [← Int.lt_zpow_iff_log_lt Nat.one_lt_two hv, zpow_neg, ← div_eq_mul_inv,
    div_lt_iff₀ (zpow_pos two_pos _), ← zpow_natCast, ← zpow_add₀ two_ne_zero, add_comm]
  rfl

/-- The logarithms of its two parts give that of a positive fraction up to one. -/
theorem log_cases (hnum : 0 < f.num) (hden : 0 < f.den) :
    let binary : ℤ := (f.num.log2 : ℤ) - (f.den.log2 : ℤ) - 1
    binary ≤ Int.log 2 f.value ∧ Int.log 2 f.value ≤ binary + 1 := by
  intro binary
  have hvalue : 0 < f.value := (num_pos_iff hden).mp hnum
  have hden' : (0 : ℚ) < f.den := by exact_mod_cast hden
  have hnumLow : (2 : ℚ) ^ f.num.log2 ≤ f.num := by exact_mod_cast Nat.log2_self_le hnum.ne'
  have hnumHigh : (f.num : ℚ) < 2 ^ (f.num.log2 + 1) := by exact_mod_cast Nat.lt_log2_self
  have hdenLow : (2 : ℚ) ^ f.den.log2 ≤ f.den := by exact_mod_cast Nat.log2_self_le hden.ne'
  have hdenHigh : (f.den : ℚ) < 2 ^ (f.den.log2 + 1) := by exact_mod_cast Nat.lt_log2_self
  constructor
  · rw [← Int.zpow_le_iff_le_log Nat.one_lt_two hvalue, value, le_div_iff₀ hden']
    calc ((2 : ℕ) : ℚ) ^ binary * f.den
        ≤ (2 : ℚ) ^ binary * 2 ^ (f.den.log2 + 1) := by
          push_cast
          gcongr
      _ = 2 ^ f.num.log2 := by
          rw [← zpow_natCast, ← zpow_natCast, ← zpow_add₀ two_ne_zero]
          congr 1
          omega
      _ ≤ f.num := hnumLow
  · rw [← Int.lt_add_one_iff, ← Int.lt_zpow_iff_log_lt Nat.one_lt_two hvalue, value,
      div_lt_iff₀ hden']
    calc (f.num : ℚ) < 2 ^ (f.num.log2 + 1) := hnumHigh
      _ = (2 : ℚ) ^ (binary + 1 + 1) * 2 ^ f.den.log2 := by
          rw [← zpow_natCast, ← zpow_natCast, ← zpow_add₀ two_ne_zero]
          congr 1
          omega
      _ ≤ ((2 : ℕ) : ℚ) ^ (binary + 1 + 1) * f.den := by
          push_cast
          gcongr

/-- A positive fraction has its leading bit where the search for it ends. -/
theorem exact_eq (hnum : 0 < f.num) (hden : 0 < f.den) :
    let guess : ℤ := (f.num.log2 : ℤ) - (f.den.log2 : ℤ) - 52
    (if (f.scale 2 (-guess)).floor < Nat.pow 2 52 then guess - 1 else guess) =
      Int.log 2 f.value - 52 := by
  intro guess
  have hlog := log_cases hnum hden
  have hfloor : (f.scale 2 (-guess)).floor < Nat.pow 2 52 ↔ Int.log 2 f.value < guess + 52 := by
    rw [floor_lt_iff (den_scale_pos hden Nat.two_pos _), value_scale, Nat.pow_eq]
    exact_mod_cast (log_lt_iff ((num_pos_iff hden).mp hnum) guess 52).symm
  by_cases h : Int.log 2 f.value < guess + 52
  · rw [if_pos (hfloor.mpr h)]
    omega
  · rw [if_neg (mt hfloor.mp h)]
    omega

end Fraction

/-! ## Section 2: Within reach -/

/-- The bits of the number `significand * 2 ^ exponent`. -/
def packed (exponent : ℤ) (significand : ℕ) : ℕ :=
  if significand < 2 ^ 52 then significand
  else (exponent + 1075).toNat * 2 ^ 52 + (significand - 2 ^ 52)

theorem Fraction.toBinary64_eq {f : Fraction} (hnum : 0 < f.num) (hden : 0 < f.den) :
    let e := max (Int.log 2 f.value - 52) (-1074)
    f.toBinary64 = ⟨UInt64.ofNat (min (packed e (f.scale 2 (-e)).round) (2047 * 2 ^ 52))⟩ := by
  have hexact := exact_eq hnum hden
  simp only at hexact
  simp only [toBinary64, if_neg hnum.ne', hexact, packed, Nat.pow_eq]

/-- The value is rounded to `x`: it is no further from it than halfway to its neighbours, and
    nearer than that if the significand is odd. -/
structure Reaches (x : Binary64) (v : ℚ) : Prop where
  low : (4 * x.significand - x.lowQuarters : ℚ) ≤ 4 * (v * 2 ^ (-x.exponent))
  high : 4 * (v * 2 ^ (-x.exponent)) ≤ (4 * x.significand + 2 : ℚ)
  odd : x.significand % 2 = 1 →
    4 * (v * 2 ^ (-x.exponent)) ≠ (4 * x.significand - x.lowQuarters : ℚ) ∧
      4 * (v * 2 ^ (-x.exponent)) ≠ (4 * x.significand + 2 : ℚ)

/-- A number of the format that is neither zero nor infinite, and has no sign. -/
structure IsPositive (x : Binary64) : Prop where
  finite : x.isFinite = true
  unsigned : x.isNegative = false
  nonzero : x.isZero = false

section Parts

variable {x : Binary64}

theorem fractionField_lt (x : Binary64) : x.fractionField < 2 ^ 52 := Nat.mod_lt _ (by decide)

theorem bits_eq (hunsigned : x.isNegative = false) :
    x.bits.toNat = x.exponentField * 2 ^ 52 + x.fractionField := by
  have hlt := x.bits.toNat_lt
  have hsign : x.bits.toNat / 2 ^ 63 ≠ 1 := by simpa [isNegative] using hunsigned
  simp only [exponentField, fractionField, Nat.pow_eq]
  omega

theorem bits_lt (hx : x.IsPositive) : x.bits.toNat < 2047 * 2 ^ 52 := by
  have hlt := x.bits.toNat_lt
  have hfinite : x.exponentField ≠ 2047 := by simpa [isFinite] using hx.finite
  have hfield : x.exponentField < 2 ^ 11 := Nat.mod_lt _ (by decide)
  have hfraction := x.fractionField_lt
  rw [bits_eq hx.unsigned]
  omega

theorem packed_eq (hunsigned : x.isNegative = false) :
    packed x.exponent x.significand = x.bits.toNat := by
  have hfraction := x.fractionField_lt
  rw [bits_eq hunsigned, packed, exponent, significand, Nat.pow_eq]
  by_cases h : x.exponentField = 0
  · simp only [h, if_true, if_pos hfraction]
    omega
  · simp only [h, if_false]
    rw [if_neg (by omega)]
    omega

theorem significand_lt (x : Binary64) : x.significand < 2 ^ 53 := by
  have hfraction := x.fractionField_lt
  rw [significand, Nat.pow_eq]
  split <;> omega

theorem significand_pos (h : x.isZero = false) : 0 < x.significand := by
  have hzero : ¬ (x.exponentField = 0 ∧ x.fractionField = 0) := by simpa [isZero] using h
  rw [significand, Nat.pow_eq]
  split <;> omega

theorem exponent_ge (x : Binary64) : -1074 ≤ x.exponent := by
  rw [exponent]
  split <;> omega

theorem exponent_eq_of_significand_lt (h : x.significand < 2 ^ 52) : x.exponent = -1074 := by
  rw [significand, Nat.pow_eq] at h
  rw [exponent]
  split at h
  · rw [if_pos ‹_›]
  · omega

/-- There is less room below the smallest significand, where the exponent changes. -/
theorem lowQuarters_eq (x : Binary64) :
    x.lowQuarters = if x.significand = 2 ^ 52 ∧ -1074 < x.exponent then 1 else 2 := by
  have hfraction := x.fractionField_lt
  rw [lowQuarters, significand, exponent, Nat.pow_eq]
  simp only [Bool.and_eq_true, decide_eq_true_eq]
  split <;> split <;> first | rfl | (split at * <;> omega)

theorem lowQuarters_le (x : Binary64) : x.lowQuarters ≤ 2 := by
  rw [lowQuarters_eq]
  split <;> decide

/-- What is rounded to a number has its leading bit where the number has it, or one place below
    if the number has the smallest significand. -/
theorem Reaches.exponent_cases (hx : x.IsPositive) {v : ℚ} (h : x.Reaches v) :
    let e := max (Int.log 2 v - 52) (-1074)
    0 < v ∧ (e = x.exponent ∨ e = x.exponent - 1 ∧ x.significand = 2 ^ 52 ∧
      x.lowQuarters = 1 ∧ -1074 < x.exponent ∧ v * 2 ^ (-x.exponent) < 2 ^ 52) := by
  intro e
  have hlow := h.low
  have hhigh := h.high
  have hquarters := x.lowQuarters_eq
  have hpos : (0 : ℚ) < v * 2 ^ (-x.exponent) := by
    have hone : (1 : ℚ) ≤ x.significand := by exact_mod_cast significand_pos hx.nonzero
    have htwo : (x.lowQuarters : ℚ) ≤ 2 := by exact_mod_cast x.lowQuarters_le
    linarith
  have hv : 0 < v := pos_of_mul_pos_left hpos (zpow_pos two_pos _).le
  refine ⟨hv, ?_⟩
  have hlog := Fraction.log_lt_iff hv x.exponent
  have hupper : Int.log 2 v < x.exponent + 53 := by
    have hlt : (x.significand : ℚ) + 1 ≤ 2 ^ 53 := by exact_mod_cast x.significand_lt
    exact_mod_cast (hlog 53).mpr (by linarith)
  have hexponent := x.exponent_ge
  -- only next to the smallest significand can the value have a lower leading bit
  by_cases hsmallest : x.significand = 2 ^ 52 ∧ -1074 < x.exponent
  · rw [if_pos hsmallest] at hquarters
    rw [hquarters, hsmallest.1] at hlow
    push_cast at hlow
    have hlower : ¬ Int.log 2 v < x.exponent + 51 := by
      exact_mod_cast mt (hlog 51).mp (by linarith)
    by_cases hbelow : Int.log 2 v < x.exponent + 52
    · exact .inr ⟨by omega, hsmallest.1, hquarters, hsmallest.2,
        (hlog 52).mp (by exact_mod_cast hbelow)⟩
    · exact .inl (by omega)
  · rw [if_neg hsmallest] at hquarters
    rw [hquarters] at hlow
    -- the lowest exponent is taken for all smaller values
    by_cases hsub : x.exponent = -1074
    · exact .inl (by omega)
    · have hnormal := mt exponent_eq_of_significand_lt hsub
      have hlarge : (2 ^ 52 + 1 : ℚ) ≤ x.significand := by
        have : 2 ^ 52 + 1 ≤ x.significand := by omega
        exact_mod_cast this
      have hlower : ¬ Int.log 2 v < x.exponent + 52 := by
        refine mt (fun hlt => (hlog 52).mp (by exact_mod_cast hlt)) (not_lt.mpr ?_)
        push_cast at hlow
        linarith
      exact .inl (by omega)

/-- Rounding to the exponent of `x` gives the significand of `x`. -/
theorem Reaches.round_eq {f : Fraction} (hden : 0 < f.den) (h : x.Reaches f.value) :
    (f.scale 2 (-x.exponent)).round = x.significand := by
  have hlow := h.low
  have hhigh := h.high
  have htwo : (x.lowQuarters : ℚ) ≤ 2 := by exact_mod_cast x.lowQuarters_le
  refine Fraction.round_eq (Fraction.den_scale_pos hden Nat.two_pos _) ?_ ?_ fun hodd => ?_ <;>
    rw [Fraction.value_scale] <;> push_cast
  · linarith
  · linarith
  · -- the significand is not the smallest one, which is even
    have hquarters : x.lowQuarters = 2 := by
      rw [x.lowQuarters_eq]
      exact if_neg fun hsmallest => by omega
    obtain ⟨hne, hne'⟩ := h.odd hodd
    rw [hquarters] at hne
    push_cast at hne
    exact ⟨fun heq => hne (by linarith), fun heq => hne' (by linarith)⟩

/-- Rounding to one place less gives twice the smallest significand. -/
theorem Reaches.round_eq_of_below {f : Fraction} (hden : 0 < f.den) (h : x.Reaches f.value)
    (hsmallest : x.significand = 2 ^ 52) (hquarters : x.lowQuarters = 1)
    (hbelow : f.value * 2 ^ (-x.exponent) < 2 ^ 52) :
    (f.scale 2 (-(x.exponent - 1))).round = 2 ^ 53 := by
  have hlow := h.low
  rw [hsmallest, hquarters] at hlow
  push_cast at hlow
  have hvalue : (f.scale 2 (-(x.exponent - 1))).value = f.value * 2 ^ (-x.exponent) * 2 := by
    rw [Fraction.value_scale, neg_sub, sub_eq_add_neg, zpow_add₀ (by norm_num)]
    push_cast
    ring
  refine Fraction.round_eq (Fraction.den_scale_pos hden Nat.two_pos _) ?_ ?_ (by norm_num) <;>
    rw [hvalue] <;> push_cast <;> linarith

/-- What is within reach of a positive number is rounded to it. -/
theorem Fraction.toBinary64_of_reaches {f : Fraction} (hden : 0 < f.den) (hx : x.IsPositive)
    (h : x.Reaches f.value) : f.toBinary64 = x := by
  obtain ⟨hvalue, hcases⟩ := h.exponent_cases hx
  have hpacked : packed (max (Int.log 2 f.value - 52) (-1074))
      (f.scale 2 (-max (Int.log 2 f.value - 52) (-1074))).round = x.bits.toNat := by
    rw [← packed_eq hx.unsigned]
    rcases hcases with he | ⟨he, hsmallest, hquarters, hexponent, hbelow⟩
    · rw [he, h.round_eq hden]
    · rw [he, h.round_eq_of_below hden hsmallest hquarters hbelow, hsmallest, packed, packed]
      simp only [Nat.lt_irrefl, if_false]
      rw [if_neg (by decide)]
      omega
  rw [toBinary64_eq ((num_pos_iff hden).mpr hvalue) hden]
  simp only [hpacked, Nat.min_eq_left (bits_lt hx).le, UInt64.ofNat_toNat]

end Parts

/-! ## Section 3: Quotients -/

theorem isNegative_ofNat {n : ℕ} (h : n < 2 ^ 63) : isNegative ⟨UInt64.ofNat n⟩ = false := by
  have hbits : (UInt64.ofNat n).toNat = n := UInt64.toNat_ofNat_of_lt (lt_trans h (by decide))
  have hzero : n / Nat.pow 2 63 = 0 := Nat.div_eq_of_lt h
  rw [isNegative, hbits, hzero]
  rfl

theorem isFinite_ofNat {n : ℕ} (h : n < 2047 * 2 ^ 52) : isFinite ⟨UInt64.ofNat n⟩ = true := by
  have hbits : (UInt64.ofNat n).toNat = n := UInt64.toNat_ofNat_of_lt (lt_trans h (by decide))
  have hne : n / Nat.pow 2 52 % Nat.pow 2 11 ≠ 2047 := by
    rw [Nat.pow_eq, Nat.pow_eq]
    omega
  rw [isFinite, exponentField, hbits]
  exact bne_iff_ne.mpr hne

/-- A quotient of natural numbers has no sign. -/
theorem isNegative_ofQuotient (num den : ℕ) : (ofQuotient num den).isNegative = false := by
  rw [ofQuotient]
  split
  · rfl
  · rw [Fraction.toBinary64]
    split
    · rfl
    · exact isNegative_ofNat (lt_of_le_of_lt (Nat.min_le_right _ _) (by norm_num))

/-- A quotient of at most one is finite. -/
theorem isFinite_ofQuotient {num den : ℕ} (h : num ≤ den) :
    (ofQuotient num den).isFinite = true := by
  rw [ofQuotient]
  rcases Nat.eq_zero_or_pos den with rfl | hden
  · rw [if_pos rfl]
    decide
  rw [if_neg hden.ne']
  rcases Nat.eq_zero_or_pos num with rfl | hnum
  · rw [Fraction.toBinary64, if_pos rfl]
    decide
  let f : Fraction := ⟨num, den⟩
  let e := max (Int.log 2 f.value - 52) (-1074)
  have hvalue : 0 < f.value := (Fraction.num_pos_iff hden).mp hnum
  have hlog : Int.log 2 f.value < 1 := by
    have hone : f.value ≤ (1 : ℕ) := (Fraction.value_le_iff hden).mpr (by simpa [f] using h)
    rw [← Int.lt_zpow_iff_log_lt Nat.one_lt_two hvalue]
    exact lt_of_le_of_lt hone (by norm_num)
  have hround : (f.scale 2 (-e)).round ≤ 2 ^ 53 := by
    have hscaled : f.value * 2 ^ (-e) < 2 ^ 53 :=
      (Fraction.log_lt_iff hvalue e 53).mp (by push_cast; omega)
    obtain ⟨hnear, -, -⟩ := Fraction.round_near (f := f.scale 2 (-e))
      (Fraction.den_scale_pos hden Nat.two_pos _)
    rw [Fraction.value_scale, Nat.cast_ofNat] at hnear
    have hlt : ((f.scale 2 (-e)).round : ℚ) < 2 ^ 53 + 1 := by linarith
    exact Nat.lt_succ_iff.mp (by exact_mod_cast hlt)
  have hpacked : packed e (f.scale 2 (-e)).round < 2047 * 2 ^ 52 := by
    rw [packed]
    split <;> omega
  rw [Fraction.toBinary64_eq hnum hden]
  exact isFinite_ofNat (lt_of_le_of_lt (Nat.min_le_left _ _) hpacked)

end Reconcile.Binary64
