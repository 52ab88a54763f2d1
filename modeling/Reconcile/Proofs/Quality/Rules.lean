import Mathlib.Data.Sign.Basic
import Reconcile.Proofs.Decimal.Sign
import Reconcile.Quality

/-! # The rules of the quality gate

    What each of the nine rules asks of a line is said here in terms of the values of its numbers
    and not of their digits.  The gate gives the codes of the rules that fire, in their order, and
    then the complaints about the numbers, each text where it is met first; a line is good if there
    is nothing to give.  So the gate cannot tell numbers of the same sign apart.

    Main statement: `assess_eq_rules`. -/

namespace Reconcile

/-! ## Section 1: What the rules ask -/

/-- A code is three capital letters. -/
def Currency.IsCode (code : String) : Prop :=
  code.length = 3 ∧ ∀ c ∈ code.toList, 'A' ≤ c ∧ c ≤ 'Z'

theorem Currency.isValid_iff {code : String} : isValid code = true ↔ IsCode code := by
  simp [isValid, IsCode, isCapital]

namespace Flag

/-- What the rule of a flag asks of a line. -/
def Rule (x : LineFacts) : Flag → Prop
  | .failedNumericParse => x.notes.failed = true ∨ x.notes.warnings ≠ []
  | .missingQuantity => x.quantity = none ∧ x.adjustment ≠ .credited
  | .nonPositiveQuantity => ∃ q ∈ x.quantity, q.value ≤ 0
  | .negativeLineTotalNotCredited => (∃ t ∈ x.lineTotal, t.value < 0) ∧ x.adjustment ≠ .credited
  | .unknownUnitCategory => (∃ q ∈ x.quantity, 0 < q.value) ∧ x.dimension = .unknown
  | .invalidCurrencyCode => ∃ code ∈ x.lineCurrency, ¬ Currency.IsCode code
  | .missingCurrencyCode => x.lineCurrency = none ∧ x.headerCurrency = none
  | .unitPriceWithoutQuantity =>
    x.unitPrice ≠ none ∧ (x.quantity = none ∨ ∃ q ∈ x.quantity, q.value ≤ 0)
  | .missingPriceFields =>
    (∃ q ∈ x.quantity, 0 < q.value) ∧ x.unitPrice = none ∧ x.lineTotal = none

variable {x : LineFacts} {flag : Flag}

theorem hasPositiveQuantity_iff :
    x.hasPositiveQuantity = true ↔ ∃ q ∈ x.quantity, 0 < q.value := by
  rcases hq : x.quantity with _ | q <;>
    simp [LineFacts.hasPositiveQuantity, hq, Decimal.isPositive_iff]

theorem hasPositiveQuantity_eq_false_iff :
    x.hasPositiveQuantity = false ↔ x.quantity = none ∨ ∃ q ∈ x.quantity, q.value ≤ 0 := by
  rw [Bool.eq_false_iff, Ne, hasPositiveQuantity_iff]
  rcases x.quantity with _ | q <;> simp

/-- The gate follows the rules. -/
theorem fires_iff_rule : flag.fires x = true ↔ flag.Rule x := by
  cases flag with
  | failedNumericParse => simp [fires, Rule, NumericNotes.hasProblems]
  | missingQuantity => simp [fires, Rule, LineFacts.isCredited]
  | nonPositiveQuantity =>
    rcases hq : x.quantity with _ | q
    · simp [fires, Rule, hq]
    · simp [fires, Rule, hq, ← Decimal.isPositive_iff, ← not_lt]
  | negativeLineTotalNotCredited =>
    rcases ht : x.lineTotal with _ | t <;>
      simp [fires, Rule, ht, LineFacts.isCredited, Decimal.isNegative_iff]
  | unknownUnitCategory => simp [fires, Rule, hasPositiveQuantity_iff]
  | invalidCurrencyCode =>
    rcases hc : x.lineCurrency with _ | code <;>
      simp [fires, Rule, hc, ← Currency.isValid_iff]
  | missingCurrencyCode => simp [fires, Rule]
  | unitPriceWithoutQuantity =>
    simp [fires, Rule, hasPositiveQuantity_eq_false_iff, Option.isSome_iff_ne_none]
  | missingPriceFields => simp [fires, Rule, hasPositiveQuantity_iff, and_assoc]

instance : Decidable (flag.Rule x) := decidable_of_iff (flag.fires x = true) fires_iff_rule

/-- The flags with their codes, in the order in which the gate gives them. -/
def codes : List (Flag × String) := [
  (.failedNumericParse, "FAILED_NUMERIC_PARSE"),
  (.missingQuantity, "MISSING_QUANTITY"),
  (.nonPositiveQuantity, "NON_POSITIVE_QUANTITY"),
  (.negativeLineTotalNotCredited, "NEGATIVE_LINE_TOTAL_NOT_CREDITED"),
  (.unknownUnitCategory, "UNKNOWN_UNIT_CATEGORY"),
  (.invalidCurrencyCode, "INVALID_CURRENCY_CODE"),
  (.missingCurrencyCode, "MISSING_CURRENCY_CODE"),
  (.unitPriceWithoutQuantity, "UNIT_PRICE_WITHOUT_QUANTITY"),
  (.missingPriceFields, "MISSING_PRICE_FIELDS")]

theorem codes_eq : codes = (Coded.all : List Flag).map fun flag => (flag, Coded.code flag) := rfl

end Flag

/-! ## Section 2: Lists without repetitions -/

theorem distinct_filter (p : String → Bool) (xs : List String) :
    distinct (xs.filter p) = (distinct xs).filter p := by
  induction xs with
  | nil => rfl
  | cons x xs ih =>
    by_cases hx : p x = true
    · rw [List.filter_cons_of_pos hx, distinct, distinct, ih, List.filter_cons_of_pos hx,
        List.filter_filter, List.filter_filter]
      simp only [Bool.and_comm]
    · -- what is dropped for being equal to a text that goes anyway, goes with it
      rw [List.filter_cons_of_neg hx, distinct, ih, List.filter_cons_of_neg hx, List.filter_filter]
      refine List.filter_congr fun y _ => ?_
      by_cases hy : y = x
      · simp [hy, hx]
      · simp [hy]

/-- Repetitions are dropped as the library drops them. -/
theorem distinct_eq_eraseDups (xs : List String) : distinct xs = xs.eraseDups := by
  induction hlength : xs.length using Nat.strong_induction_on generalizing xs with
  | _ n ih =>
    rcases xs with _ | ⟨x, xs⟩
    · rfl
    · -- both keep the first text and go on with the rest without it, which is shorter
      have hshorter : (xs.filter (!· == x)).length < n := by
        have hle := List.length_filter_le (!· == x) xs
        rw [List.length_cons] at hlength
        omega
      rw [List.eraseDups_cons, ← ih _ hshorter _ rfl, distinct_filter, distinct]
      congr 1
      refine List.filter_congr fun y _ => ?_
      by_cases hy : y = x <;> simp [hy]

/-! ## Section 3: Numbers of the same sign -/

/-- Both numbers are missing, or both are there and have the same sign. -/
def SameSign (a b : Option Decimal) : Prop :=
  a.map (SignType.sign ·.value) = b.map (SignType.sign ·.value)

/-- Numbers of the same value have the same sign, whatever their scales. -/
theorem sameSign_of_value_eq {a b : Option Decimal}
    (h : a.map Decimal.value = b.map Decimal.value) : SameSign a b := by
  have hsign : ∀ c : Option Decimal,
      c.map (SignType.sign ·.value) = (c.map Decimal.value).map SignType.sign :=
    fun c => (Option.map_map _ _ _).symm
  rw [SameSign, hsign, hsign, h]

namespace SameSign

variable {a b : Option Decimal} (h : SameSign a b)

include h

theorem eq_none_iff : a = none ↔ b = none := by
  rw [← Option.map_eq_none_iff (f := (SignType.sign ·.value)), h, Option.map_eq_none_iff]

theorem exists_sign_iff (p : SignType → Prop) :
    (∃ d ∈ a, p (SignType.sign d.value)) ↔ ∃ d ∈ b, p (SignType.sign d.value) := by
  have hmap : ∀ c : Option Decimal, (∃ d ∈ c, p (SignType.sign d.value)) ↔
      ∃ s ∈ c.map (SignType.sign ·.value), p s :=
    fun c => Option.exists_mem_map.symm
  rw [hmap, hmap, h]

theorem exists_pos_iff : (∃ d ∈ a, 0 < d.value) ↔ ∃ d ∈ b, 0 < d.value := by
  simpa only [sign_eq_one_iff] using h.exists_sign_iff (· = 1)

theorem exists_neg_iff : (∃ d ∈ a, d.value < 0) ↔ ∃ d ∈ b, d.value < 0 := by
  simpa only [sign_eq_neg_one_iff] using h.exists_sign_iff (· = -1)

theorem exists_nonpos_iff : (∃ d ∈ a, d.value ≤ 0) ↔ ∃ d ∈ b, d.value ≤ 0 := by
  simpa only [sign_nonpos_iff] using h.exists_sign_iff (· ≤ 0)

end SameSign

/-! ## Section 4: Verdicts -/

namespace LineFacts

variable {x : LineFacts} {q p t : Option Decimal}

/-- The line with other numbers. -/
def withNumbers (x : LineFacts) (q p t : Option Decimal) : LineFacts :=
  { x with quantity := q, unitPrice := p, lineTotal := t }

theorem rule_withNumbers_iff (hq : SameSign q x.quantity) (hp : SameSign p x.unitPrice)
    (ht : SameSign t x.lineTotal) (flag : Flag) :
    flag.Rule (x.withNumbers q p t) ↔ flag.Rule x := by
  cases flag with
  | failedNumericParse => rfl
  | missingQuantity => exact and_congr_left' hq.eq_none_iff
  | nonPositiveQuantity => exact hq.exists_nonpos_iff
  | negativeLineTotalNotCredited => exact and_congr_left' ht.exists_neg_iff
  | unknownUnitCategory => exact and_congr_left' hq.exists_pos_iff
  | invalidCurrencyCode => rfl
  | missingCurrencyCode => rfl
  | unitPriceWithoutQuantity =>
    exact and_congr (not_congr hp.eq_none_iff) (or_congr hq.eq_none_iff hq.exists_nonpos_iff)
  | missingPriceFields =>
    exact and_congr hq.exists_pos_iff (and_congr hp.eq_none_iff ht.eq_none_iff)

/-- What fires, and what is complained about, is all that a verdict depends on. -/
theorem assess_congr {y : LineFacts} (hrules : ∀ flag : Flag, flag.Rule y ↔ flag.Rule x)
    (hnotes : y.notes = x.notes) : y.assess = x.assess := by
  have hflags : y.flags = x.flags := by
    refine List.filter_congr fun flag _ => ?_
    rw [Bool.eq_iff_iff, Flag.fires_iff_rule, Flag.fires_iff_rule, hrules]
  rw [assess, assess, reasons, reasons, hflags, hnotes]

theorem assess_withNumbers (hq : SameSign q x.quantity) (hp : SameSign p x.unitPrice)
    (ht : SameSign t x.lineTotal) : (x.withNumbers q p t).assess = x.assess :=
  assess_congr (rule_withNumbers_iff hq hp ht) rfl

theorem reasons_eq (x : LineFacts) :
    x.reasons =
      ((Flag.codes.filter (·.1.Rule x)).map (·.2) ++ x.notes.warnings).eraseDups := by
  -- the table has the flags in the order of the gate, so filtering it filters them
  have hcodes : x.flags.map Coded.code = (Flag.codes.filter (·.1.Rule x)).map (·.2) := by
    rw [Flag.codes_eq, List.filter_map, List.map_map]
    refine congrArg (List.map Coded.code) (List.filter_congr fun flag _ => ?_)
    rw [Bool.eq_iff_iff, Flag.fires_iff_rule]
    simp
  rw [reasons, distinct_eq_eraseDups, hcodes]

theorem grade_assess_eq_ok_iff : x.assess.grade = .ok ↔ x.reasons = [] := by
  rcases hreasons : x.reasons with _ | ⟨r, rs⟩ <;> simp [assess, hreasons]

/-- Complaints make a rule fire too, so that without one that fires there is no reason at all. -/
theorem reasons_eq_nil_iff : x.reasons = [] ↔ ∀ flag : Flag, ¬ flag.Rule x := by
  constructor
  · intro hnil flag hrule
    have hcode : Coded.code flag ∈ x.reasons :=
      code_mem_reasons_iff.mpr (.inl (Flag.fires_iff_rule.mpr hrule))
    rw [hnil] at hcode
    exact List.not_mem_nil hcode
  · intro hnone
    rw [List.eq_nil_iff_forall_not_mem]
    intro r hr
    rw [reasons, mem_distinct, List.mem_append, List.mem_map] at hr
    rcases hr with ⟨flag, hflag, -⟩ | hwarning
    · exact hnone flag (Flag.fires_iff_rule.mp (List.mem_filter.mp hflag).2)
    · exact hnone .failedNumericParse (.inr (List.ne_nil_of_mem hwarning))

/-- The reasons for a verdict are the codes of the rules that fire, in their order, and then the
    complaints, each text where it is met first; the line is good if there are none.  Of its
    numbers only those matter that are there, and their signs, so that numbers of the same value
    give the same verdict. -/
theorem assess_eq_rules (x : LineFacts) :
    x.assess.reasons =
      ((Flag.codes.filter (·.1.Rule x)).map (·.2) ++ x.notes.warnings).eraseDups ∧
    (x.assess.grade = .ok ↔ x.assess.reasons = []) ∧
    (∀ q p t, SameSign q x.quantity → SameSign p x.unitPrice → SameSign t x.lineTotal →
      (x.withNumbers q p t).assess = x.assess) ∧
    ∀ q p t, q.map Decimal.value = x.quantity.map Decimal.value →
      p.map Decimal.value = x.unitPrice.map Decimal.value →
      t.map Decimal.value = x.lineTotal.map Decimal.value →
      (x.withNumbers q p t).assess = x.assess := by
  refine ⟨x.reasons_eq, grade_assess_eq_ok_iff, fun q p t => assess_withNumbers,
    fun q p t hq hp ht => ?_⟩
  exact assess_withNumbers (sameSign_of_value_eq hq) (sameSign_of_value_eq hp)
    (sameSign_of_value_eq ht)

end LineFacts

end Reconcile
