import Reconcile.Proofs.Quality.Rules
import Reconcile.WrittenLine

/-! # What a good line guarantees

    A line is good in one of two ways.  It is a supply: so much of a known unit, with a price, and
    paid for unless it is credited.  Or it is a credit that has no quantity and therefore no unit
    price.  Either way its numbers were read without complaint, and its currency is known: it is a
    code if the line names one, and otherwise whatever the header names.

    Main statement: `grade_resolve_eq_ok_iff`. -/

namespace Reconcile

open Currency

/-! ## Section 1: Units -/

/-- What is measured is known exactly for the labels of the table. -/
theorem UnitLabel.dimension_ne_unknown_iff (label : String) :
    dimension label ≠ .unknown ↔ label ∈ synonyms.map (·.2) := by
  have hweights : ["KG", "G"] ⊆ synonyms.map (·.2) := by decide
  have hvolumes : ["L", "ML"] ⊆ synonyms.map (·.2) := by decide
  unfold dimension
  split
  · rename_i h
    simp [hweights h]
  · split
    · rename_i h
      simp [hvolumes h]
    · split <;> simp_all

theorem ResolvedUnit.dimension_ofLabel?_ne_unknown_iff {label : Option String} :
    (ofLabel? label).dimension ≠ .unknown ↔ ∃ l ∈ label, l ∈ UnitLabel.synonyms.map (·.2) := by
  rcases label with _ | label
  · simp [ofLabel?]
  · simpa [ofLabel?] using UnitLabel.dimension_ne_unknown_iff label

/-! ## Section 2: Good lines -/

namespace WrittenLine

variable {w : WrittenLine}

/-- The unit that the line names, or else the one that its description tells, is one of the labels
    of the table. -/
def HasKnownUnit (w : WrittenLine) : Prop :=
  ∃ label ∈ (w.unit.bind UnitLabel.canonical?).or (Measure.label? w.description),
    label ∈ UnitLabel.synonyms.map (·.2)

/-- The line names a currency, which is a code, or it names none and the header does. -/
def HasCurrency (w : WrittenLine) : Prop :=
  (∃ code ∈ normalize? w.currency, IsCode code) ∨
    normalize? w.currency = none ∧ normalize? w.headerCurrency ≠ none

/-- So much of a known unit, with a price; nothing is paid back unless the line is credited. -/
structure IsSupply (w : WrittenLine) : Prop where
  quantity : ∃ q ∈ w.quantity, 0 < q.value
  unit : w.HasKnownUnit
  price : w.unitPrice ≠ none ∨ w.lineTotal ≠ none
  total : w.adjustment ≠ some .credited → ∀ t ∈ w.lineTotal, 0 ≤ t.value

/-- A credit without a quantity, and so without a unit price. -/
structure IsCredit (w : WrittenLine) : Prop where
  adjustment : w.adjustment = some .credited
  quantity : w.quantity = none
  unitPrice : w.unitPrice = none

theorem dimension_facts_ne_unknown_iff : w.facts.dimension ≠ .unknown ↔ w.HasKnownUnit :=
  ResolvedUnit.dimension_ofLabel?_ne_unknown_iff

theorem adjustment_facts_eq_credited_iff :
    w.facts.adjustment = .credited ↔ w.adjustment = some .credited := by
  have hfacts : w.facts.adjustment = w.adjustment.getD .plain := rfl
  rw [hfacts]
  rcases w.adjustment with _ | adjustment <;> simp

/-- The numbers of the line were read without complaint. -/
def IsRead (w : WrittenLine) : Prop := w.notes.failed = false ∧ w.notes.warnings = []

/-! ## Section 3: The two ways to be good -/

theorem isRead_iff : w.IsRead ↔ ¬ Flag.Rule w.facts .failedNumericParse := by
  have hrule : Flag.Rule w.facts .failedNumericParse ↔
      w.notes.failed = true ∨ w.notes.warnings ≠ [] := Iff.rfl
  rw [hrule, not_or, not_not, Bool.not_eq_true]
  rfl

theorem hasCurrency_iff : w.HasCurrency ↔
    ¬ Flag.Rule w.facts .invalidCurrencyCode ∧ ¬ Flag.Rule w.facts .missingCurrencyCode := by
  have hline : w.facts.lineCurrency = normalize? w.currency := rfl
  have hheader : w.facts.headerCurrency = normalize? w.headerCurrency := rfl
  simp only [HasCurrency, Flag.Rule, hline, hheader]
  rcases normalize? w.currency with _ | code <;> simp

/-- A line with a quantity that no other rule finds fault with is a supply. -/
theorem isSupply_of_rules {q : Decimal} (hq : w.quantity = some q)
    (h : ∀ flag : Flag, ¬ flag.Rule w.facts) : w.IsSupply := by
  have hpositive : 0 < q.value :=
    not_le.mp fun hle => h .nonPositiveQuantity ⟨q, hq, hle⟩
  have hquantity : ∃ q ∈ w.quantity, 0 < q.value := ⟨q, hq, hpositive⟩
  refine ⟨hquantity, ?_, ?_, ?_⟩
  · exact dimension_facts_ne_unknown_iff.mp fun hdim => h .unknownUnitCategory ⟨hquantity, hdim⟩
  · rw [← not_and_or]
    exact fun hprice => h .missingPriceFields ⟨hquantity, hprice⟩
  · intro hcredited t ht
    by_contra hnegative
    exact h .negativeLineTotalNotCredited
      ⟨⟨t, ht, not_le.mp hnegative⟩, mt adjustment_facts_eq_credited_iff.mp hcredited⟩

/-- A line without a quantity that no other rule finds fault with is a credit. -/
theorem isCredit_of_rules (hq : w.quantity = none) (h : ∀ flag : Flag, ¬ flag.Rule w.facts) :
    w.IsCredit := by
  refine ⟨?_, hq, ?_⟩
  · by_contra hcredited
    exact h .missingQuantity ⟨hq, mt adjustment_facts_eq_credited_iff.mp hcredited⟩
  · by_contra hprice
    exact h .unitPriceWithoutQuantity ⟨hprice, .inl hq⟩

theorem IsSupply.not_rule (h : w.IsSupply) :
    ¬ (w.quantity = none ∨ ∃ q ∈ w.quantity, q.value ≤ 0) ∧
      ¬ (w.unitPrice = none ∧ w.lineTotal = none) ∧
      ¬ ((∃ t ∈ w.lineTotal, t.value < 0) ∧ w.facts.adjustment ≠ .credited) := by
  obtain ⟨q, hq, hpositive⟩ := h.quantity
  rw [Option.mem_def] at hq
  refine ⟨?_, ?_, ?_⟩
  · rintro (hnone | ⟨q', hq', hnonpos⟩)
    · cases hq.symm.trans hnone
    · obtain rfl : q = q' := Option.some.inj (hq.symm.trans hq')
      exact absurd hpositive (not_lt.mpr hnonpos)
  · exact fun hnone => h.price.elim (· hnone.1) (· hnone.2)
  · rintro ⟨⟨t, ht, hnegative⟩, hcredited⟩
    have hnonneg := h.total (mt adjustment_facts_eq_credited_iff.mpr hcredited) t ht
    exact absurd hnegative (not_lt.mpr hnonneg)

theorem IsCredit.not_exists_quantity (h : w.IsCredit) (p : Decimal → Prop) :
    ¬ ∃ q ∈ w.quantity, p q := by
  rintro ⟨q, hq, -⟩
  cases h.quantity.symm.trans hq

/-- No rule fires exactly if the numbers were read, the currency is known, and the line is a supply
    or a credit. -/
theorem forall_not_rule_iff : (∀ flag : Flag, ¬ flag.Rule w.facts) ↔
    w.IsRead ∧ w.HasCurrency ∧ (w.IsSupply ∨ w.IsCredit) := by
  constructor
  · intro h
    refine ⟨isRead_iff.mpr (h _), hasCurrency_iff.mpr ⟨h _, h _⟩, ?_⟩
    -- whether there is a quantity decides which of the two it is
    rcases hq : w.quantity with _ | q
    · exact .inr (isCredit_of_rules hq h)
    · exact .inl (isSupply_of_rules hq h)
  · rintro ⟨hread, hcurrency, hsupply | hcredit⟩ flag
    · -- the rules that a supply could break, each answered by one part of it
      obtain ⟨hquantity, hprice, htotal⟩ := hsupply.not_rule
      cases flag with
      | failedNumericParse => exact isRead_iff.mp hread
      | missingQuantity => exact fun h => hquantity (.inl h.1)
      | nonPositiveQuantity => exact fun h => hquantity (.inr h)
      | negativeLineTotalNotCredited => exact htotal
      | unknownUnitCategory =>
        exact fun h => dimension_facts_ne_unknown_iff.mpr hsupply.unit h.2
      | invalidCurrencyCode => exact (hasCurrency_iff.mp hcurrency).1
      | missingCurrencyCode => exact (hasCurrency_iff.mp hcurrency).2
      | unitPriceWithoutQuantity => exact fun h => hquantity h.2
      | missingPriceFields => exact fun h => hprice h.2
    · -- the rules exempt a credit, or ask for a quantity or a unit price, which it has not
      have hcredited := adjustment_facts_eq_credited_iff.mpr hcredit.adjustment
      have hquantity := hcredit.not_exists_quantity
      cases flag with
      | failedNumericParse => exact isRead_iff.mp hread
      | missingQuantity => exact fun h => h.2 hcredited
      | nonPositiveQuantity => exact hquantity _
      | negativeLineTotalNotCredited => exact fun h => h.2 hcredited
      | unknownUnitCategory => exact fun h => hquantity _ h.1
      | invalidCurrencyCode => exact (hasCurrency_iff.mp hcurrency).1
      | missingCurrencyCode => exact (hasCurrency_iff.mp hcurrency).2
      | unitPriceWithoutQuantity => exact fun h => h.1 hcredit.unitPrice
      | missingPriceFields => exact fun h => hquantity _ h.1

/-! ## Section 4: The guarantee -/

/-- A line is good if and only if its numbers were read without complaint, its currency is known,
    and it is a supply or a credit.  A good line has a currency: the one that it names, or else
    that of the header. -/
theorem grade_resolve_eq_ok_iff (w : WrittenLine) :
    (w.resolve.grade = .ok ↔ w.IsRead ∧ w.HasCurrency ∧ (w.IsSupply ∨ w.IsCredit)) ∧
    (w.resolve.grade = .ok → ∃ code, w.resolve.currency = some code ∧
      (normalize? w.currency = some code ∨
        normalize? w.currency = none ∧ normalize? w.headerCurrency = some code)) := by
  have hgrade : w.resolve.grade = .ok ↔ w.IsRead ∧ w.HasCurrency ∧ (w.IsSupply ∨ w.IsCredit) := by
    rw [← forall_not_rule_iff, ← LineFacts.reasons_eq_nil_iff]
    exact LineFacts.grade_assess_eq_ok_iff
  refine ⟨hgrade, fun hok => ?_⟩
  have hcurrency : w.resolve.currency =
      (normalize? w.currency).or (normalize? w.headerCurrency) := rfl
  rw [hcurrency]
  rcases (hgrade.mp hok).2.1 with ⟨code, hcode, -⟩ | ⟨hnone, hheader⟩
  · rw [Option.mem_def] at hcode
    exact ⟨code, by rw [hcode]; rfl, .inl hcode⟩
  · obtain ⟨code, hcode⟩ := Option.ne_none_iff_exists'.mp hheader
    exact ⟨code, by rw [hnone, hcode]; rfl, .inr ⟨hnone, hcode⟩⟩

/-- Two kilograms, with a price, in the currency of the header. -/
def pricedLine : WrittenLine :=
  ⟨"Ham", some "kgs", some ⟨20, 1⟩, some ⟨1250, 2⟩, none, none, some "aud", none, .clean⟩

theorem grade_resolve_eq_ok_priced :
    pricedLine.resolve.grade = .ok ∧ ∃ code, pricedLine.resolve.currency = some code ∧
      (normalize? pricedLine.currency = some code ∨
        normalize? pricedLine.currency = none ∧
          normalize? pricedLine.headerCurrency = some code) := by
  have hok : pricedLine.resolve.grade = .ok := by decide +kernel
  exact ⟨hok, (grade_resolve_eq_ok_iff pricedLine).2 hok⟩

end WrittenLine

end Reconcile
