import Reconcile.Currency
import Reconcile.Invoice.Line

/-! # The quality gate

    A line is graded by nine rules, each of which looks at the line on its own.  A rule that
    fires gives its code as a reason; what the reader of the numbers complained about is added
    in its own words.  A line without any reason is good. -/

namespace Reconcile

/-! ## Section 1: What is graded -/

/-- What happened when the numbers of a line were read. -/
structure NumericNotes where
  failed : Bool
  warnings : List String
deriving DecidableEq, Repr

namespace NumericNotes

/-- Nothing went wrong. -/
def clean : NumericNotes := ⟨false, []⟩

def hasProblems (n : NumericNotes) : Bool := n.failed || !n.warnings.isEmpty

end NumericNotes

/-- What the gate looks at; the currencies are in normal form. -/
structure LineFacts where
  quantity : Option Decimal
  unitPrice : Option Decimal
  lineTotal : Option Decimal
  dimension : Dimension
  adjustment : Adjustment
  lineCurrency : Option String
  headerCurrency : Option String
  notes : NumericNotes
deriving DecidableEq, Repr

namespace LineFacts

def hasPositiveQuantity (x : LineFacts) : Bool := x.quantity.any Decimal.isPositive

def isCredited (x : LineFacts) : Bool := x.adjustment = .credited

end LineFacts

/-! ## Section 2: The rules -/

/-- What can be wrong with a line. -/
inductive Flag where
  | failedNumericParse
  | missingQuantity
  | nonPositiveQuantity
  | negativeLineTotalNotCredited
  | unknownUnitCategory
  | invalidCurrencyCode
  | missingCurrencyCode
  | unitPriceWithoutQuantity
  | missingPriceFields
deriving DecidableEq, Repr

instance : Coded Flag where
  what := "warn reason"
  all := [.failedNumericParse, .missingQuantity, .nonPositiveQuantity,
    .negativeLineTotalNotCredited, .unknownUnitCategory, .invalidCurrencyCode,
    .missingCurrencyCode, .unitPriceWithoutQuantity, .missingPriceFields]
  code
    | .failedNumericParse => "FAILED_NUMERIC_PARSE"
    | .missingQuantity => "MISSING_QUANTITY"
    | .nonPositiveQuantity => "NON_POSITIVE_QUANTITY"
    | .negativeLineTotalNotCredited => "NEGATIVE_LINE_TOTAL_NOT_CREDITED"
    | .unknownUnitCategory => "UNKNOWN_UNIT_CATEGORY"
    | .invalidCurrencyCode => "INVALID_CURRENCY_CODE"
    | .missingCurrencyCode => "MISSING_CURRENCY_CODE"
    | .unitPriceWithoutQuantity => "UNIT_PRICE_WITHOUT_QUANTITY"
    | .missingPriceFields => "MISSING_PRICE_FIELDS"

/-- The rule of each flag. -/
def Flag.fires (x : LineFacts) : Flag → Bool
  | .failedNumericParse => x.notes.hasProblems
  | .missingQuantity => x.quantity.isNone && !x.isCredited
  | .nonPositiveQuantity => x.quantity.any (!·.isPositive)
  | .negativeLineTotalNotCredited => x.lineTotal.any Decimal.isNegative && !x.isCredited
  | .unknownUnitCategory => x.hasPositiveQuantity && x.dimension = .unknown
  | .invalidCurrencyCode => x.lineCurrency.any (!Currency.isValid ·)
  | .missingCurrencyCode => x.lineCurrency.isNone && x.headerCurrency.isNone
  | .unitPriceWithoutQuantity => x.unitPrice.isSome && !x.hasPositiveQuantity
  | .missingPriceFields => x.hasPositiveQuantity && x.unitPrice.isNone && x.lineTotal.isNone

/-! ## Section 3: The verdict -/

/-- The members of a list without repetitions, each where it is met first. -/
def distinct : List String → List String
  | [] => []
  | x :: xs => x :: (distinct xs).filter (· ≠ x)

/-- Dropping repetitions keeps all members. -/
theorem mem_distinct {x : String} {xs : List String} : x ∈ distinct xs ↔ x ∈ xs := by
  induction xs with
  | nil => simp [distinct]
  | cons y ys ih =>
    by_cases hxy : x = y
    · simp [distinct, hxy]
    · simp [distinct, hxy, ih]

structure Verdict where
  grade : Grade
  reasons : List String
deriving DecidableEq, Repr

namespace LineFacts

/-- The flags whose rule fires, in the order of the rules. -/
def flags (x : LineFacts) : List Flag := (Coded.all : List Flag).filter (Flag.fires x)

/-- The codes of the flags and then the complaints about the numbers. -/
def reasons (x : LineFacts) : List String :=
  distinct (x.flags.map Coded.code ++ x.notes.warnings)

/-- A code is among the reasons if its rule fires, or if it happens to be a complaint. -/
theorem code_mem_reasons_iff {x : LineFacts} {flag : Flag} :
    Coded.code flag ∈ x.reasons ↔ flag.fires x = true ∨ Coded.code flag ∈ x.notes.warnings := by
  have hall : ∀ flag : Flag, flag ∈ (Coded.all : List Flag) := by
    intro flag
    cases flag <;> decide
  have hcode : ∀ flag other : Flag, Coded.code flag = Coded.code other → flag = other := by
    intro flag other
    cases flag <;> cases other <;> decide
  rw [reasons, mem_distinct, List.mem_append, List.mem_map]
  refine or_congr_left ⟨?_, fun h => ⟨flag, List.mem_filter.mpr ⟨hall flag, h⟩, rfl⟩⟩
  rintro ⟨other, hother, hsame⟩
  rw [← hcode other flag hsame]
  exact (List.mem_filter.mp hother).2

/-- The grade of a line and the reasons for it. -/
def assess (x : LineFacts) : Verdict :=
  ⟨if x.reasons.isEmpty then .ok else .warn, x.reasons⟩

end LineFacts

end Reconcile
