import Reconcile.Proofs.Decimal.Plain
import Reconcile.Proofs.Invoice.Sources

/-! # Numbers and their writing

    A transcribed line has each of its numbers twice, as it was written and as a value.  On a line
    that was read from a document the value is what the writing says as an amount.  On a line that
    was keyed or booked it is the other way round: the writing is the plain notation of the value,
    and says that value again.  So the two never part, whichever way a line came in.

    Main statement: `numbers_agree_of_transcribe`. -/

namespace Reconcile

open Document

/-! ## Section 1: What was written and its value -/

namespace Document.NumberField

/-- The value is what the writing says as an amount; where nothing is written or it says no amount
    there is none. -/
def IsRead (f : NumberField) : Prop := f.value = f.raw.bind Decimal.amount?

/-- The writing is the plain notation of the value, and is read as that value again, with the same
    digits and scale unless the scale is negative.  Both are there or neither. -/
structure IsPrinted (f : NumberField) : Prop where
  raw_eq : f.raw = f.value.map Decimal.plain
  reads_back : ∀ d, f.value = some d → ∃ e, f.raw.bind Decimal.amount? = some e ∧
    e.value = d.value ∧ (0 ≤ d.scale → e = d)

theorem isRead_numberField (ms : Members) (names : List String) :
    (numberField ms names).IsRead := by
  unfold IsRead numberField
  rcases (names.findSome? (ms.lookup ·)).bind rawNumber? with _ | raw <;> rfl

theorem isPrinted_of_value (x : Option Decimal) : IsPrinted ⟨x.map Decimal.plain, x⟩ := by
  refine ⟨rfl, ?_⟩
  rintro d rfl
  exact ⟨d.unscaled, Decimal.amount?_plain d, d.value_unscaled, Decimal.unscaled_of_nonneg⟩

end Document.NumberField

/-! ## Section 2: Lines -/

namespace Line

/-- Quantity, unit price and total. -/
def numbers (l : Line) : List NumberField :=
  [⟨l.rawQuantity, l.quantity⟩, ⟨l.rawUnitPrice, l.unitPrice⟩, ⟨l.rawLineTotal, l.lineTotal⟩]

theorem forall_numbers {l : Line} {p : NumberField → Prop} :
    (∀ f ∈ l.numbers, p f) ↔ p ⟨l.rawQuantity, l.quantity⟩ ∧ p ⟨l.rawUnitPrice, l.unitPrice⟩ ∧
      p ⟨l.rawLineTotal, l.lineTotal⟩ := by
  simp [numbers]

/-- The numbers of a line agree with their writing, in the way of its origin. -/
def NumbersAgree (l : Line) : Prop :=
  ∀ f ∈ l.numbers, if l.origin = .ocr then f.IsRead else f.IsPrinted

theorem numbersAgree_of_ocr {l : Line} (horigin : l.origin = .ocr)
    (h : ∀ f ∈ l.numbers, f.IsRead) : l.NumbersAgree := by
  intro f hf
  rw [if_pos horigin]
  exact h f hf

theorem numbersAgree_of_other {l : Line} (horigin : l.origin ≠ .ocr)
    (h : ∀ f ∈ l.numbers, f.IsPrinted) : l.NumbersAgree := by
  intro f hf
  rw [if_neg horigin]
  exact h f hf

end Line

open Line NumberField

/-- Whatever the currency of the whole is, it has nothing to do with the numbers. -/
theorem LegacyLine.numbersAgree_toLine (line : LegacyLine) (invoiceId : String) (index : Nat)
    (currency : Option String) :
    ((line.sourceLine invoiceId index).toLine currency).NumbersAgree := by
  cases line with
  | keyed line =>
    refine numbersAgree_of_other (by simp [SourceLine.toLine, sourceLine, KeyedLine.sourceLine]) ?_
    exact forall_numbers.mpr
      ⟨isPrinted_of_value _, isPrinted_of_value _, isPrinted_of_value _⟩
  | item ms =>
    refine numbersAgree_of_ocr rfl ?_
    exact forall_numbers.mpr
      ⟨isRead_numberField ms _, isRead_numberField ms _, isRead_numberField ms _⟩
  | booked creditNote line =>
    refine numbersAgree_of_other (by simp [SourceLine.toLine, sourceLine, BookedLine.sourceLine]) ?_
    exact forall_numbers.mpr
      ⟨isPrinted_of_value _, isPrinted_of_value _, isPrinted_of_value _⟩

/-! ## Section 3: Transcriptions -/

theorem LegacyInvoice.numbersAgree_of_mem_sourceLines {i : LegacyInvoice} {s : SourceLine}
    (h : s ∈ i.sourceLines) (currency : Option String) : (s.toLine currency).NumbersAgree := by
  obtain ⟨line, index, rfl⟩ := exists_legacyLine_of_mem_sourceLines h
  exact line.numbersAgree_toLine i.link.id index currency

namespace Backfill

/-- On every line of a transcribed invoice, quantity, unit price and total agree with what was
    written for them. -/
theorem numbers_agree_of_transcribe {i : LegacyInvoice} {t : Transcription}
    (h : transcribe i = .ok t) : ∀ l ∈ t.lines, l.NumbersAgree := by
  intro l hl
  rw [lines_of_transcribe h] at hl
  obtain ⟨s, hs, rfl⟩ := List.mem_map.mp hl
  exact LegacyInvoice.numbersAgree_of_mem_sourceLines hs t.currency

/-- Five hundredths owed back, zero with three decimal places, and twelve thousands. -/
def awkwardLine : KeyedLine :=
  ⟨"l-1", 1, none, some ⟨-5, 2⟩, none, some ⟨0, 3⟩, some ⟨12, -3⟩, none, none, none⟩

def awkwardScan : ScannedInvoice :=
  ⟨"inv-1", "org", some "loc", none, none, none, false, none, [awkwardLine], none, ⟨0, 0⟩⟩

theorem numbers_agree_of_transcribe_awkward :
    ∃ t l, transcribe (.ocr awkwardScan) = .ok t ∧ t.lines = [l] ∧
      l.numbers = [⟨some "-0.05", some ⟨-5, 2⟩⟩, ⟨some "0.000", some ⟨0, 3⟩⟩,
        ⟨some "12000", some ⟨12, -3⟩⟩] ∧ l.NumbersAgree := by
  have htranscribe : transcribe (.ocr awkwardScan) = .ok ⟨.manual, some "inv-1", none, "org", none,
      none, none, none, [(awkwardLine.sourceLine 0).toLine none]⟩ := rfl
  have hnumbers : ((awkwardLine.sourceLine 0).toLine none).numbers =
      [⟨some "-0.05", some ⟨-5, 2⟩⟩, ⟨some "0.000", some ⟨0, 3⟩⟩,
        ⟨some "12000", some ⟨12, -3⟩⟩] := by decide +kernel
  exact ⟨_, _, htranscribe, rfl, hnumbers,
    numbers_agree_of_transcribe htranscribe _ (List.mem_singleton.mpr rfl)⟩

end Backfill

end Reconcile
