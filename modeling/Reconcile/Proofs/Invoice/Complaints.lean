import Reconcile.Proofs.Invoice.Numbers
import Reconcile.Proofs.Quality.Rules

/-! # Numbers that cannot be read

    A number that is written and gives no value never passes unnoticed.  The line then has a flag
    among its reasons, and behind all flags one complaint for each such number, which quotes what
    was written.  On a line that was read from a document an integer never gives rise to a
    complaint, and a truth value, a list or an object always does.

    Main statements: `exists_unread_of_mem_complaints` for lines of any source, and
    `unread_numbers_surface` for the items of a document. -/

namespace Reconcile

/-! ## Section 1: Codes and complaints -/

namespace Flag

/-- The code of a flag has no other characters than these. -/
def isCodeChar (c : Char) : Bool := c.isUpper || c = '_'

theorem all_isCodeChar (flag : Flag) : (Coded.code flag).toList.all isCodeChar = true := by
  cases flag <;> decide

theorem not_mem_code {flag : Flag} {c : Char} (h : isCodeChar c = false) :
    c ∉ (Coded.code flag).toList := by
  intro hc
  have hcode : isCodeChar c = true := List.all_eq_true.mp flag.all_isCodeChar c hc
  rw [h] at hcode
  cases hcode

theorem code_ne_empty (flag : Flag) : Coded.code flag ≠ "" := by
  cases flag <;> decide

end Flag

namespace Document

/-- The names of the numbers in complaints. -/
def numberLabels : List String := ["quantity", "unitPrice", "lineTotal"]

/-- How a complaint quotes a number. -/
def wording (label raw : String) : String := label ++ ": unparseable '" ++ raw ++ "'"

theorem mem_complaint {label c : String} {f : NumberField} :
    c ∈ complaint label f ↔ ∃ raw, (f.raw = some raw ∧ f.value = none) ∧ c = wording label raw := by
  obtain ⟨_ | raw, _ | value⟩ := f <;> simp [complaint, wording]

theorem wording_ne_empty (label raw : String) : wording label raw ≠ "" := by
  intro h
  simpa [wording] using congrArg String.toList h

/-- A complaint is no code. -/
theorem wording_ne_code (label raw : String) (flag : Flag) : wording label raw ≠ Coded.code flag := by
  intro h
  have hcolon : ':' ∈ (wording label raw).toList := by simp [wording]
  rw [h] at hcolon
  exact Flag.not_mem_code (by decide) hcolon

/-- Complaints about different numbers are different, since their names begin differently. -/
theorem label_eq_of_wording_eq {label label' raw raw' : String} (h : label ∈ numberLabels)
    (h' : label' ∈ numberLabels) (heq : wording label raw = wording label' raw') :
    label = label' := by
  have hhead : ∀ label ∈ numberLabels, ∀ raw : String,
      (wording label raw).toList.head? = label.toList.head? := by
    intro label hlabel raw
    have hne : ∀ label ∈ numberLabels, label.toList ≠ [] := by decide
    simp [wording, List.head?_append_of_ne_nil _ (hne label hlabel)]
  have hinj : ∀ label ∈ numberLabels, ∀ label' ∈ numberLabels,
      label.toList.head? = label'.toList.head? → label = label' := by decide
  -- no two of the names have the same first character
  refine hinj label h label' h' ?_
  rw [← hhead label h raw, heq, hhead label' h' raw']

namespace NumberField

/-- The number was written and gave no value. -/
def IsUnread (f : NumberField) : Prop := f.raw ≠ none ∧ f.value = none

/-- What is said of a number that was written and gave no value. -/
def complaint? (label : String) : NumberField → Option String
  | ⟨some raw, none⟩ => some (wording label raw)
  | _ => none

theorem toList_complaint? (label : String) (f : NumberField) :
    (f.complaint? label).toList = complaint label f := by
  obtain ⟨_ | raw, _ | value⟩ := f <;> rfl

theorem isSome_complaint?_iff (label : String) {f : NumberField} :
    (f.complaint? label).isSome = true ↔ f.IsUnread := by
  obtain ⟨_ | raw, _ | value⟩ := f <;> simp [complaint?, IsUnread]

theorem complaint?_eq_some_iff {label c : String} {f : NumberField} :
    f.complaint? label = some c ↔
      ∃ raw, (f.raw = some raw ∧ f.value = none) ∧ c = wording label raw := by
  rw [← mem_complaint, ← toList_complaint?, Option.mem_toList]

end NumberField

end Document

open Document

namespace Line

/-- This was written for a number of the line and gave no value. -/
def Unread (l : Line) (raw : String) : Prop :=
  (l.rawQuantity = some raw ∧ l.quantity = none) ∨
    (l.rawUnitPrice = some raw ∧ l.unitPrice = none) ∨
    (l.rawLineTotal = some raw ∧ l.lineTotal = none)

/-- One complaint for each number of the line that was written and gave no value, in the order of
    the numbers. -/
def complaints (l : Line) : List String :=
  (numberLabels.zip l.numbers).filterMap fun e => e.2.complaint? e.1

theorem complaints_eq (l : Line) : l.complaints =
    complaint "quantity" ⟨l.rawQuantity, l.quantity⟩ ++
      complaint "unitPrice" ⟨l.rawUnitPrice, l.unitPrice⟩ ++
      complaint "lineTotal" ⟨l.rawLineTotal, l.lineTotal⟩ := by
  simp only [complaints, List.filterMap_eq_flatMap_toList, NumberField.toList_complaint?,
    numberLabels, numbers, List.zip_cons_cons, List.zip_nil_right, List.flatMap_cons,
    List.flatMap_nil, List.append_nil, List.append_assoc]

/-- There is a complaint if and only if some number was written and gave no value. -/
theorem complaints_ne_nil_iff {l : Line} :
    l.complaints ≠ [] ↔ ∃ f ∈ l.numbers, f.IsUnread := by
  have hnone : ∀ label (f : NumberField), f.complaint? label = none ↔ ¬ f.IsUnread := by
    intro label f
    rw [← NumberField.isSome_complaint?_iff label, Bool.not_eq_true,
      Option.isSome_eq_false_iff, Option.isNone_iff_eq_none]
  have hnil : l.complaints = [] ↔ ∀ f ∈ l.numbers, ¬ f.IsUnread := by
    simp only [complaints, List.filterMap_eq_nil_iff, numberLabels, numbers, List.zip_cons_cons,
      List.zip_nil_right, List.forall_mem_cons, hnone]
    simp
  rw [Ne, hnil]
  push Not
  rfl

/-- Each complaint is made once. -/
theorem nodup_complaints (l : Line) : l.complaints.Nodup := by
  have hlabels : (numberLabels.zip l.numbers).Pairwise fun e e' =>
      (e.1 ∈ numberLabels ∧ e'.1 ∈ numberLabels) ∧ e.1 ≠ e'.1 := by
    simp [numberLabels, numbers]
  -- equal complaints would have equal names, but those of two numbers differ
  refine List.pairwise_filterMap.mpr (hlabels.imp ?_)
  rintro e e' ⟨⟨hlabel, hlabel'⟩, hne⟩ c hc c' hc' rfl
  obtain ⟨raw, -, rfl⟩ := NumberField.complaint?_eq_some_iff.mp hc
  obtain ⟨raw', -, heq⟩ := NumberField.complaint?_eq_some_iff.mp hc'
  exact hne (label_eq_of_wording_eq hlabel hlabel' heq)

theorem exists_wording_of_mem_complaints {l : Line} {c : String} (h : c ∈ l.complaints) :
    ∃ label raw, c = wording label raw := by
  obtain ⟨e, -, hc⟩ := List.mem_filterMap.mp h
  obtain ⟨raw, -, rfl⟩ := NumberField.complaint?_eq_some_iff.mp hc
  exact ⟨e.1, raw, rfl⟩

end Line

namespace SourceLine

theorem complaints_toLine (s : SourceLine) (currency : Option String) :
    (s.toLine currency).complaints = s.complaints :=
  Line.complaints_eq _

/-- Every complaint is about a number that was not read. -/
theorem exists_unread_of_mem_complaints {s : SourceLine} {c : String} (h : c ∈ s.complaints)
    (currency : Option String) : ∃ label ∈ numberLabels, ∃ raw,
      (s.toLine currency).Unread raw ∧ c = wording label raw := by
  simp only [complaints, List.mem_append, mem_complaint] at h
  rcases h with (⟨raw, hraw, rfl⟩ | ⟨raw, hraw, rfl⟩) | ⟨raw, hraw, rfl⟩
  · exact ⟨"quantity", by decide, raw, .inl hraw, rfl⟩
  · exact ⟨"unitPrice", by decide, raw, .inr (.inl hraw), rfl⟩
  · exact ⟨"lineTotal", by decide, raw, .inr (.inr hraw), rfl⟩

/-- There is a complaint about every number that was not read. -/
theorem exists_complaint_of_unread {s : SourceLine} {currency : Option String} {raw : String}
    (h : (s.toLine currency).Unread raw) :
    ∃ label ∈ numberLabels, wording label raw ∈ s.complaints := by
  simp only [complaints, List.mem_append, mem_complaint]
  rcases h with hraw | hraw | hraw
  · exact ⟨"quantity", by decide, .inl (.inl ⟨raw, hraw, rfl⟩)⟩
  · exact ⟨"unitPrice", by decide, .inl (.inr ⟨raw, hraw, rfl⟩)⟩
  · exact ⟨"lineTotal", by decide, .inr ⟨raw, hraw, rfl⟩⟩

end SourceLine

/-! ## Section 2: The reasons of a line -/

/-- Where nothing is repeated, nothing is dropped. -/
theorem distinct_of_nodup {xs : List String} (h : xs.Nodup) : distinct xs = xs := by
  induction xs with
  | nil => rfl
  | cons x xs ih =>
    obtain ⟨hx, hxs⟩ := List.nodup_cons.mp h
    rw [distinct, ih hxs, List.filter_eq_self.mpr]
    intro y hy
    simp only [decide_eq_true_eq]
    rintro rfl
    exact hx hy

/-- The codes of a line are distinct, and so are its complaints, none of which is a code. -/
theorem nodup_codes_append_complaints (x : LineFacts) (l : Line) :
    (x.flags.map Coded.code ++ l.complaints).Nodup := by
  refine List.nodup_append.mpr ⟨?_, l.nodup_complaints, ?_⟩
  · -- the flags of a line are some of all flags, in the same order
    have hall : ((Coded.all : List Flag).map Coded.code).Nodup := by decide
    exact hall.sublist (List.filter_sublist.map _)
  · intro code hcode c hc
    obtain ⟨flag, -, rfl⟩ := List.mem_map.mp hcode
    obtain ⟨label, raw, rfl⟩ := Line.exists_wording_of_mem_complaints hc
    exact (wording_ne_code label raw flag).symm

namespace SourceLine

/-- What is noted of the numbers of a line is that they give rise to its complaints. -/
def NotesNumbers (s : SourceLine) : Prop := s.notes = ⟨!s.complaints.isEmpty, s.complaints⟩

variable {s : SourceLine}

/-- The reasons are codes, and then the complaints. -/
theorem reasons_toLine (h : s.NotesNumbers) (currency : Option String) :
    (s.toLine currency).reasons =
      (s.written currency).facts.flags.map Coded.code ++ (s.toLine currency).complaints := by
  have hreasons : (s.toLine currency).reasons =
      distinct ((s.written currency).facts.flags.map Coded.code ++ s.notes.warnings) := rfl
  rw [hreasons, h, ← complaints_toLine s currency]
  exact distinct_of_nodup (nodup_codes_append_complaints _ _)

theorem failed_mem_reasons_iff (h : s.NotesNumbers) (currency : Option String) :
    Coded.code Flag.failedNumericParse ∈ (s.toLine currency).reasons ↔
      ∃ f ∈ (s.toLine currency).numbers, f.IsUnread := by
  have hreasons : (s.toLine currency).reasons = (s.written currency).facts.reasons := rfl
  have hnotes : (s.written currency).facts.notes = s.notes := rfl
  rw [hreasons, LineFacts.code_mem_reasons_iff, ← Line.complaints_ne_nil_iff, complaints_toLine,
    Flag.fires, hnotes, h]
  -- a complaint is enough for the flag, so that it makes no difference whether one is its code
  simp only [NumericNotes.hasProblems, Bool.or_self, Bool.not_eq_true', List.isEmpty_eq_false_iff]
  exact or_iff_left_of_imp List.ne_nil_of_mem

end SourceLine

/-! ## Section 3: Numbers of a document -/

/-- A truth value, a list or an object. -/
def Json.isNeverNumber : Json → Bool
  | .bool _ => true
  | .array _ => true
  | .object _ => true
  | _ => false

/-- An integer is written as its plain notation as a decimal. -/
theorem Decimal.toString_eq_plain (n : Int) : toString n = (ofInt n).plain := by
  have hscale : (ofInt n).scale ≤ 0 := Int.le_refl 0
  have hplain : (ofInt n).plainChars = signed (ofInt n).isNegative (Nat.toDigits 10 n.natAbs) := by
    rw [plainChars_eq, unsignedPlain, if_pos hscale, digitsOf]
    simp [ofInt]
  apply String.toList_injective
  rw [plain, String.toList_ofList, hplain, Int.toString_eq_repr, Int.repr_eq_if]
  by_cases hn : 0 ≤ n
  · have hsign : (ofInt n).isNegative = false := decide_eq_false (Int.not_lt.mpr hn)
    have habs : n.toNat = n.natAbs := by omega
    rw [if_pos hn, Nat.toList_repr, hsign, habs]
    rfl
  · have hsign : (ofInt n).isNegative = true := decide_eq_true (Int.not_le.mp hn)
    have habs : (-n).toNat = n.natAbs := by omega
    rw [if_neg hn, String.toList_append, Nat.toList_repr, hsign, habs]
    rfl

/-- An integer is read as itself. -/
theorem Decimal.amount?_toString (n : Int) : amount? (toString n) = some (ofInt n) := by
  rw [toString_eq_plain, amount?_plain, unscaled_of_nonneg (Int.le_refl 0)]

/-- A truth value, a list or an object is no amount.  The first one has an `e` without an exponent
    behind it, and the others begin with a bracket. -/
theorem Json.amount?_compact_of_isNeverNumber {v : Json} (h : v.isNeverNumber = true) :
    Decimal.amount? v.compact = none := by
  have hbracket : ∀ {c : Char} {s : String}, Decimal.isFiller c = false → c ≠ '(' →
      Decimal.isBaseChar c = false → Decimal.amount? (String.ofList [c] ++ s) = none := by
    intro c s hfiller hopen hbase
    rw [Decimal.amount?, String.toList_append, String.toList_ofList, List.singleton_append]
    exact Decimal.amountChars?_eq_none_of_head hfiller hopen hbase _
  cases v with
  | bool b => cases b <;> decide +kernel
  | array vs =>
    rw [compact, String.append_assoc]
    exact hbracket (c := '[') (by decide) (by decide) (by decide)
  | object ms =>
    rw [compact, String.append_assoc]
    exact hbracket (c := '\x7b') (by decide) (by decide) (by decide)
  | _ => cases h

namespace Document.NumberField

/-- What a number of a line has to do with the value under its names in an object: an integer is
    taken exactly, and what is never a number is written and gives no value. -/
structure IsTaken (item : Members) (names : List String) (f : NumberField) : Prop where
  integer : ∀ n, first? item names = some (.integer n) →
    f = ⟨some (toString n), some (Decimal.ofInt n)⟩
  never : ∀ v, first? item names = some v → v.isNeverNumber = true → f.IsUnread

theorem isTaken_numberField (item : Members) (names : List String) :
    IsTaken item names (numberField item names) := by
  constructor
  · intro n hn
    have hraw : rawNumber? (.integer n) = some (toString n) := by simp [rawNumber?, Json.compact]
    rw [numberField_eq, hn, Option.bind_some, hraw]
    simp only [Decimal.amount?_toString]
  · intro v hv hnever
    have hraw : rawNumber? v = some v.compact := by
      cases v with
      | bool b => rfl
      | array vs => rfl
      | object ms => rfl
      | _ => cases hnever
    rw [numberField_eq, hv, Option.bind_some, hraw]
    simp only [Json.amount?_compact_of_isNeverNumber hnever]
    exact ⟨Option.some_ne_none _, rfl⟩

end Document.NumberField

/-! ## Section 4: The lines of a document -/

/-- How a line tells of the numbers of the object that it was read from.  It has the flag if one of
    them was written and gave no value; its reasons are codes and then one complaint for each such
    number, and nothing is said twice. -/
structure Line.Surfaces (item : Members) (l : Line) : Prop where
  numbers_eq : l.numbers = numberNames.map (numberField item)
  failed_iff : Coded.code Flag.failedNumericParse ∈ l.reasons ↔ ∃ f ∈ l.numbers, f.IsUnread
  reasons_eq : ∃ flags : List Flag, l.reasons = flags.map Coded.code ++ l.complaints
  nodup : l.reasons.Nodup
  taken : List.Forall₂ (NumberField.IsTaken item) numberNames l.numbers

theorem DocumentItem.surfaces_toLine (invoiceId : String) (index : Nat) (item : Members)
    (currency : Option String) :
    (((readItem item).sourceLine invoiceId index).toLine currency).Surfaces item := by
  have hnotes : ((readItem item).sourceLine invoiceId index).NotesNumbers := rfl
  have hreasons := SourceLine.reasons_toLine hnotes currency
  have hnumbers : (((readItem item).sourceLine invoiceId index).toLine currency).numbers =
      numberNames.map (numberField item) := rfl
  refine ⟨hnumbers, SourceLine.failed_mem_reasons_iff hnotes currency, ⟨_, hreasons⟩, ?_, ?_⟩
  · rw [hreasons]
    exact nodup_codes_append_complaints _ _
  · rw [hnumbers, List.forall₂_map_right_iff, List.forall₂_same]
    exact fun names _ => NumberField.isTaken_numberField item names

namespace ScannedInvoice

variable {i : ScannedInvoice}

/-- Without keyed lines, the lines are those of the items of the document. -/
theorem transcribe_of_items {ms : Members} {items : List Members} (hkeyed : i.isKeyed = false)
    (hdocument : i.document = some (.object ms)) (hitems : Itemizes ms items) :
    ∃ t, i.transcribe = .ok t ∧
      t.lines = (items.mapIdx fun index item => (readItem item).sourceLine i.id index).map
        (·.toLine t.currency) := by
  have hread := read_object_eq_ok_iff.mpr ⟨items, hitems, rfl⟩
  have husable : i.usableDocument = .ok (some ⟨textField ms currencyNames, items.map readItem⟩) := by
    simp only [usableDocument, hdocument, hread]
  refine ⟨_, transcribe_eq_ok_iff.mpr ⟨_, husable, rfl⟩, ?_⟩
  apply List.ext_getElem <;> simp [sourceLines, hkeyed]

/-- Each item of a document that can be read becomes a line that tells of its numbers. -/
theorem unread_numbers_surface {v : Json} {d : Document} (hkeyed : i.keyedLines = [])
    (hdocument : i.document = some v) (hread : Document.read v = .ok d) :
    ∃ ms items t, v = .object ms ∧ Itemizes ms items ∧ i.transcribe = .ok t ∧
      List.Forall₂ Line.Surfaces items t.lines := by
  cases v with
  | object ms =>
    obtain ⟨items, hitems, -⟩ := read_object_eq_ok_iff.mp hread
    obtain ⟨t, ht, hlines⟩ := transcribe_of_items (by simp [isKeyed, hkeyed]) hdocument hitems
    refine ⟨ms, items, t, rfl, hitems, ht, ?_⟩
    rw [hlines, List.forall₂_map_right_iff, List.forall₂_iff_get]
    refine ⟨by simp, fun index h₁ h₂ => ?_⟩
    simpa using DocumentItem.surfaces_toLine i.id index (items.get ⟨index, h₁⟩) t.currency
  | _ => cases hread

/-- An item with an integer, a truth value and a text, of which only the integer is a number. -/
def mixedItem : Members := [("qty", .integer 2), ("unitPrice", .bool true), ("total", .text "two")]

/-- A scan that was not keyed, with this item in its document. -/
def mixedScan : ScannedInvoice :=
  { Backfill.awkwardScan with
    document := some (.object [("items", .array [.object mixedItem])])
    keyedLines := [] }

theorem unread_numbers_surface_mixed :
    ∃ t l, mixedScan.transcribe = .ok t ∧ t.lines = [l] ∧
      l.reasons = ["FAILED_NUMERIC_PARSE", "UNKNOWN_UNIT_CATEGORY", "MISSING_CURRENCY_CODE",
        "MISSING_PRICE_FIELDS", "unitPrice: unparseable 'true'", "lineTotal: unparseable 'two'"] ∧
      l.Surfaces mixedItem := by
  have hread : Document.read (.object [("items", .array [.object mixedItem])]) =
      .ok ⟨none, [readItem mixedItem]⟩ := rfl
  have hreasons : mixedScan.transcribe.map (·.lines.map (·.reasons)) =
      .ok [["FAILED_NUMERIC_PARSE", "UNKNOWN_UNIT_CATEGORY", "MISSING_CURRENCY_CODE",
        "MISSING_PRICE_FIELDS", "unitPrice: unparseable 'true'",
        "lineTotal: unparseable 'two'"]] := by
    decide +kernel
  obtain ⟨ms, items, t, hms, hitems, ht, hlines⟩ :=
    unread_numbers_surface (i := mixedScan) rfl rfl hread
  rw [ht] at hreasons
  obtain ⟨l, hl, hreasons⟩ := List.map_eq_singleton_iff.mp (Except.ok.inj hreasons)
  obtain rfl := Json.object.inj hms
  obtain ⟨item, rfl, hitem⟩ := List.map_eq_singleton_iff.mp (Json.array.inj hitems).symm
  obtain rfl := Json.object.inj hitem
  rw [hl] at hlines
  exact ⟨t, l, ht, hl, hreasons, (List.forall₂_cons.mp hlines).1⟩

end ScannedInvoice

end Reconcile
