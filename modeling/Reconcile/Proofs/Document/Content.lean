import Reconcile.Proofs.Decimal.Plain
import Reconcile.Proofs.Document.Nulls

/-! # What an object says as a document

    An object is a document if the first of its lists of items that is there is null or has nothing
    but objects in it.  The document then has one item for each of them, and a currency that has
    nothing to do with the items: the first text among the members for it.  A text of a document
    is never blank.

    Main statements: `read_object_eq_ok_iff` and `not_blank_of_textField`. -/

namespace Reconcile.Document

variable {ms : Members}

/-! ## Section 1: The list of items -/

/-- These are the objects listed for items.  Where no list is there, or null, there are none. -/
def Itemizes (ms : Members) (items : List Members) : Prop :=
  match first? ms itemNames with
  | none => items = []
  | some .null => items = []
  | some v => v = .array (items.map .object)

/-- Whatever is listed for items can be read. -/
def Readable (ms : Members) : Prop := ∃ items, Itemizes ms items

theorem readItems_eq_ok_iff {i : Nat} {vs : List Json} {read : List DocumentItem} :
    readItems i vs = .ok read ↔
      ∃ items : List Members, vs = items.map .object ∧ read = items.map readItem := by
  rcases objects_or_other vs with ⟨items, rfl⟩ | ⟨k, hk⟩
  · have hinj : ∀ items' : List Members,
        items.map Json.object = items'.map .object ↔ items = items' :=
      fun items' => List.map_inj_right fun _ _ h => Json.object.inj h
    rw [readItems_of_objects]
    simp only [hinj, exists_eq_left', Except.ok.injEq, eq_comm]
  · rw [readItems_eq, hk]
    simp only [reduceCtorEq, false_iff, not_exists, not_and]
    rintro items rfl
    rw [findIdx?_isOther_of_objects] at hk
    cases hk

theorem itemsIn_eq_ok_iff {read : List DocumentItem} :
    itemsIn ms = .ok read ↔ ∃ items, Itemizes ms items ∧ read = items.map readItem := by
  unfold itemsIn itemValues Itemizes
  rw [first?_itemNames]
  rcases itemList? ms with _ | ⟨name, v⟩
  · simp [Except.bind, readItems, eq_comm]
  · cases v with
    | null => simp [Except.bind, readItems, eq_comm]
    | array vs => simp [Except.bind, readItems_eq_ok_iff]
    | _ => simp [Except.bind]

/-- An object is read as the items that are listed in it, if they can be read, and the first text
    there is for a currency. -/
theorem read_object_eq_ok_iff {d : Document} :
    read (.object ms) = .ok d ↔
      ∃ items, Itemizes ms items ∧ d = ⟨textField ms currencyNames, items.map readItem⟩ := by
  rw [read_object]
  constructor
  · intro h
    rcases hitems : itemsIn ms with e | read
    · rw [hitems] at h
      cases h
    · obtain ⟨items, hitemizes, rfl⟩ := itemsIn_eq_ok_iff.mp hitems
      rw [hitems] at h
      exact ⟨items, hitemizes, (Except.ok.inj h).symm⟩
  · rintro ⟨items, hitemizes, rfl⟩
    rw [itemsIn_eq_ok_iff.mpr ⟨items, hitemizes, rfl⟩]
    rfl

/-! ## Section 2: Texts -/

open Text

theorem not_blank_of_mem {s : List Char} {c : Char} (hc : c ∈ s) (h : isBlank c = false) :
    isBlankText (String.ofList s) = false := by
  rw [isBlankText, String.toList_ofList, List.all_eq_false]
  exact ⟨c, hc, by simp [h]⟩

/-- The text of a binary number has a point or the mark of an exponent. -/
theorem not_blank_of_float (x : Binary64) : isBlankText x.text = false := by
  have hmarks : isBlank '.' = false ∧ isBlank 'e' = false := by decide
  have hsigned : ∀ s : List Char, ('.' ∈ s ∨ 'e' ∈ s) → isBlankText (x.withSign s) = false := by
    intro s hs
    unfold Binary64.withSign
    rcases hs with hs | hs
    · exact not_blank_of_mem (by split <;> simp [hs]) hmarks.1
    · exact not_blank_of_mem (by split <;> simp [hs]) hmarks.2
  unfold Binary64.text Binary64.textAbove
  refine hsigned _ ?_
  split
  · exact .inl (by decide)
  · simp only
    split
    · refine .inl ?_
      unfold Binary64.positional
      split
      · simp
      · simp only
        split <;> simp
    · exact .inr (by simp [Binary64.scientific])

theorem isBlank_of_isDigit {c : Char} (h : c.isDigit = true) : isBlank c = false := by
  have hdigit : (!isBlank c) = true := Decimal.of_isDigit (p := (!isBlank ·)) (by decide) h
  simpa using hdigit

/-- The text of an integer has a digit. -/
theorem not_blank_of_integer (n : Int) : isBlankText (toString n) = false := by
  have hdigit : ∀ m : Nat, ∃ c ∈ m.repr.toList, isBlank c = false := by
    intro m
    obtain ⟨c, hc⟩ := List.exists_mem_of_ne_nil _ (Nat.toDigits_ne_nil (n := m) (b := 10))
    exact ⟨c, by rwa [Nat.toList_repr],
      isBlank_of_isDigit (Nat.isDigit_of_mem_toDigits (by decide) (by decide) hc)⟩
  rw [isBlankText, List.all_eq_false, Int.toString_eq_repr, Int.repr_eq_if]
  split
  · obtain ⟨c, hc, hblank⟩ := hdigit n.toNat
    exact ⟨c, hc, by simp [hblank]⟩
  · obtain ⟨c, hc, hblank⟩ := hdigit (-n).toNat
    refine ⟨c, ?_, by simp [hblank]⟩
    rw [String.toList_append]
    exact List.mem_append_right _ hc

theorem not_blank_of_textOf? {v : Json} {s : String} (h : textOf? v = some s) :
    isBlankText s = false := by
  cases v with
  | text t =>
    simp only [textOf?] at h
    split at h
    · cases h
    · rename_i hwritten
      obtain rfl := Option.some.inj h
      simpa using hwritten
  | integer n =>
    obtain rfl := Option.some.inj h
    exact not_blank_of_integer n
  | float x =>
    obtain rfl := Option.some.inj h
    exact not_blank_of_float x
  | _ => cases h

/-- What is found for a text is more than white space. -/
theorem not_blank_of_textField {names : List String} {s : String}
    (h : textField ms names = some s) : isBlankText s = false := by
  obtain ⟨name, -, hs⟩ := List.exists_of_findSome?_eq_some h
  obtain ⟨v, -, hv⟩ := Option.bind_eq_some_iff.mp hs
  exact not_blank_of_textOf? hv

end Reconcile.Document
