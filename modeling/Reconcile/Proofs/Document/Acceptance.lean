import Reconcile.Proofs.Document.Content

/-! # Which values are documents

    A document is an object with a list of items, or with none.  The first of the names for the
    list that is there decides, and all that is asked of the value under it is that it is null or
    an array of objects.  What stands in these objects makes no difference: each of them gives one
    item, in its place and by itself.  Of what can be wrong with a value, the error says the first,
    and where it is.

    Main statement: `read_eq_iff_reads`. -/

namespace Reconcile.Document

variable {ms : Members}

/-! ## Section 1: What reading a value comes to -/

/-- Of the names for the list of items this is the first that is there, and this is what it
    names. -/
def IsItemList (ms : Members) (name : String) (v : Json) : Prop :=
  ∃ before after, itemNames = before ++ name :: after ∧
    (∀ earlier ∈ before, ms.lookup earlier = none) ∧ ms.lookup name = some v

/-- The value is no object. -/
def NotObject (v : Json) : Prop := ∀ ms, v ≠ .object ms

/-- This is what reading the value comes to: a document, with one item for each of the objects that
    are listed, or the first thing that is wrong. -/
def Reads (v : Json) : Except DocumentError Document → Prop
  | .ok d => ∃ ms items, v = .object ms ∧ Itemizes ms items ∧
      d = ⟨textField ms currencyNames, items.map readItem⟩
  | .error .notAnObject => NotObject v
  | .error (.itemsNotArray name) => ∃ ms w, v = .object ms ∧ IsItemList ms name w ∧
      w ≠ .null ∧ ∀ vs, w ≠ .array vs
  | .error (.itemNotAnObject index) => ∃ ms name w rest, ∃ items : List Members,
      v = .object ms ∧ IsItemList ms name (.array (items.map .object ++ w :: rest)) ∧
        items.length = index ∧ NotObject w

/-! ## Section 2: Lists of items -/

theorem isItemList_iff {name : String} {v : Json} :
    IsItemList ms name v ↔ itemList? ms = some (name, v) := by
  unfold IsItemList itemList?
  rw [List.findSome?_eq_some_iff]
  constructor
  · rintro ⟨before, after, hnames, hearlier, hv⟩
    exact ⟨before, name, after, hnames, by simp [hv], by simpa using hearlier⟩
  · rintro ⟨before, name', after, hnames, hv, hearlier⟩
    obtain ⟨w, hw, hpair⟩ := Option.map_eq_some_iff.mp hv
    obtain ⟨rfl, rfl⟩ := Prod.mk.inj hpair
    exact ⟨before, after, hnames, by simpa using hearlier, hw⟩

theorem isOther_iff {v : Json} : isOther v = true ↔ NotObject v := by
  cases v <;> simp [isOther, NotObject, Json.members?]

/-- Up to the first value that is no object there are objects. -/
theorem findIdx?_isOther_eq_some_iff {vs : List Json} {index : Nat} :
    vs.findIdx? isOther = some index ↔ ∃ w rest, ∃ items : List Members,
      vs = items.map .object ++ w :: rest ∧ items.length = index ∧ NotObject w := by
  constructor
  · intro h
    obtain ⟨hlt, hother, hbefore⟩ := List.findIdx?_eq_some_iff_getElem.mp h
    have hnone : (vs.take index).findIdx? isOther = none := by
      rw [List.findIdx?_eq_none_iff]
      intro v hv
      obtain ⟨k, hk, rfl⟩ := List.mem_take_iff_getElem.mp hv
      simpa using hbefore k (by omega)
    obtain ⟨items, hitems⟩ : ∃ items : List Members, vs.take index = items.map .object := by
      rcases objects_or_other (vs.take index) with hitems | ⟨k, hk⟩
      · exact hitems
      · rw [hnone] at hk
        cases hk
    refine ⟨vs[index], vs.drop (index + 1), items, ?_, ?_, isOther_iff.mp hother⟩
    · rw [← hitems, ← List.drop_eq_getElem_cons hlt, List.take_append_drop]
    · have hlength := congrArg List.length hitems
      simp only [List.length_take, List.length_map] at hlength
      omega
  · rintro ⟨w, rest, items, rfl, rfl, hw⟩
    rw [List.findIdx?_append, findIdx?_isOther_of_objects, List.findIdx?_cons,
      isOther_iff.mpr hw]
    simp

/-! ## Section 3: Errors -/

theorem itemValues_eq_error_iff {e : DocumentError} : itemValues ms = .error e ↔
    ∃ name w, IsItemList ms name w ∧ w ≠ .null ∧ (∀ vs, w ≠ .array vs) ∧
      e = .itemsNotArray name := by
  simp only [isItemList_iff]
  unfold itemValues
  rcases itemList? ms with _ | ⟨name, w⟩
  · simp
  · cases w <;> simp [eq_comm]

theorem readItems_eq_error_iff {vs : List Json} {e : DocumentError} :
    readItems 0 vs = .error e ↔
      ∃ index, vs.findIdx? isOther = some index ∧ e = .itemNotAnObject index := by
  rw [readItems_eq]
  rcases vs.findIdx? isOther with _ | index <;> simp [eq_comm]

/-- The list of items is looked at as a whole first, and only then are its values. -/
theorem read_object_eq_error_iff {e : DocumentError} : read (.object ms) = .error e ↔
    (∃ name w, IsItemList ms name w ∧ w ≠ .null ∧ (∀ vs, w ≠ .array vs) ∧
        e = .itemsNotArray name) ∨
      ∃ name vs index, IsItemList ms name (.array vs) ∧ vs.findIdx? isOther = some index ∧
        e = .itemNotAnObject index := by
  rw [← itemValues_eq_error_iff]
  simp only [isItemList_iff]
  rw [read_object, itemsIn]
  unfold itemValues
  rcases itemList? ms with _ | ⟨name, w⟩
  · simp [Except.bind, Except.map, readItems]
  · cases w with
    | array vs =>
      rcases hread : readItems 0 vs with e' | items
      · obtain ⟨index, hindex, rfl⟩ := readItems_eq_error_iff.mp hread
        simp [Except.bind, Except.map, hread, hindex, eq_comm]
      · have hnone : vs.findIdx? isOther = none := by
          rcases hindex : vs.findIdx? isOther with _ | index
          · rfl
          · rw [readItems_eq_error_iff.mpr ⟨index, hindex, rfl⟩] at hread
            cases hread
        simp [Except.bind, Except.map, hread, hnone]
    | null => simp [Except.bind, Except.map, readItems]
    | _ => simp [Except.bind, Except.map]

theorem read_of_notObject {v : Json} (h : NotObject v) : read v = .error .notAnObject := by
  cases v with
  | object ms => exact absurd rfl (h ms)
  | _ => rfl

/-! ## Section 4: Reading -/

theorem reads_of_notObject_iff {v : Json} (h : NotObject v)
    {r : Except DocumentError Document} : Reads v r ↔ r = .error .notAnObject := by
  have hobject : ∀ ms, v = .object ms ↔ False := fun ms => iff_false_intro (h ms)
  rcases r with (_ | name | index) | d <;> simp [Reads, h, hobject]

theorem reads_object_iff {r : Except DocumentError Document} :
    Reads (.object ms) r ↔ read (.object ms) = r := by
  rcases r with e | d
  · rw [read_object_eq_error_iff]
    cases e with
    | notAnObject => simp [Reads, NotObject]
    | itemsNotArray name =>
      constructor
      · rintro ⟨_, w, ⟨⟩, hlist, hnull, harray⟩
        exact .inl ⟨name, w, hlist, hnull, harray, rfl⟩
      · rintro (⟨_, w, hlist, hnull, harray, ⟨⟩⟩ | ⟨_, _, _, _, _, ⟨⟩⟩)
        exact ⟨ms, w, rfl, hlist, hnull, harray⟩
    | itemNotAnObject index =>
      constructor
      · rintro ⟨_, name, w, rest, items, ⟨⟩, hlist, hlength, hw⟩
        have hindex := findIdx?_isOther_eq_some_iff.mpr ⟨w, rest, items, rfl, hlength, hw⟩
        exact .inr ⟨name, _, index, hlist, hindex, rfl⟩
      · rintro (⟨_, _, _, _, _, ⟨⟩⟩ | ⟨name, vs, _, hlist, hindex, ⟨⟩⟩)
        obtain ⟨w, rest, items, rfl, hlength, hw⟩ := findIdx?_isOther_eq_some_iff.mp hindex
        exact ⟨ms, name, w, rest, items, rfl, hlist, hlength, hw⟩
  · rw [read_object_eq_ok_iff]
    simp [Reads]

/-- A value is read as a document, with one item for each object that is listed, in order and each
    from its own members alone, if it is an object whose list of items is missing, null or an array
    of objects.  Any other value gives the error that says what is wrong with it, and which of them
    it gives is decided by the same conditions. -/
theorem read_eq_iff_reads (v : Json) (r : Except DocumentError Document) :
    read v = r ↔ Reads v r := by
  by_cases h : NotObject v
  · rw [read_of_notObject h, reads_of_notObject_iff h, eq_comm]
  · obtain ⟨ms, rfl⟩ : ∃ ms, v = .object ms := by simpa [NotObject] using h
    exact reads_object_iff.symm

end Reconcile.Document
