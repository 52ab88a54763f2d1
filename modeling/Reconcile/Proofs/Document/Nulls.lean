import Mathlib.Data.List.Basic
import Reconcile.Document
import Reconcile.Exchange.Field

/-! # Null and missing members of a document

    A member that is null says no more than one that is missing.  Texts are read accordingly: each
    of the names of a field is tried until there is a text.  For a number and for the list of items,
    though, the first name that is there decides, so that null under it hides what is written under
    a later name.  Nothing else of a document changes when its null members go.

    Main statements: `read_withoutNulls_iff`; `null_hides_later_names` are documents that lose
    their items and a number. -/

namespace Reconcile.Document

open Exchange Pairs

variable {ms : Members} {names : List String}

/-! ## Section 1: Members that are not null -/

/-- The members but for those whose name has the value null; `filled_of_nodup` says which they
    are. -/
def filled (ms : Members) : Members := ms.filter fun m => (given? (.object ms) m.1).isSome

theorem lookup_filter_name (p : String → Bool) (ms : Members) (name : String) :
    (ms.filter (p ·.1)).lookup name = if p name then ms.lookup name else none := by
  induction ms with
  | nil => simp
  | cons m ms ih =>
    obtain ⟨n, v⟩ := m
    rw [List.filter_cons, lookup_cons_ite]
    by_cases h : name = n
    · subst h
      by_cases hn : p name = true
      · simp [hn]
      · simp [hn, ih]
    · by_cases hn : p n = true
      · simp [hn, h, lookup_cons_ite, ih]
      · simp [hn, h, ih]

theorem given?_object (ms : Members) (name : String) :
    given? (.object ms) name = (ms.lookup name).filter (!isNull ·) := rfl

theorem lookup_filled (ms : Members) (name : String) :
    (filled ms).lookup name = given? (.object ms) name := by
  rw [filled, lookup_filter_name fun name => (given? (.object ms) name).isSome, given?_object]
  rcases ms.lookup name with _ | v
  · rfl
  · by_cases hv : isNull v = true <;> simp [hv, Option.filter_some]

/-- Where each name is there once, what goes are the members with the value null. -/
theorem filled_of_nodup (h : (ms.map (·.1)).Nodup) : filled ms = ms.filter (!isNull ·.2) := by
  refine List.filter_congr fun m hm => ?_
  have hlookup : ms.lookup m.1 = some m.2 := by
    obtain ⟨before, after, rfl⟩ := List.append_of_mem hm
    refine List.lookup_eq_some_iff.mpr ⟨before, after, rfl, fun e he => ?_⟩
    rw [bne_iff_ne]
    intro heq
    rw [List.map_append, List.nodup_append] at h
    exact h.2.2 e.1 (List.mem_map_of_mem he) m.1 (by simp) heq.symm
  rw [given?_object, hlookup]
  by_cases hv : isNull m.2 = true <;> simp [hv, Option.filter_some]

theorem isNull_iff {v : Json} : isNull v = true ↔ v = .null := by
  cases v <;> simp [isNull]

/-- A reader that finds nothing in null does not tell null from a missing member. -/
theorem bind_given? {α : Type} {f : Json → Option α} (hf : f .null = none) (ms : Members)
    (name : String) : (given? (.object ms) name).bind f = (ms.lookup name).bind f := by
  rw [given?_object]
  rcases ms.lookup name with _ | v
  · rfl
  · by_cases hv : isNull v = true
    · rw [isNull_iff.mp hv]
      exact hf.symm
    · simp [hv, Option.filter_some]

/-! ## Section 2: The first of several names -/

/-- The value under the first of several names that is there. -/
def first? (ms : Members) (names : List String) : Option Json := names.findSome? (ms.lookup ·)

/-- The first of several names that is there has the value null, and this is the first value
    under them that is not null. -/
def Hides (ms : Members) (names : List String) (v : Json) : Prop :=
  first? ms names = some .null ∧ first? (filled ms) names = some v

section findSome

variable {α β : Type} {f : α → Option β} {p : β → Bool} {as : List α}

theorem findSome?_filter_of_none (h : as.findSome? f = none) :
    as.findSome? (fun a => (f a).filter p) = none := by
  rw [List.findSome?_eq_none_iff] at h ⊢
  intro a ha
  rw [h a ha]
  rfl

theorem findSome?_filter_of_some {b : β} (h : as.findSome? f = some b) (hb : p b = true) :
    as.findSome? (fun a => (f a).filter p) = some b := by
  induction as with
  | nil => cases h
  | cons a as ih =>
    rw [List.findSome?_cons] at h ⊢
    rcases hfa : f a with _ | c
    · rw [hfa] at h
      exact ih h
    · rw [hfa] at h
      obtain rfl : c = b := Option.some.inj h
      rw [Option.filter_some_pos hb]

theorem of_findSome?_filter {b : β} (h : as.findSome? (fun a => (f a).filter p) = some b) :
    p b = true := by
  obtain ⟨a, -, hb⟩ := List.exists_of_findSome?_eq_some h
  exact (Option.filter_eq_some_iff.mp hb).2

end findSome

theorem first?_filled (ms : Members) (names : List String) :
    first? (filled ms) names = names.findSome? fun name => (ms.lookup name).filter (!isNull ·) :=
  congrArg (names.findSome? ·) (funext (lookup_filled ms))

/-- Where no value is hidden, null is the same as nothing. -/
theorem first?_filled_of_not_hides (h : ∀ v, ¬ Hides ms names v) :
    first? (filled ms) names = (first? ms names).filter (!isNull ·) := by
  rcases hfirst : first? ms names with _ | v
  · rw [first?_filled, findSome?_filter_of_none hfirst]
    rfl
  · by_cases hv : isNull v = true
    · obtain rfl := isNull_iff.mp hv
      rcases hlater : first? (filled ms) names with _ | w
      · rfl
      · exact absurd ⟨hfirst, hlater⟩ (h w)
    · have hkept : (!isNull v) = true := by simpa using hv
      rw [first?_filled, findSome?_filter_of_some hfirst hkept, Option.filter_some, if_pos hkept]

theorem not_hides_of_first? {v : Json} (h : first? ms names = some v) (hv : isNull v = false)
    (w : Json) : ¬ Hides ms names w := by
  rintro ⟨hnull, -⟩
  obtain rfl : v = .null := Option.some.inj (h.symm.trans hnull)
  cases hv

/-! ## Section 3: Items -/

/-- The names of the numbers of an item. -/
def numberNames : List (List String) :=
  [["quantity", "qty"], ["unitPrice", "unit_price"], ["amount", "lineTotal", "line_total", "total"]]

/-- Texts are looked for under all of their names, and null is no text. -/
theorem textField_filled (ms : Members) (names : List String) :
    textField (filled ms) names = textField ms names := by
  unfold textField
  congr 1
  funext name
  rw [lookup_filled, bind_given? rfl]

theorem numberField_eq (ms : Members) (names : List String) :
    numberField ms names = match (first? ms names).bind rawNumber? with
      | none => ⟨none, none⟩
      | some raw => ⟨some raw, Decimal.amount? raw⟩ := rfl

theorem numberField_filled_of_not_hides (h : ∀ v, ¬ Hides ms names v) :
    numberField (filled ms) names = numberField ms names := by
  have hraw : (first? (filled ms) names).bind rawNumber? =
      (first? ms names).bind rawNumber? := by
    rw [first?_filled_of_not_hides h]
    rcases first? ms names with _ | v
    · rfl
    · by_cases hv : isNull v = true
      · rw [isNull_iff.mp hv]
        rfl
      · rw [Option.filter_some_pos (by simpa using hv)]
  rw [numberField_eq, numberField_eq, hraw]

/-- A number that null hides has no writing, and without the null it has one. -/
theorem raw_numberField_of_hides {v : Json} (h : Hides ms names v) :
    (numberField ms names).raw = none ∧ (numberField (filled ms) names).raw ≠ none := by
  obtain ⟨hnull, hvalue⟩ := h
  have hv : (!isNull v) = true := by
    rw [first?_filled] at hvalue
    exact of_findSome?_filter (p := (!isNull ·)) hvalue
  obtain ⟨raw, hraw⟩ : ∃ raw, rawNumber? v = some raw := by
    cases v with
    | null => cases hv
    | text t => exact ⟨t, rfl⟩
    | bool b => exact ⟨_, rfl⟩
    | integer n => exact ⟨_, rfl⟩
    | float x => exact ⟨_, rfl⟩
    | array vs => exact ⟨_, rfl⟩
    | object members => exact ⟨_, rfl⟩
  constructor
  · rw [numberField_eq, hnull]
    rfl
  · rw [numberField_eq, hvalue, Option.bind_some, hraw]
    exact Option.some_ne_none raw

/-- An item is the same without its null members if none of them hides a number. -/
theorem readItem_filled_iff :
    readItem (filled ms) = readItem ms ↔ ∀ names ∈ numberNames, ∀ v, ¬ Hides ms names v := by
  constructor
  · intro h names hnames v hhides
    obtain ⟨hnone, hsome⟩ := raw_numberField_of_hides hhides
    rw [← hnone] at hsome
    -- the writing of each number is kept in the item
    simp only [numberNames, List.mem_cons, List.not_mem_nil, or_false] at hnames
    rcases hnames with rfl | rfl | rfl
    · exact hsome (congrArg DocumentItem.rawQuantity h)
    · exact hsome (congrArg DocumentItem.rawUnitPrice h)
    · exact hsome (congrArg DocumentItem.rawLineTotal h)
  · intro h
    have hnumber : ∀ names ∈ numberNames, numberField (filled ms) names = numberField ms names :=
      fun names hnames => numberField_filled_of_not_hides (h names hnames)
    have hconfidence : ((filled ms).lookup "confidence").bind floatOf? =
        (ms.lookup "confidence").bind floatOf? := by
      rw [lookup_filled, bind_given? rfl]
    unfold readItem
    rw [hnumber _ (by simp [numberNames]), hnumber _ (by simp [numberNames]),
      hnumber _ (by simp [numberNames]), hconfidence]
    simp only [textField_filled]

/-! ## Section 4: Lists of items -/

/-- The value is no object. -/
def isOther (v : Json) : Bool := v.members?.isNone

/-- A list is read item by item, up to the first value that is no object. -/
theorem readItems_eq (i : Nat) (vs : List Json) :
    readItems i vs = match vs.findIdx? isOther with
      | some k => .error (.itemNotAnObject (i + k))
      | none => .ok ((vs.filterMap Json.members?).map readItem) := by
  induction vs generalizing i with
  | nil => rfl
  | cons v vs ih =>
    rw [readItems, List.findIdx?_cons, isOther]
    rcases hv : v.members? with _ | ms
    · rfl
    · simp only [ih (i + 1)]
      rcases hk : vs.findIdx? isOther with _ | k
      · simp [hv]
      · simp [Nat.add_assoc, Nat.add_comm 1 k]

theorem findIdx?_isOther_of_objects (items : List Members) :
    (items.map Json.object).findIdx? isOther = none := by
  rw [List.findIdx?_eq_none_iff]
  intro v hv
  obtain ⟨ms, -, rfl⟩ := List.mem_map.mp hv
  rfl

theorem readItems_of_objects (i : Nat) (items : List Members) :
    readItems i (items.map .object) = .ok (items.map readItem) := by
  have hmembers : Json.members? ∘ Json.object = some := rfl
  rw [readItems_eq, findIdx?_isOther_of_objects]
  simp only [List.filterMap_map, hmembers, List.filterMap_some]

/-- A list of values is one of objects, or there is a first value in it that is none. -/
theorem objects_or_other (vs : List Json) :
    (∃ items : List Members, vs = items.map .object) ∨ ∃ k, vs.findIdx? isOther = some k := by
  induction vs with
  | nil => exact .inl ⟨[], rfl⟩
  | cons v vs ih =>
    rw [List.findIdx?_cons]
    by_cases hv : isOther v = true
    · exact .inr ⟨0, by rw [if_pos hv]⟩
    · obtain ⟨ms, rfl⟩ : ∃ ms, v = .object ms := by
        cases v with
        | object ms => exact ⟨ms, rfl⟩
        | _ => exact absurd rfl hv
      rcases ih with ⟨items, rfl⟩ | ⟨k, hk⟩
      · exact .inl ⟨ms :: items, rfl⟩
      · exact .inr ⟨k + 1, by rw [if_neg hv, hk]; rfl⟩

/-! ## Section 5: Documents without null members -/

/-- An item of a list without its null members. -/
def itemWithoutNulls : Json → Json
  | .object ms => .object (filled ms)
  | v => v

/-- A list of items without the null members of its objects. -/
def listWithoutNulls : Json → Json
  | .array vs => .array (vs.map itemWithoutNulls)
  | v => v

/-- The members of a document without those that are null, and without the null members of the
    objects in its list of items. -/
def withoutNulls (ms : Members) : Members :=
  (filled ms).map fun m => (m.1, if m.1 ∈ itemNames then listWithoutNulls m.2 else m.2)

/-- No null of a document hides anything: neither a list of items, unless there is none in it, nor
    a number of one of the items that are read. -/
structure HidesNothing (ms : Members) : Prop where
  list : ∀ v, Hides ms itemNames v → v = .array []
  numbers : ∀ items : List Members, itemValues ms = .ok (items.map .object) →
    ∀ item ∈ items, ∀ names ∈ numberNames, ∀ v, ¬ Hides item names v

theorem lookup_map_values (f : String → Json → Json) (ms : Members) (name : String) :
    (ms.map fun m => (m.1, f m.1 m.2)).lookup name = (ms.lookup name).map (f name) := by
  induction ms with
  | nil => rfl
  | cons m ms ih =>
    obtain ⟨n, v⟩ := m
    rw [List.map_cons, lookup_cons_ite, lookup_cons_ite, ih]
    by_cases h : name = n
    · subst h
      simp
    · simp [h]

theorem lookup_withoutNulls (ms : Members) (name : String) :
    (withoutNulls ms).lookup name = (given? (.object ms) name).map fun v =>
      if name ∈ itemNames then listWithoutNulls v else v := by
  unfold withoutNulls
  rw [lookup_map_values fun name v => if name ∈ itemNames then listWithoutNulls v else v,
    lookup_filled]

theorem textField_withoutNulls (ms : Members) (names : List String) :
    textField (withoutNulls ms) names = textField ms names := by
  have hlist : ∀ v, textOf? (listWithoutNulls v) = textOf? v := by
    intro v
    cases v <;> rfl
  unfold textField
  congr 1
  funext name
  rw [lookup_withoutNulls, Option.bind_map, ← bind_given? (rfl : textOf? .null = none)]
  congr 1
  funext v
  by_cases hname : name ∈ itemNames
  · simp [hname, hlist]
  · simp [hname]

theorem first?_itemNames (ms : Members) :
    first? ms itemNames = (itemList? ms).map (·.2) := by
  unfold first? itemList?
  rw [List.map_findSome?]
  congr 1
  funext name
  rw [Function.comp_apply, Option.map_map]
  exact Option.map_id'.symm

/-- The list of items of the members that are not null is the first that is not null. -/
theorem itemList?_filled (ms : Members) :
    itemList? (filled ms) = itemNames.findSome? fun name =>
      ((ms.lookup name).map fun v => (name, v)).filter (!isNull ·.2) := by
  unfold itemList?
  congr 1
  funext name
  rw [lookup_filled, given?_object]
  rcases ms.lookup name with _ | v
  · rfl
  · by_cases hv : isNull v = true <;> simp [hv, Option.filter_some]

theorem itemList?_withoutNulls (ms : Members) :
    itemList? (withoutNulls ms) =
      (itemList? (filled ms)).map fun e => (e.1, listWithoutNulls e.2) := by
  unfold itemList?
  rw [List.map_findSome?, ← List.head?_filterMap, ← List.head?_filterMap]
  congr 1
  refine List.filterMap_congr fun name hname => ?_
  rw [lookup_withoutNulls, Function.comp_apply, lookup_filled]
  simp [hname, Function.comp_def]

/-- The items of a list are the same without null members if none of them hides a number. -/
theorem readItems_withoutNulls_iff (i : Nat) (vs : List Json) :
    readItems i (vs.map itemWithoutNulls) = readItems i vs ↔
      ∀ items : List Members, vs = items.map .object →
        ∀ item ∈ items, ∀ names ∈ numberNames, ∀ v, ¬ Hides item names v := by
  rcases objects_or_other vs with ⟨items, rfl⟩ | ⟨k, hk⟩
  · have hmap : (items.map Json.object).map itemWithoutNulls =
        (items.map filled).map Json.object := by
      simp only [List.map_map]
      rfl
    have hitems : ∀ items' : List Members,
        items.map Json.object = items'.map .object ↔ items = items' :=
      fun items' => List.map_inj_right fun _ _ h => Json.object.inj h
    rw [hmap, readItems_of_objects, readItems_of_objects, List.map_map]
    simp only [hitems, forall_eq', Except.ok.injEq, List.map_inj_left, Function.comp_apply,
      readItem_filled_iff]
  · have hother : isOther ∘ itemWithoutNulls = isOther := by
      funext v
      cases v <;> rfl
    constructor
    · intro _ items hitems
      rw [hitems, findIdx?_isOther_of_objects] at hk
      cases hk
    · intro _
      rw [readItems_eq, readItems_eq, List.findIdx?_map, hother, hk]

theorem readItems_eq_nil_iff {i : Nat} {vs : List Json} : readItems i vs = .ok [] ↔ vs = [] := by
  cases vs with
  | nil => simp [readItems]
  | cons v vs =>
    rw [readItems]
    rcases v.members? with _ | ms
    · simp
    · rcases readItems (i + 1) vs with e | items <;> simp

/-! ## Section 6: Reading documents without null members -/

/-- The items of a document. -/
def itemsIn (ms : Members) : Except DocumentError (List DocumentItem) :=
  (itemValues ms).bind (readItems 0)

theorem read_object (ms : Members) :
    read (.object ms) = (itemsIn ms).map fun items => ⟨textField ms currencyNames, items⟩ := by
  unfold read itemsIn
  simp only [Json.members?]
  rcases itemValues ms with e | vs
  · rfl
  · simp only [Except.bind]
    rcases readItems 0 vs with e | items <;> rfl

/-- The currency is a text, so that all that can change are the items. -/
theorem read_withoutNulls_eq_iff (ms : Members) :
    read (.object (withoutNulls ms)) = read (.object ms) ↔
      itemsIn (withoutNulls ms) = itemsIn ms := by
  rw [read_object, read_object, textField_withoutNulls]
  constructor
  · intro h
    rcases hw : itemsIn (withoutNulls ms) with e | items <;>
      rcases hm : itemsIn ms with e' | items' <;> rw [hw, hm] at h
    · exact congrArg Except.error (Except.error.inj h)
    · cases h
    · cases h
    · exact congrArg Except.ok (congrArg Document.items (Except.ok.inj h))
  · intro h
    rw [h]

/-- Where there are no values for items, only a list of items can be hidden. -/
theorem hidesNothing_iff_of_nil (h : itemValues ms = .ok []) :
    HidesNothing ms ↔ ∀ v, Hides ms itemNames v → v = .array [] := by
  refine ⟨HidesNothing.list, fun hlist => ⟨hlist, fun items hitems => ?_⟩⟩
  rw [h] at hitems
  have hnil : items = [] := List.map_eq_nil_iff.mp (Except.ok.inj hitems).symm
  intro item hitem
  rw [hnil] at hitem
  cases hitem

/-- Where the first list of items is not null, only numbers can be hidden. -/
theorem hidesNothing_iff_of_list {name : String} {v : Json} (h : itemList? ms = some (name, v))
    (hv : isNull v = false) :
    HidesNothing ms ↔ ∀ items : List Members, itemValues ms = .ok (items.map .object) →
      ∀ item ∈ items, ∀ names ∈ numberNames, ∀ w, ¬ Hides item names w := by
  have hfirst : first? ms itemNames = some v := by
    rw [first?_itemNames, h]
    rfl
  exact ⟨HidesNothing.numbers, fun hnumbers =>
    ⟨fun w hw => absurd hw (not_hides_of_first? hfirst hv w), hnumbers⟩⟩

theorem itemsIn_withoutNulls_of_none (h : itemList? ms = none) :
    itemsIn (withoutNulls ms) = itemsIn ms ↔ HidesNothing ms := by
  have hlist : itemList? (withoutNulls ms) = none := by
    rw [itemList?_withoutNulls, itemList?_filled, findSome?_filter_of_none h]
    rfl
  have hfirst : first? ms itemNames = none := by
    rw [first?_itemNames, h]
    rfl
  have hvalues : itemValues ms = .ok [] := by
    unfold itemValues
    rw [h]
  rw [hidesNothing_iff_of_nil hvalues]
  unfold itemsIn itemValues Hides
  rw [h, hlist, hfirst]
  simp

theorem itemsIn_withoutNulls_of_list {name : String} {v : Json}
    (h : itemList? ms = some (name, v)) (hv : isNull v = false) :
    itemsIn (withoutNulls ms) = itemsIn ms ↔ HidesNothing ms := by
  have hlist : itemList? (withoutNulls ms) = some (name, listWithoutNulls v) := by
    have hkept : (!isNull v) = true := by simpa using hv
    rw [itemList?_withoutNulls, itemList?_filled, findSome?_filter_of_some h hkept]
    rfl
  rw [hidesNothing_iff_of_list h hv]
  unfold itemsIn itemValues
  rw [h, hlist]
  cases v with
  | null => cases hv
  | array vs =>
    simp only [listWithoutNulls, Except.ok.injEq]
    exact readItems_withoutNulls_iff 0 vs
  | _ => simp [listWithoutNulls]

/-- Where the first list of items is null, there are no items, and without the null the items are
    those of the first list that is not null. -/
theorem itemsIn_withoutNulls_of_null {name : String} (h : itemList? ms = some (name, .null)) :
    itemsIn (withoutNulls ms) = itemsIn ms ↔ HidesNothing ms := by
  have hvalues : itemValues ms = .ok [] := by
    unfold itemValues
    rw [h]
  have hitems : itemsIn ms = .ok [] := by
    unfold itemsIn
    rw [hvalues]
    rfl
  have hhides : ∀ v, Hides ms itemNames v ↔ (itemList? (filled ms)).map (·.2) = some v := by
    intro v
    unfold Hides
    rw [first?_itemNames, first?_itemNames, h]
    exact and_iff_right rfl
  rw [hidesNothing_iff_of_nil hvalues, hitems]
  simp only [hhides]
  unfold itemsIn itemValues
  rw [itemList?_withoutNulls]
  rcases hlater : itemList? (filled ms) with _ | ⟨later, v⟩
  · simp [Except.bind, readItems]
  · have hv : (!isNull v) = true := by
      rw [itemList?_filled] at hlater
      exact of_findSome?_filter (p := fun e : String × Json => !isNull e.2) hlater
    cases v with
    | null => cases hv
    | array vs => simp [listWithoutNulls, Except.bind, readItems_eq_nil_iff]
    | _ => simp [listWithoutNulls, Except.bind]

/-- Without its null members a document reads the same if and only if none of them hides
    anything. -/
theorem read_withoutNulls_iff (ms : Members) :
    read (.object (withoutNulls ms)) = read (.object ms) ↔ HidesNothing ms := by
  rw [read_withoutNulls_eq_iff]
  rcases h : itemList? ms with _ | ⟨name, v⟩
  · exact itemsIn_withoutNulls_of_none h
  · by_cases hv : isNull v = true
    · rw [isNull_iff.mp hv] at h
      exact itemsIn_withoutNulls_of_null h
    · exact itemsIn_withoutNulls_of_list h (by simpa using hv)

/-- Null under the first name of the list of items leaves the document without items, and null
    under the first name of a number leaves the item without the number. -/
theorem null_hides_later_names :
    (read (.object [("items", .array [.object [("qty", .text "2")]]), ("lineItems", .null)]) =
        .ok ⟨none, []⟩ ∧
      read (.object (withoutNulls
        [("items", .array [.object [("qty", .text "2")]]), ("lineItems", .null)])) ≠
        .ok ⟨none, []⟩) ∧
    read (.object (withoutNulls
        [("items", .array [.object [("qty", .text "2"), ("quantity", .null)]])])) ≠
      read (.object [("items", .array [.object [("qty", .text "2"), ("quantity", .null)]])]) := by
  decide +kernel

end Reconcile.Document
