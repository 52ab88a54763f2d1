import Mathlib.Data.List.Basic
import Mathlib.Data.List.Forall2
import Reconcile.Text.Pattern

/-! # What patterns read

    A pattern answers with places.  Most patterns do not look at what stands around them, and
    such a pattern is known by its language: it can end at a place exactly if a text of the
    language stands between.  Whatever the order of the ends is, it does not matter for whether a
    pattern occurs, and it does not matter for what is captured where only one text can be.

    Main statements: `Reads.andThen`, `occursIn_lead_iff` and `capture?_eq_some_iff`. -/

namespace Reconcile.Text

/-! ## Section 1: Places -/

namespace Place

/-- Reading the text leads from one place to the other. -/
structure Passes (q : Place) (xs : List Char) (r : Place) : Prop where
  after : q.after = xs ++ r.after
  before : r.before = xs.reverse ++ q.before

/-- The place behind a text that stands at a place. -/
def past (q : Place) (xs rest : List Char) : Place := ⟨xs.reverse ++ q.before, rest⟩

theorem passes_past {q : Place} {xs rest : List Char} (h : q.after = xs ++ rest) :
    q.Passes xs (q.past xs rest) := ⟨h, rfl⟩

theorem passes_nil_iff {q r : Place} : q.Passes [] r ↔ q = r := by
  constructor
  · intro ⟨hafter, hbefore⟩
    obtain ⟨before, after⟩ := q
    obtain ⟨before', after'⟩ := r
    simp_all
  · rintro rfl
    exact ⟨rfl, rfl⟩

theorem passes_of_nil_iff {before xs : List Char} {r : Place} :
    Passes ⟨before, []⟩ xs r ↔ xs = [] ∧ r = ⟨before, []⟩ := by
  constructor
  · intro h
    obtain ⟨rfl, -⟩ := List.append_eq_nil_iff.mp h.after.symm
    exact ⟨rfl, (passes_nil_iff.mp h).symm⟩
  · rintro ⟨rfl, rfl⟩
    exact passes_nil_iff.mpr rfl

theorem passes_cons_iff {before s xs : List Char} {c d : Char} {r : Place} :
    Passes ⟨before, c :: s⟩ (d :: xs) r ↔ c = d ∧ Passes ⟨c :: before, s⟩ xs r := by
  constructor
  · intro ⟨hafter, hbefore⟩
    obtain ⟨rfl, hs⟩ := List.cons_eq_cons.mp hafter
    exact ⟨rfl, hs, by simpa using hbefore⟩
  · rintro ⟨rfl, hafter, hbefore⟩
    exact ⟨congrArg (c :: ·) hafter, by simpa using hbefore⟩

/-- Two texts are read one after the other. -/
theorem passes_append_iff {q r : Place} {xs ys : List Char} :
    q.Passes (xs ++ ys) r ↔ ∃ m, q.Passes xs m ∧ m.Passes ys r := by
  constructor
  · intro ⟨hafter, hbefore⟩
    refine ⟨q.past xs (ys ++ r.after), passes_past (by rw [hafter, List.append_assoc]), rfl, ?_⟩
    rw [hbefore, List.reverse_append, List.append_assoc]
    rfl
  · rintro ⟨m, ⟨hafter, hbefore⟩, hafter', hbefore'⟩
    constructor
    · rw [hafter, hafter', List.append_assoc]
    · rw [hbefore', hbefore, List.reverse_append, List.append_assoc]

/-- What stands between two places is what is read from one to the other. -/
theorem Passes.upTo_eq {q r : Place} {xs : List Char} (h : q.Passes xs r) : q.upTo r = xs := by
  rw [upTo, h.after, List.length_append, Nat.add_sub_cancel, List.take_left]

/-- The places of a text are the ways to cut it in two. -/
theorem mem_allFrom {before s : List Char} {q : Place} :
    q ∈ allFrom before s ↔ ∃ xs, Passes ⟨before, s⟩ xs q := by
  induction s generalizing before with
  | nil =>
    rw [allFrom, List.mem_singleton]
    simp [passes_of_nil_iff]
  | cons c s ih =>
    rw [allFrom, List.mem_cons, ih]
    constructor
    · rintro (rfl | ⟨xs, h⟩)
      · exact ⟨[], passes_nil_iff.mpr rfl⟩
      · exact ⟨c :: xs, passes_cons_iff.mpr ⟨rfl, h⟩⟩
    · rintro ⟨_ | ⟨d, xs⟩, h⟩
      · exact .inl (passes_nil_iff.mp h).symm
      · exact .inr ⟨xs, (passes_cons_iff.mp h).2⟩

theorem mem_all {s : List Char} {q : Place} : q ∈ all s ↔ s = q.before.reverse ++ q.after := by
  rw [all, mem_allFrom]
  constructor
  · rintro ⟨xs, hafter, hbefore⟩
    rw [List.append_nil] at hbefore
    rw [hbefore, List.reverse_reverse]
    exact hafter
  · intro h
    exact ⟨q.before.reverse, h, by simp⟩

theorem allFrom_eq_cons (before s : List Char) :
    allFrom before s = ⟨before, s⟩ :: (allFrom before s).tail := by
  cases s <;> rfl

/-- The places of a text are listed from its start to its end. -/
theorem pairwise_allFrom (before s : List Char) :
    (allFrom before s).Pairwise fun q r => q.before.length < r.before.length := by
  induction s generalizing before with
  | nil => exact List.pairwise_singleton _ _
  | cons c s ih =>
    rw [allFrom, List.pairwise_cons]
    refine ⟨fun q hq => ?_, ih (c :: before)⟩
    obtain ⟨xs, -, hbefore⟩ := mem_allFrom.mp hq
    rw [hbefore]
    simp
    omega

theorem before_ne_nil_of_mem_tail {s : List Char} {q : Place} (h : q ∈ (all s).tail) :
    q.before ≠ [] := by
  have hpairwise := pairwise_allFrom [] s
  rw [allFrom_eq_cons, List.pairwise_cons] at hpairwise
  exact List.ne_nil_of_length_pos (hpairwise.1 q h)

end Place

/-! ## Section 2: Languages -/

namespace Pattern

/-- A text of the language, and nothing else, stands between a place and an end of the
    pattern. -/
def Reads (a : Pattern) (L : List Char → Prop) : Prop :=
  ∀ q r, r ∈ a q ↔ ∃ xs, L xs ∧ q.Passes xs r

section Languages

variable {a b : Pattern} {L M : List Char → Prop} {p : Char → Bool}

theorem Reads.congr (h : Reads a L) (hLM : ∀ xs, L xs ↔ M xs) : Reads a M := by
  intro q r
  simp only [h q r, hLM]

theorem reads_empty : Reads empty (· = []) := by
  intro q r
  rw [empty, List.mem_singleton]
  simp [Place.passes_nil_iff, eq_comm]

theorem reads_one (p : Char → Bool) : Reads (one p) fun xs => ∃ c, p c = true ∧ xs = [c] := by
  intro q r
  obtain ⟨before, _ | ⟨c, s⟩⟩ := q
  · simp [one, Place.passes_of_nil_iff]
  · simp only [one]
    constructor
    · intro h
      split at h
      · next hc =>
        obtain rfl := List.mem_singleton.mp h
        exact ⟨[c], ⟨c, hc, rfl⟩, rfl, rfl⟩
      · cases h
    · rintro ⟨_, ⟨d, hd, rfl⟩, h⟩
      obtain ⟨rfl, hrest⟩ := Place.passes_cons_iff.mp h
      rw [if_pos hd, List.mem_singleton]
      exact (Place.passes_nil_iff.mp hrest).symm

theorem Reads.andThen (ha : Reads a L) (hb : Reads b M) :
    Reads (andThen a b) fun zs => ∃ xs ys, zs = xs ++ ys ∧ L xs ∧ M ys := by
  intro q r
  simp only [Pattern.andThen, List.mem_flatMap, ha q, hb _ r]
  constructor
  · rintro ⟨m, ⟨xs, hxs, hm⟩, ys, hys, hr⟩
    exact ⟨xs ++ ys, ⟨xs, ys, rfl, hxs, hys⟩, Place.passes_append_iff.mpr ⟨m, hm, hr⟩⟩
  · rintro ⟨_, ⟨xs, ys, rfl, hxs, hys⟩, h⟩
    obtain ⟨m, hm, hr⟩ := Place.passes_append_iff.mp h
    exact ⟨m, ⟨xs, hxs, hm⟩, ys, hys, hr⟩

theorem Reads.orElse (ha : Reads a L) (hb : Reads b M) :
    Reads (orElse a b) fun xs => L xs ∨ M xs := by
  intro q r
  simp only [Pattern.orElse, List.mem_append, ha q r, hb q r, or_and_right, exists_or]

theorem Reads.optional (ha : Reads a L) : Reads (optional a) fun xs => L xs ∨ xs = [] :=
  ha.orElse reads_empty

theorem mem_manyFrom {before s : List Char} {r : Place} :
    r ∈ manyFrom p before s ↔ ∃ xs, (∀ c ∈ xs, p c = true) ∧ Place.Passes ⟨before, s⟩ xs r := by
  induction s generalizing before with
  | nil =>
    rw [manyFrom, List.mem_singleton]
    simp [Place.passes_of_nil_iff]
  | cons c s ih =>
    have hempty : r = ⟨before, c :: s⟩ →
        ∃ xs, (∀ c ∈ xs, p c = true) ∧ Place.Passes ⟨before, c :: s⟩ xs r := fun h =>
      ⟨[], by simp, Place.passes_nil_iff.mpr h.symm⟩
    rw [manyFrom]
    by_cases hc : p c = true
    · rw [if_pos hc, List.mem_append, List.mem_singleton]
      constructor
      · rintro (h | h)
        · obtain ⟨xs, hxs, hpasses⟩ := ih.mp h
          exact ⟨c :: xs, by simpa using ⟨hc, hxs⟩, Place.passes_cons_iff.mpr ⟨rfl, hpasses⟩⟩
        · exact hempty h
      · rintro ⟨_ | ⟨d, xs⟩, hxs, h⟩
        · exact .inr (Place.passes_nil_iff.mp h).symm
        · exact .inl (ih.mpr ⟨xs, fun e he => hxs e (List.mem_cons_of_mem d he),
            (Place.passes_cons_iff.mp h).2⟩)
    · -- the first character is not of the class, so nothing is read
      rw [if_neg hc, List.mem_singleton]
      refine ⟨hempty, ?_⟩
      rintro ⟨_ | ⟨d, xs⟩, hxs, h⟩
      · exact (Place.passes_nil_iff.mp h).symm
      · obtain ⟨rfl, -⟩ := Place.passes_cons_iff.mp h
        exact absurd (hxs c List.mem_cons_self) hc

theorem reads_many (p : Char → Bool) : Reads (many p) fun xs => ∀ c ∈ xs, p c = true :=
  fun _ _ => mem_manyFrom

theorem reads_run (p : Char → Bool) :
    Reads (run p) fun xs => xs ≠ [] ∧ ∀ c ∈ xs, p c = true := by
  refine ((reads_one p).andThen (reads_many p)).congr fun xs => ?_
  constructor
  · rintro ⟨_, ys, rfl, ⟨c, hc, rfl⟩, hys⟩
    exact ⟨by simp, by simpa using ⟨hc, hys⟩⟩
  · rintro ⟨hne, hxs⟩
    obtain ⟨c, ys, rfl⟩ := List.exists_cons_of_ne_nil hne
    exact ⟨[c], ys, rfl, ⟨c, hxs c List.mem_cons_self, rfl⟩,
      fun d hd => hxs d (List.mem_cons_of_mem c hd)⟩

theorem reads_spelled (same : Char → Char → Bool) (w : List Char) :
    Reads (spelled same w) (List.Forall₂ (fun c d => same c d = true) w) := by
  induction w with
  | nil => exact reads_empty.congr fun xs => List.forall₂_nil_left_iff.symm
  | cons c w ih =>
    refine ((reads_one (same c)).andThen ih).congr fun xs => ?_
    rw [List.forall₂_cons_left_iff]
    constructor
    · rintro ⟨_, ys, rfl, ⟨d, hd, rfl⟩, hys⟩
      exact ⟨d, ys, hd, hys, rfl⟩
    · rintro ⟨d, ys, hd, hys, rfl⟩
      exact ⟨[d], ys, rfl, ⟨d, hd, rfl⟩, hys⟩

theorem reads_anyOf {α : Type} {as : List α} {a : α → Pattern} {L : α → List Char → Prop}
    (h : ∀ x, Reads (a x) (L x)) : Reads (anyOf (as.map a)) fun xs => ∃ x ∈ as, L x xs := by
  induction as with
  | nil =>
    intro q r
    simp [anyOf]
  | cons x as ih =>
    refine ((h x).orElse ih).congr fun xs => ?_
    simp

end Languages

/-! ## Section 3: Edges -/

/-- The end of a text in which a word ends: what follows begins with no word character. -/
def EndsWord (rest : List Char) : Prop := ∀ c, rest.head? = some c → isWordChar c = false

theorem occursAt_wordEdge_iff {q : Place} {c : Char} (hc : q.before.head? = some c)
    (hword : isWordChar c = true) : wordEdge.occursAt q = true ↔ EndsWord q.after := by
  have hbefore : q.before.head?.any isWordChar = true := by simp [hc, hword]
  rw [occursAt, wordEdge, hbefore, EndsWord]
  rcases q.after.head? with _ | d
  · simp
  · cases hd : isWordChar d <;> simp [hd]

/-! ## Section 4: Searching -/

section Search

variable {a b c : Pattern} {s : List Char}

theorem occursAt_iff {q : Place} : a.occursAt q = true ↔ ∃ r, r ∈ a q := by
  rw [occursAt, Bool.not_eq_true', List.isEmpty_eq_false_iff_exists_mem]

/-- A first part that begins a text or reads one character is read before exactly those places
    that have no other character in front of them. -/
theorem flatMap_lead (p : Char → Bool) (s : List Char) :
    (Place.all s).flatMap (orElse start (one p)) =
      (Place.all s).filter fun q => q.before.head?.all p := by
  have hone : ∀ before s, (Place.allFrom before s).flatMap (one p) =
      (Place.allFrom before s).tail.filter fun q => q.before.head?.all p := by
    intro before s
    induction s generalizing before with
    | nil => rfl
    | cons c s ih =>
      rw [Place.allFrom, List.flatMap_cons, ih, List.tail_cons, Place.allFrom_eq_cons (c :: before)]
      by_cases hc : p c = true <;> simp [one, hc]
  -- only the first place is at the start of the text
  have hstart : (Place.all s).tail.flatMap (orElse start (one p)) =
      (Place.all s).tail.flatMap (one p) := by
    apply List.flatMap_congr
    intro q hq
    simp [orElse, start, Place.before_ne_nil_of_mem_tail hq]
  calc (Place.all s).flatMap (orElse start (one p))
    _ = ⟨[], s⟩ :: (one p ⟨[], s⟩ ++ (Place.all s).tail.flatMap (one p)) := by
      rw [Place.all, Place.allFrom_eq_cons, List.flatMap_cons, ← Place.allFrom_eq_cons]
      exact congrArg _ hstart
    _ = ⟨[], s⟩ :: (Place.all s).flatMap (one p) := by
      rw [Place.all, Place.allFrom_eq_cons, List.flatMap_cons]
      rfl
    _ = (Place.all s).filter fun q => q.before.head?.all p := by
      rw [Place.all, hone, Place.allFrom_eq_cons, List.filter_cons_of_pos rfl]
      rfl

/-- A place of the text with nothing in front of it, or with a character of the class. -/
def LedAt (p : Char → Bool) (s : List Char) (q : Place) : Prop :=
  s = q.before.reverse ++ q.after ∧ ∀ c, q.before.head? = some c → p c = true

theorem mem_flatMap_lead {p : Char → Bool} {q : Place} :
    q ∈ (Place.all s).flatMap (orElse start (one p)) ↔ LedAt p s q := by
  rw [flatMap_lead, List.mem_filter, Place.mem_all, LedAt, Option.all_eq_true]

/-- A pattern with a lead occurs if it can be read at a place that the lead leaves. -/
theorem occursIn_lead_iff {p : Char → Bool} :
    (andThen (orElse start (one p)) a).occursIn s = true ↔
      ∃ q, LedAt p s q ∧ a.occursAt q = true := by
  simp only [occursIn, List.any_eq_true, occursAt_iff, andThen, List.mem_flatMap,
    ← mem_flatMap_lead]
  constructor
  · rintro ⟨q, hq, r, m, hm, hr⟩
    exact ⟨m, ⟨q, hq, hm⟩, r, hr⟩
  · rintro ⟨m, ⟨q, hq, hm⟩, r, hr⟩
    exact ⟨q, hq, r, m, hm, hr⟩

theorem Reads.occursAt_andThen_iff {L : List Char → Prop} (ha : Reads a L) {q : Place} :
    (Pattern.andThen a b).occursAt q = true ↔
      ∃ xs rest, q.after = xs ++ rest ∧ L xs ∧ b.occursAt (q.past xs rest) = true := by
  simp only [occursAt_iff, Pattern.andThen, List.mem_flatMap, ha q]
  constructor
  · rintro ⟨r, m, ⟨xs, hxs, hm⟩, hr⟩
    have hpast : m = q.past xs m.after := by rw [Place.past, ← hm.before]
    exact ⟨xs, m.after, hm.after, hxs, r, hpast ▸ hr⟩
  · rintro ⟨xs, rest, hq, hxs, r, hr⟩
    exact ⟨r, _, ⟨xs, hxs, Place.passes_past hq⟩, hr⟩

/-- At this place the middle one of three consecutive patterns can read the text. -/
def CapturesAt (a b c : Pattern) (q : Place) (w : List Char) : Prop :=
  ∃ m ∈ a q, ∃ e ∈ b m, c.occursAt e = true ∧ m.upTo e = w

theorem capturesAt_of_captureAt {q : Place} {w : List Char} (h : captureAt a b c q = some w) :
    CapturesAt a b c q w := by
  obtain ⟨m, hm, hfound⟩ := List.exists_of_findSome?_eq_some h
  obtain ⟨e, he, hcapture⟩ := List.exists_of_findSome?_eq_some hfound
  split at hcapture
  · next hc => exact ⟨m, hm, e, he, hc, Option.some.inj hcapture⟩
  · cases hcapture

theorem captureAt_eq_none_iff {q : Place} :
    captureAt a b c q = none ↔ ∀ w, ¬ CapturesAt a b c q w := by
  constructor
  · rintro h w ⟨m, hm, e, he, hc, -⟩
    have hnone := List.findSome?_eq_none_iff.mp (List.findSome?_eq_none_iff.mp h m hm) e he
    rw [if_pos hc] at hnone
    cases hnone
  · intro h
    rcases hcapture : captureAt a b c q with _ | w
    · rfl
    · exact absurd (capturesAt_of_captureAt hcapture) (h w)

/-- Where only one text can be read, it is that one which is captured. -/
theorem captureAt_eq_some_iff {q : Place} {w : List Char}
    (hone : ∀ w w', CapturesAt a b c q w → CapturesAt a b c q w' → w = w') :
    captureAt a b c q = some w ↔ CapturesAt a b c q w := by
  refine ⟨capturesAt_of_captureAt, fun h => ?_⟩
  rcases hcapture : captureAt a b c q with _ | w'
  · exact absurd h (captureAt_eq_none_iff.mp hcapture w)
  · rw [hone w' w (capturesAt_of_captureAt hcapture) h]

theorem findSome?_flatMap {α β γ : Type} (xs : List α) (f : α → List β) (g : β → Option γ) :
    (xs.flatMap f).findSome? g = xs.findSome? fun x => (f x).findSome? g := by
  induction xs with
  | nil => rfl
  | cons x xs ih =>
    rw [List.flatMap_cons, List.findSome?_append, ih, List.findSome?_cons]
    cases (f x).findSome? g <;> rfl

/-- The first hit in a list that goes upwards is the lowest. -/
theorem findSome?_eq_some_iff_of_pairwise {α β : Type} {key : α → Nat} {xs : List α}
    (hxs : xs.Pairwise fun x y => key x < key y) {f : α → Option β} {y : β} :
    xs.findSome? f = some y ↔
      ∃ x ∈ xs, f x = some y ∧ ∀ x' ∈ xs, key x' < key x → f x' = none := by
  rw [List.findSome?_eq_some_iff]
  constructor
  · rintro ⟨before, x, after, rfl, hx, hbefore⟩
    rw [List.pairwise_append, List.pairwise_cons] at hxs
    refine ⟨x, by simp, hx, fun x' hx' hlt => ?_⟩
    rcases List.mem_append.mp hx' with hx' | hx'
    · exact hbefore x' hx'
    · -- from `x` on nothing is lower than `x`
      rcases List.mem_cons.mp hx' with rfl | hx'
      · omega
      · have := hxs.2.1.1 x' hx'
        omega
  · rintro ⟨x, hx, hfx, hlow⟩
    obtain ⟨before, after, rfl⟩ := List.append_of_mem hx
    refine ⟨before, x, after, rfl, hfx, fun x' hx' => ?_⟩
    exact hlow x' (List.mem_append_left _ hx') ((List.pairwise_append.mp hxs).2.2 x' hx' x (by simp))

/-- What is captured behind a lead is read at the first place where something can be read, if
    only one text can be read at each place. -/
theorem capture?_eq_some_iff {p : Char → Bool} {w : List Char}
    (hone : ∀ q w w', CapturesAt a b c q w → CapturesAt a b c q w' → w = w') :
    capture? (andThen (orElse start (one p)) a) b c s = some w ↔
      ∃ q, LedAt p s q ∧ CapturesAt a b c q w ∧
        ∀ q', LedAt p s q' → q'.before.length < q.before.length →
          ∀ w', ¬ CapturesAt a b c q' w' := by
  have hcapture : capture? (andThen (orElse start (one p)) a) b c s =
      ((Place.all s).filter fun q => q.before.head?.all p).findSome? (captureAt a b c) := by
    rw [← flatMap_lead, findSome?_flatMap, capture?]
    congr 1
    funext q
    rw [captureAt, andThen, findSome?_flatMap]
    rfl
  have hled : ∀ q, q ∈ (Place.all s).filter (fun q => q.before.head?.all p) ↔ LedAt p s q := by
    intro q
    rw [← flatMap_lead, mem_flatMap_lead]
  have hsorted : ((Place.all s).filter fun q => q.before.head?.all p).Pairwise
      fun q r => q.before.length < r.before.length := (Place.pairwise_allFrom [] s).filter _
  rw [hcapture, findSome?_eq_some_iff_of_pairwise hsorted]
  simp only [hled, captureAt_eq_some_iff (hone _), captureAt_eq_none_iff]

end Search

end Pattern

end Reconcile.Text
