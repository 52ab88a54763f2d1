import Mathlib
import Reconcile.Proofs.Text.Pattern
import Reconcile.Proofs.Text.UpperCase
import Reconcile.Proofs.Unit.Words

/-! # Amounts and packs

    An amount is a number, optional white space and a unit word that ends there; a pack is a
    count, a sign and an amount.  Both are said here without the patterns that look for them.
    The search backs off from every longer reading it could make, but it need not: what stands
    behind a number, a gap or a word cannot go on with it, so each part is as long as it can be
    and there is one way to read an amount.

    Main statements: `amount_iff_maximal`, `Amount.word_eq`, `occursIn_packOf_iff` and
    `capturesAt_iff`. -/

namespace Reconcile.Measure

open Reconcile.Text

/-! ## Section 1: Stretches -/

/-- The longest beginning of a text with characters of one class only, and what is left. -/
structure Stretch (p : Char → Bool) (xs rest : List Char) : Prop where
  all : ∀ c ∈ xs, p c = true
  ends : ∀ c, rest.head? = some c → p c = false

theorem Stretch.unique {p : Char → Bool} {xs ys rest rest' : List Char}
    (h : Stretch p xs rest) (h' : Stretch p ys rest') (heq : xs ++ rest = ys ++ rest') :
    xs = ys ∧ rest = rest' := by
  induction xs generalizing ys with
  | nil =>
    rcases ys with _ | ⟨d, ys⟩
    · exact ⟨rfl, heq⟩
    · -- the second one would begin where the first one ends
      have hd := h.ends d (by rw [List.nil_append] at heq; simp [heq])
      rw [h'.all d List.mem_cons_self] at hd
      cases hd
  | cons c xs ih =>
    rcases ys with _ | ⟨d, ys⟩
    · have hc := h'.ends c (by rw [List.nil_append] at heq; simp [← heq])
      rw [h.all c List.mem_cons_self] at hc
      cases hc
    · obtain ⟨rfl, htail⟩ := List.cons_eq_cons.mp heq
      obtain ⟨rfl, rfl⟩ := ih ⟨fun e he => h.all e (List.mem_cons_of_mem c he), h.ends⟩
        ⟨fun e he => h'.all e (List.mem_cons_of_mem c he), h'.ends⟩ htail
      exact ⟨rfl, rfl⟩

/-- A stretch that is not empty. -/
structure Run (p : Char → Bool) (xs rest : List Char) : Prop extends Stretch p xs rest where
  ne_nil : xs ≠ []

/-- White space goes on with no number. -/
theorem isDigit_of_isBlank {c : Char} (h : isBlank c = true) :
    isDigit c = false ∧ isPoint c = false := by
  have hall : (blankRanges.members.all fun n =>
      !isDigit (Char.ofNat n) && !isPoint (Char.ofNat n)) = true := by
    decide +kernel
  have hc := List.all_eq_true.mp hall _ (CodeRanges.mem_members h)
  simpa [Char.ofNat_toNat] using hc

theorem isDigit_of_isPoint {c : Char} (h : isPoint c = true) : isDigit c = false := by
  rcases (by simpa [isPoint] using h : c = '.' ∨ c = ',') with rfl | rfl <;> decide +kernel

theorem isDigit_of_isTimes {c : Char} (h : isTimes c = true) :
    isDigit c = false ∧ isPoint c = false := by
  have hcases : c = 'x' ∨ c = 'X' ∨ c = '×' ∨ c = '*' := by simpa [isTimes, or_assoc] using h
  rcases hcases with rfl | rfl | rfl | rfl <;> decide +kernel

/-! ## Section 2: Amounts and packs -/

def Digits (ds : List Char) : Prop := ds ≠ [] ∧ ∀ c ∈ ds, isDigit c = true

def Gap (gap : List Char) : Prop := ∀ c ∈ gap, isBlank c = true

/-- Digits, and optionally a point or comma and more digits. -/
inductive IsNumber : List Char → Prop where
  | whole {ds : List Char} (h : Digits ds) : IsNumber ds
  | decimal {ds es : List Char} {c : Char} (hds : Digits ds) (hc : isPoint c = true)
      (hes : Digits es) : IsNumber (ds ++ c :: es)

/-- A text begins with an amount in the unit of this word: a number, optional white space, and
    the unit word, behind which a word ends. -/
def Amount (text w : List Char) : Prop :=
  ∃ number gap rest, text = number ++ (gap ++ (w ++ rest)) ∧ IsNumber number ∧ Gap gap ∧
    IsUnitWord unitWords w ∧ Pattern.EndsWord rest

/-- A text begins with a pack: a count of pieces, a sign, and the amount in one piece. -/
def Pack (text : List Char) : Prop :=
  ∃ count gap times gap' size, text = count ++ (gap ++ times :: (gap' ++ size)) ∧ Digits count ∧
    Gap gap ∧ isTimes times = true ∧ Gap gap' ∧ ∃ w, Amount size w

/-- What stands before a number does not go on as a number: it is nothing, or its last character
    is neither a digit nor a point. -/
def Leads (before : List Char) : Prop :=
  ∀ c, before.getLast? = some c → isDigit c = false ∧ isPoint c = false

/-! ## Section 3: Amounts are as long as they can be -/

/-- A number in front of a text whose runs of digits are maximal. -/
inductive MaximalNumber : (number rest : List Char) → Prop where
  | whole {ds rest : List Char} (h : Run isDigit ds rest) : MaximalNumber ds rest
  | decimal {ds es rest : List Char} {c : Char} (hds : Run isDigit ds (c :: (es ++ rest)))
      (hc : isPoint c = true) (hes : Run isDigit es rest) : MaximalNumber (ds ++ c :: es) rest

theorem Digits.run {ds rest : List Char} (h : Digits ds)
    (hrest : ∀ c, rest.head? = some c → isDigit c = false) : Run isDigit ds rest :=
  ⟨⟨h.2, hrest⟩, h.1⟩

/-- Digits in front of something else are as many as there are. -/
theorem maximalNumber_iff {number rest : List Char}
    (hrest : ∀ c, rest.head? = some c → isDigit c = false) :
    MaximalNumber number rest ↔ IsNumber number := by
  constructor
  · rintro (⟨h⟩ | ⟨hds, hc, hes⟩)
    · exact .whole ⟨h.ne_nil, h.all⟩
    · exact .decimal ⟨hds.ne_nil, hds.all⟩ hc ⟨hes.ne_nil, hes.all⟩
  · rintro (⟨h⟩ | ⟨hds, hc, hes⟩)
    · exact .whole (h.run hrest)
    · refine .decimal (hds.run ?_) hc (hes.run hrest)
      simp only [List.head?_cons, Option.some.injEq]
      rintro _ rfl
      exact isDigit_of_isPoint hc

section Word

variable {w gap rest : List Char} (hword : IsUnitWord unitWords w)

include hword

theorem IsUnitWord.isWordChar_of_mem {c : Char} (hc : c ∈ w) : isWordChar c = true :=
  (isWordChar_of_folded (hword.folded_isLower hc)).1

/-- A unit word is a whole word where a word ends behind it. -/
theorem IsUnitWord.run_iff : Run isWordChar w rest ↔ Pattern.EndsWord rest :=
  ⟨fun h => h.ends, fun h => ⟨⟨fun _ => hword.isWordChar_of_mem, h⟩, hword.ne_nil⟩⟩

theorem IsUnitWord.head?_append {c : Char} (hc : (w ++ rest).head? = some c) :
    isDigit c = false ∧ isPoint c = false ∧ isBlank c = false := by
  obtain ⟨d, v, rfl⟩ := List.exists_cons_of_ne_nil hword.ne_nil
  obtain rfl : d = c := by simpa using hc
  exact (isWordChar_of_folded (hword.folded_isLower List.mem_cons_self)).2

/-- White space in front of a word is as long as it can be. -/
theorem IsUnitWord.stretch_gap (hgap : Gap gap) : Stretch isBlank gap (w ++ rest) :=
  ⟨hgap, fun _ hc => (hword.head?_append hc).2.2⟩

/-- What stands behind the number of an amount goes on with no number. -/
theorem IsUnitWord.head?_gap (hgap : Gap gap) {c : Char}
    (hc : (gap ++ (w ++ rest)).head? = some c) : isDigit c = false ∧ isPoint c = false := by
  rcases gap with _ | ⟨d, gap⟩
  · have hc := hword.head?_append hc
    exact ⟨hc.1, hc.2.1⟩
  · obtain rfl : d = c := by simpa using hc
    exact isDigit_of_isBlank (hgap d List.mem_cons_self)

end Word

/-- Every part of an amount is as long as it can be. -/
theorem amount_iff_maximal {text w : List Char} :
    Amount text w ↔ ∃ number gap rest, text = number ++ (gap ++ (w ++ rest)) ∧
      MaximalNumber number (gap ++ (w ++ rest)) ∧ Gap gap ∧ Run isWordChar w rest ∧
      IsUnitWord unitWords w := by
  constructor
  · rintro ⟨number, gap, rest, htext, hnumber, hgap, hword, hends⟩
    refine ⟨number, gap, rest, htext, ?_, hgap, hword.run_iff.mpr hends, hword⟩
    exact (maximalNumber_iff fun c hc => (hword.head?_gap hgap hc).1).mpr hnumber
  · rintro ⟨number, gap, rest, htext, hnumber, hgap, hrun, hword⟩
    refine ⟨number, gap, rest, htext, ?_, hgap, hword, hword.run_iff.mp hrun⟩
    exact (maximalNumber_iff fun c hc => (hword.head?_gap hgap hc).1).mp hnumber

/-- A number ends where the text behind it goes on with no number. -/
theorem MaximalNumber.unique {number number' rest rest' : List Char}
    (h : MaximalNumber number rest) (h' : MaximalNumber number' rest')
    (hrest : ∀ c, rest.head? = some c → isPoint c = false)
    (hrest' : ∀ c, rest'.head? = some c → isPoint c = false)
    (heq : number ++ rest = number' ++ rest') : rest = rest' := by
  rcases h with ⟨h⟩ | @⟨ds, es, _, c, hds, hc, hes⟩ <;>
    rcases h' with ⟨h'⟩ | @⟨ds', es', _, c', hds', hc', hes'⟩
  · exact (h.unique h'.toStretch heq).2
  · -- a number with a fraction goes on with a point where one without it ends
    rw [List.append_assoc, List.cons_append] at heq
    obtain ⟨-, rfl⟩ := h.unique hds'.toStretch heq
    rw [hrest c' rfl] at hc'
    cases hc'
  · rw [List.append_assoc, List.cons_append] at heq
    obtain ⟨-, rfl⟩ := hds.unique h'.toStretch heq
    rw [hrest' c rfl] at hc
    cases hc
  · rw [List.append_assoc, List.cons_append, List.append_assoc, List.cons_append] at heq
    obtain ⟨-, heq⟩ := hds.unique hds'.toStretch heq
    exact (hes.unique hes'.toStretch (List.cons_eq_cons.mp heq).2).2

/-- An amount can be read in one way. -/
theorem Amount.word_eq {text w w' : List Char} (h : Amount text w) (h' : Amount text w') :
    w = w' := by
  obtain ⟨number, gap, rest, rfl, hnumber, hgap, hrun, hword⟩ := amount_iff_maximal.mp h
  obtain ⟨number', gap', rest', heq, hnumber', hgap', hrun', hword'⟩ := amount_iff_maximal.mp h'
  have htail : gap ++ (w ++ rest) = gap' ++ (w' ++ rest') :=
    hnumber.unique hnumber' (fun c hc => (hword.head?_gap hgap hc).2)
      (fun c hc => (hword'.head?_gap hgap' hc).2) heq
  obtain ⟨-, hwords⟩ :=
    (hword.stretch_gap hgap).unique (hword'.stretch_gap hgap') htail
  exact (hrun.unique hrun'.toStretch hwords).1

/-! ## Section 4: Patterns for amounts and packs -/

theorem reads_number : number.Reads IsNumber := by
  refine ((Pattern.reads_run isDigit).andThen
    ((Pattern.reads_one isPoint).andThen (Pattern.reads_run isDigit)).optional).congr fun xs => ?_
  constructor
  · rintro ⟨ds, _, rfl, hds, ⟨_, es, rfl, ⟨c, hc, rfl⟩, hes⟩ | rfl⟩
    · exact .decimal hds hc hes
    · rw [List.append_nil]
      exact .whole hds
  · rintro (⟨h⟩ | ⟨hds, hc, hes⟩)
    · exact ⟨_, [], (List.append_nil _).symm, h, .inr rfl⟩
    · exact ⟨_, _, rfl, hds, .inl ⟨[_], _, rfl, ⟨_, hc, rfl⟩, hes⟩⟩

theorem reads_gap : gap.Reads Gap := Pattern.reads_many isBlank

theorem ledAt_iff {s : List Char} {q : Place} :
    Pattern.LedAt (fun c => !(isDigit c || isPoint c)) s q ↔
      s = q.before.reverse ++ q.after ∧ Leads q.before.reverse := by
  simp [Pattern.LedAt, Leads]

/-- Behind a unit word the pattern looks for the end of a word. -/
theorem IsUnitWord.occursAt_wordEdge_iff {q : Place} {w rest : List Char}
    (hword : IsUnitWord unitWords w) :
    Pattern.wordEdge.occursAt (q.past w rest) = true ↔ Pattern.EndsWord rest := by
  have hlast : (q.past w rest).before.head? = some (w.getLast hword.ne_nil) := by
    rw [Place.past, List.head?_append_of_ne_nil _ (by simpa using hword.ne_nil),
      List.head?_reverse, List.getLast?_eq_some_getLast hword.ne_nil]
  exact Pattern.occursAt_wordEdge_iff hlast (hword.isWordChar_of_mem (List.getLast_mem _))

/-- The pattern for a pack whose unit word is one of these. -/
def packOf (words : List String) : Pattern :=
  .andThen lead <| .andThen (.run isDigit) <| .andThen gap <| .andThen (.one isTimes) <|
    .andThen gap <| .andThen number <| .andThen gap <| .andThen (unitWordOf words) .wordEdge

section Patterns

variable {words : List String} (h : ∀ u, u ∈ words ↔ u ∈ unitWords)

include h

/-- The pattern for an amount can be read where there is an amount. -/
theorem occursAt_amount_iff {q : Place} :
    (Pattern.andThen number <| .andThen gap <| .andThen (unitWordOf words) .wordEdge).occursAt q =
      true ↔ ∃ w, Amount q.after w := by
  simp only [reads_number.occursAt_andThen_iff, reads_gap.occursAt_andThen_iff,
    (reads_unitWordOf h).occursAt_andThen_iff]
  constructor
  · rintro ⟨number, _, hq, hnumber, gap, _, rfl, hgap, w, rest, rfl, hword, hedge⟩
    exact ⟨w, number, gap, rest, hq, hnumber, hgap, hword, hword.occursAt_wordEdge_iff.mp hedge⟩
  · rintro ⟨w, number, gap, rest, hq, hnumber, hgap, hword, hends⟩
    exact ⟨number, _, hq, hnumber, gap, _, rfl, hgap, w, rest, rfl, hword,
      hword.occursAt_wordEdge_iff.mpr hends⟩

/-- The pattern for a pack occurs where a pack has nothing before it that goes on as a number. -/
theorem occursIn_packOf_iff {s : List Char} :
    (packOf words).occursIn s = true ↔
      ∃ before text, s = before ++ text ∧ Leads before ∧ Pack text := by
  rw [packOf, lead, Pattern.occursIn_lead_iff]
  simp only [(Pattern.reads_run isDigit).occursAt_andThen_iff, reads_gap.occursAt_andThen_iff,
    (Pattern.reads_one isTimes).occursAt_andThen_iff, occursAt_amount_iff h, ledAt_iff]
  constructor
  · rintro ⟨q, ⟨hs, hleads⟩, count, _, hq, hcount, gap, _, rfl, hgap, _, _, rfl,
      ⟨times, htimes, rfl⟩, gap', size, rfl, hgap', hsize⟩
    exact ⟨q.before.reverse, q.after, hs, hleads, count, gap, times, gap', size, hq, hcount, hgap,
      htimes, hgap', hsize⟩
  · rintro ⟨before, text, hs, hleads, count, gap, times, gap', size, htext, hcount, hgap, htimes,
      hgap', hsize⟩
    refine ⟨⟨before.reverse, text⟩, by simpa using ⟨hs, hleads⟩, count, _, htext, hcount, gap, _,
      rfl, hgap, [times], _, rfl, ⟨times, htimes, rfl⟩, gap', size, rfl, hgap', hsize⟩

/-- The unit word of an amount is what is captured of it. -/
theorem capturesAt_iff {q : Place} {w : List Char} :
    Pattern.CapturesAt (.andThen number gap) (unitWordOf words) .wordEdge q w ↔
      Amount q.after w := by
  constructor
  · rintro ⟨m, hm, e, he, hedge, rfl⟩
    obtain ⟨_, ⟨number, gap, rfl, hnumber, hgap⟩, hpasses⟩ :=
      (reads_number.andThen reads_gap q m).mp hm
    obtain ⟨w, hword, hpasses'⟩ := (reads_unitWordOf h m e).mp he
    rw [hpasses'.upTo_eq]
    refine ⟨number, gap, e.after, ?_, hnumber, hgap, hword, ?_⟩
    · rw [hpasses.after, hpasses'.after, List.append_assoc]
    · have he : e = m.past w e.after := by rw [Place.past, ← hpasses'.before]
      rw [he] at hedge
      exact hword.occursAt_wordEdge_iff.mp hedge
  · rintro ⟨number, gap, rest, hq, hnumber, hgap, hword, hends⟩
    let m := q.past (number ++ gap) (w ++ rest)
    have hm : q.Passes (number ++ gap) m := Place.passes_past (by rw [hq, List.append_assoc])
    have he : m.Passes w (m.past w rest) := Place.passes_past rfl
    exact ⟨m, (reads_number.andThen reads_gap q m).mpr ⟨_, ⟨number, gap, rfl, hnumber, hgap⟩, hm⟩,
      m.past w rest, (reads_unitWordOf h m _).mpr ⟨w, hword, he⟩,
      hword.occursAt_wordEdge_iff.mpr hends, he.upTo_eq⟩

end Patterns

end Reconcile.Measure
