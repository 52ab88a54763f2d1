import Mathlib.Data.Nat.Bitwise
import Reconcile.Text.Case

/-! # Mappings of characters

    A mapping of characters is given by spans and expansions.  What it says of a character is told
    by the code points that it changes, and by the forms that it changes them to.  Both sets are
    finite, so that two of them can be compared by calculation: a mapping none of whose forms is
    changed by it again leaves alone all that it has made.

    Main statements: `mapChar_cases` and `mapChar_of_mem`. -/

namespace Reconcile.Text

/-! ## Section 1: Code points in bulk -/

/-- The code points that a span has. -/
def CodeSpan.members (s : CodeSpan) : List Nat :=
  (List.range ((s.last - s.first) / s.stride + 1)).map fun k => s.first + s.stride * k

theorem CodeSpan.mem_members {s : CodeSpan} {n : Nat} (h : s.has n = true) : n ∈ s.members := by
  obtain ⟨⟨hfirst, hlast⟩, hstride⟩ :
      (s.first ≤ n ∧ n ≤ s.last) ∧ (n - s.first) % s.stride = 0 := by
    simpa [has] using h
  refine List.mem_map.mpr ⟨(n - s.first) / s.stride, ?_, ?_⟩
  · rw [List.mem_range]
    exact Nat.lt_succ_of_le (Nat.div_le_div_right (by omega))
  · rw [Nat.mul_div_cancel' (Nat.dvd_of_mod_eq_zero hstride)]
    omega

/-- The code points of a class. -/
def CodeRanges.members (t : CodeRanges) : List Nat :=
  t.flatMap fun r => List.range' r.1 (r.2 - r.1 + 1)

theorem CodeRanges.mem_members {t : CodeRanges} {c : Char} (h : t.has c = true) :
    c.toNat ∈ t.members := by
  obtain ⟨r, hr, hc⟩ := List.any_eq_true.mp h
  simp only [Bool.and_eq_true, decide_eq_true_eq] at hc
  refine List.mem_flatMap.mpr ⟨r, hr, List.mem_range'_1.mpr ?_⟩
  omega

/-- A set of numbers as the bits of one number, so that two sets can be compared in one go. -/
def bits (ns : List Nat) : Nat := ns.foldr (fun n m => 1 <<< n ||| m) 0

theorem testBit_bits (ns : List Nat) (n : Nat) : (bits ns).testBit n = decide (n ∈ ns) := by
  induction ns with
  | nil => simp [bits]
  | cons k ns ih =>
    have hbit : (1 <<< k).testBit n = decide (n = k) := by
      rw [Nat.one_shiftLeft, Nat.testBit_two_pow]
      simp [eq_comm]
    rw [show bits (k :: ns) = 1 <<< k ||| bits ns from rfl, Nat.testBit_or, ih, hbit]
    simp

theorem not_mem_of_bits {ms ns : List Nat} (h : bits ms &&& bits ns = 0) {n : Nat}
    (hn : n ∈ ms) : n ∉ ns := by
  intro hn'
  have hbit : (bits ms &&& bits ns).testBit n = true := by
    rw [Nat.testBit_and, testBit_bits, testBit_bits]
    simp [hn, hn']
  simp [h] at hbit

/-! ## Section 2: What a mapping does to a character -/

variable {spans : List CodeSpan} {expansions : List (Nat × List Nat)}

/-- The code points that a mapping changes. -/
def changedBy (spans : List CodeSpan) (expansions : List (Nat × List Nat)) : List Nat :=
  spans.flatMap CodeSpan.members ++ expansions.map (·.1)

/-- The code points that it changes them to. -/
def formsOf (spans : List CodeSpan) (expansions : List (Nat × List Nat)) : List Nat :=
  (spans.flatMap fun s => s.members.map s.apply) ++ expansions.flatMap (·.2)

/-- A character that a mapping does not change stays what it is. -/
theorem mapChar_of_not_mem {c : Char} (h : c.toNat ∉ changedBy spans expansions) :
    mapChar spans expansions c = [c] := by
  have hspan : CodeSpan.lookup? spans c.toNat = none := by
    rw [CodeSpan.lookup?, Option.map_eq_none_iff, List.find?_eq_none]
    intro s hs hhas
    exact h (List.mem_append_left _ (List.mem_flatMap.mpr ⟨s, hs, CodeSpan.mem_members hhas⟩))
  have hmany : expansions.lookup c.toNat = none := by
    rw [List.lookup_eq_none_iff]
    intro e he
    rw [bne_iff_ne]
    intro heq
    exact h (List.mem_append_right _ (List.mem_map.mpr ⟨e, he, heq.symm⟩))
  rw [mapChar, hspan]
  simp only [hmany]

/-- A character stays what it is, or a span moves it, or it is one of those that become several. -/
theorem mapChar_sources (spans : List CodeSpan) (expansions : List (Nat × List Nat)) (c : Char) :
    mapChar spans expansions c = [c] ∨
      (∃ span ∈ spans, c.toNat ∈ span.members ∧
        mapChar spans expansions c = [Char.ofNat (span.apply c.toNat)]) ∨
      ∃ e ∈ expansions, c.toNat = e.1 ∧ mapChar spans expansions c = e.2.map Char.ofNat := by
  rw [mapChar]
  -- a span gives one form, and only where there is none an expansion may give several
  rcases hspan : CodeSpan.lookup? spans c.toNat with _ | n
  · rcases hmany : expansions.lookup c.toNat with _ | ns
    · exact .inl rfl
    · obtain ⟨before, after, hsplit, -⟩ := List.lookup_eq_some_iff.mp hmany
      have hmem : (c.toNat, ns) ∈ expansions := by simp [hsplit]
      exact .inr (.inr ⟨_, hmem, rfl, rfl⟩)
  · obtain ⟨span, hfind, rfl⟩ := Option.map_eq_some_iff.mp hspan
    have hhas : span.has c.toNat = true := by simpa using List.find?_some hfind
    exact .inr (.inl ⟨span, List.mem_of_find?_eq_some hfind, CodeSpan.mem_members hhas, rfl⟩)

/-- A character becomes some forms of the mapping, or stays what it is. -/
theorem mapChar_cases (spans : List CodeSpan) (hexpansions : ∀ e ∈ expansions, e.2 ≠ [])
    (c : Char) :
    mapChar spans expansions c = [c] ∨ mapChar spans expansions c ≠ [] ∧
      ∀ d ∈ mapChar spans expansions c, ∃ n ∈ formsOf spans expansions, d = Char.ofNat n := by
  rcases mapChar_sources spans expansions c with
    hsame | ⟨span, hspan, hmem, himage⟩ | ⟨e, he, -, himage⟩
  · exact .inl hsame
  · refine .inr ⟨by simp [himage], fun d hd => ⟨span.apply c.toNat, ?_, ?_⟩⟩
    · exact List.mem_append_left _ (List.mem_flatMap.mpr ⟨span, hspan, List.mem_map_of_mem hmem⟩)
    · rw [himage] at hd
      exact List.mem_singleton.mp hd
  · refine .inr ⟨by simpa [himage] using hexpansions e he, fun d hd => ?_⟩
    rw [himage] at hd
    obtain ⟨n, hn, rfl⟩ := List.mem_map.mp hd
    exact ⟨n, List.mem_append_right _ (List.mem_flatMap.mpr ⟨e, he, hn⟩), rfl⟩

/-! ## Section 3: Mappings that leave their forms alone -/

/-- A mapping loses no character, and changes none of its forms again. -/
structure Settles (spans : List CodeSpan) (expansions : List (Nat × List Nat)) : Prop where
  ne_nil : ∀ e ∈ expansions, e.2 ≠ []
  valid : ∀ n ∈ formsOf spans expansions, n.isValidChar
  apart : ∀ n ∈ formsOf spans expansions, n ∉ changedBy spans expansions

theorem toNat_ofNat {n : Nat} (h : n.isValidChar) : (Char.ofNat n).toNat = n := by
  rw [Char.ofNat, dif_pos h]
  rfl

namespace Settles

variable (h : Settles spans expansions)
include h

theorem mapChar_ne_nil (c : Char) : mapChar spans expansions c ≠ [] := by
  rcases mapChar_cases spans h.ne_nil c with hsame | ⟨hne, -⟩
  · simp [hsame]
  · exact hne

/-- What a mapping has made stays what it is. -/
theorem mapChar_of_mem {c d : Char} (hd : d ∈ mapChar spans expansions c) :
    mapChar spans expansions d = [d] := by
  rcases mapChar_cases spans h.ne_nil c with hsame | ⟨-, hforms⟩
  · rw [hsame, List.mem_singleton] at hd
    rw [hd, hsame]
  · obtain ⟨n, hn, rfl⟩ := hforms d hd
    refine mapChar_of_not_mem ?_
    rw [toNat_ofNat (h.valid n hn)]
    exact h.apart n hn

end Settles

end Reconcile.Text
