import Reconcile.Json.Reader
import Reconcile.Proofs.Binary64.ReadBack
import Reconcile.Proofs.Decimal.Plain

/-! # Numbers are read back

    A number of JSON text has digits before the point, digits behind it if there is a point, and
    an exponent if there is a mark for it.  Natural numbers and binary numbers are written in this
    form, so the reader finds them again wherever what follows cannot go on with a number.

    Main statements: `number?_chars`, `exists_numeral_integer` and `exists_numeral_float`. -/

namespace Reconcile.Json

open Decimal (IsDigits of_isDigit isDigit_replicate_zero)

variable {ds rest : List Char}

/-! ## Section 1: The parts of a number -/

/-- No digit, point or mark of an exponent follows. -/
def EndsNumber (rest : List Char) : Prop :=
  ∀ c ∈ rest.head?, c.isDigit = false ∧ c ≠ '.' ∧ c ≠ 'e' ∧ c ≠ 'E'

/-- The parts that a number is written with. -/
structure Numeral where
  whole : List Char
  frac : List Char
  exponent : Option Int

namespace Numeral

/-- An exponent with its mark and its sign. -/
def exponentChars (e : Int) : List Char :=
  'e' :: (if e < 0 then '-' else '+') :: Nat.toDigits 10 e.natAbs

def chars (n : Numeral) : List Char :=
  n.whole ++ (if n.frac = [] then [] else '.' :: n.frac) ++
    (n.exponent.map exponentChars).getD []

/-- There are digits before the point, with a leading zero only alone, and only digits behind
    it. -/
structure IsValid (n : Numeral) : Prop where
  whole : IsDigits n.whole
  leading : n.whole.head? = some '0' → n.whole.length = 1
  frac : ∀ c ∈ n.frac, c.isDigit = true

end Numeral

theorem digits_append (hds : ∀ c ∈ ds, c.isDigit = true)
    (hrest : ∀ c ∈ rest.head?, c.isDigit = false) : digits (ds ++ rest) = (ds, rest) := by
  have hnone : rest.takeWhile Char.isDigit = [] ∧ rest.dropWhile Char.isDigit = rest := by
    cases rest with
    | nil => exact ⟨rfl, rfl⟩
    | cons c rest => simp [hrest c rfl]
  rw [digits, List.takeWhile_append_of_pos hds, List.dropWhile_append_of_pos hds, hnone.1, hnone.2,
    List.append_nil]

theorem isDigits_toDigits (n : Nat) : IsDigits (Nat.toDigits 10 n) :=
  ⟨Nat.toDigits_ne_nil, fun _ => Nat.isDigit_of_mem_toDigits (by decide) (by decide)⟩

theorem splitSign_sign (negative : Bool) (s : List Char) :
    Decimal.splitSign ((if negative then '-' else '+') :: s) = (negative, s) := by
  cases negative <;> rfl

theorem exponentPart?_exponentChars (e : Int) (hrest : EndsNumber rest) :
    exponentPart? (Numeral.exponentChars e ++ rest) = some (some e, rest) := by
  have hdigits := digits_append (isDigits_toDigits e.natAbs).isDigit fun c hc => (hrest c hc).1
  have hsign := splitSign_sign (decide (e < 0)) (Nat.toDigits 10 e.natAbs ++ rest)
  simp only [decide_eq_true_eq] at hsign
  simp [Numeral.exponentChars, exponentPart?, hsign, hdigits, Decimal.withSign_natAbs]

theorem exponentPart?_of_endsNumber (hrest : EndsNumber rest) :
    exponentPart? rest = some (none, rest) := by
  cases rest with
  | nil => rfl
  | cons c rest =>
    obtain ⟨-, -, he, hE⟩ := hrest c rfl
    simp [exponentPart?, he, hE]

/-- Neither a digit nor a point follows. -/
def EndsDigits (rest : List Char) : Prop := ∀ c ∈ rest.head?, c.isDigit = false ∧ c ≠ '.'

theorem exponentPart?_exponent (exponent : Option Int) (hrest : EndsNumber rest) :
    let tail := (exponent.map Numeral.exponentChars).getD [] ++ rest
    exponentPart? tail = some (exponent, rest) ∧ EndsDigits tail := by
  cases exponent with
  | none =>
    exact ⟨exponentPart?_of_endsNumber hrest, fun c hc => ⟨(hrest c hc).1, (hrest c hc).2.1⟩⟩
  | some e =>
    refine ⟨exponentPart?_exponentChars e hrest, fun c hc => ?_⟩
    obtain rfl : 'e' = c := Option.some.inj hc
    decide

theorem fraction?_frac {frac tail : List Char} (hfrac : ∀ c ∈ frac, c.isDigit = true)
    (htail : EndsDigits tail) :
    let body := (if frac = [] then [] else '.' :: frac) ++ tail
    fraction? body = some (frac, tail) ∧ ∀ c ∈ body.head?, c.isDigit = false := by
  by_cases h : frac = []
  · subst h
    refine ⟨?_, fun c hc => (htail c hc).1⟩
    rw [if_pos rfl, List.nil_append]
    cases tail with
    | nil => rfl
    | cons c tail =>
      obtain ⟨-, hpoint⟩ := htail c rfl
      simp [fraction?, hpoint]
  · rw [if_neg h]
    refine ⟨?_, fun c hc => ?_⟩
    · have hdigits := digits_append hfrac fun c hc => (htail c hc).1
      simp [fraction?, hdigits, h]
    · obtain rfl : '.' = c := Option.some.inj hc
      decide

/-- The reader takes a number apart into its parts. -/
theorem number?_chars {n : Numeral} (hn : n.IsValid) (hrest : EndsNumber rest) :
    number? (n.chars ++ rest) =
      (numberOf? false n.whole n.frac n.exponent).map fun v => (v, rest) := by
  obtain ⟨hexponent, htail⟩ := exponentPart?_exponent n.exponent hrest
  obtain ⟨hfraction, hbody⟩ := fraction?_frac hn.frac htail
  have hdigits := digits_append hn.whole.isDigit hbody
  have hguard : (n.whole.isEmpty ||
      decide (n.whole.head? = some '0') && decide (n.whole.length ≠ 1)) = false := by
    simpa [hn.whole.ne_nil] using hn.leading
  obtain ⟨c, whole, hwhole⟩ := List.exists_cons_of_ne_nil hn.whole.ne_nil
  have hminus : c ≠ '-' := by
    rintro rfl
    exact absurd (hn.whole.isDigit '-' (hwhole ▸ List.mem_cons_self)) (by decide)
  have hchars : n.chars ++ rest = n.whole ++ ((if n.frac = [] then [] else '.' :: n.frac) ++
      ((n.exponent.map Numeral.exponentChars).getD [] ++ rest)) := by
    simp [Numeral.chars]
  rw [hchars]
  generalize (n.exponent.map Numeral.exponentChars).getD [] ++ rest = tail at *
  generalize (if n.frac = [] then [] else '.' :: n.frac) ++ tail = body at *
  rw [number?]
  · simp only [hdigits, hguard, Bool.false_eq_true, if_false, hfraction, Option.bind_eq_bind,
      Option.bind_some, hexponent]
    cases numberOf? false n.whole n.frac n.exponent <;> rfl
  · -- no digit is taken for a sign
    intro t ht
    rw [hwhole, List.cons_append] at ht
    exact hminus (List.cons.inj ht).1

/-! ## Section 2: Natural numbers -/

theorem head?_toDigits_ne {n : Nat} (h : 0 < n) : (Nat.toDigits 10 n).head? ≠ some '0' := by
  induction n using Nat.strongRecOn with
  | ind n ih =>
    rcases Nat.lt_or_ge n 10 with hlt | hge
    · have hdigit : ∀ m < 10, 0 < m → [Nat.digitChar m].head? ≠ some '0' := by decide
      rw [Nat.toDigits_of_lt_base hlt]
      exact hdigit n hlt h
    · rw [Nat.toDigits_of_base_le (by decide) hge,
        List.head?_append_of_ne_nil _ Nat.toDigits_ne_nil]
      exact ih (n / 10) (by omega) (by omega)

/-- The digits of a natural number are a number by themselves. -/
theorem isValid_toDigits (n : Nat) : Numeral.IsValid ⟨Nat.toDigits 10 n, [], none⟩ where
  whole := isDigits_toDigits n
  leading h := by
    rcases Nat.eq_zero_or_pos n with rfl | hpos
    · rfl
    · exact absurd h (head?_toDigits_ne hpos)
  frac := by simp

/-- A natural number is read back if 64 bits hold it. -/
theorem exists_numeral_integer {n : Nat} (h : n < 2 ^ 64) :
    ∃ k : Numeral, k.IsValid ∧ k.chars = Nat.toDigits 10 n ∧
      numberOf? false k.whole k.frac k.exponent = some (.integer n) := by
  refine ⟨⟨Nat.toDigits 10 n, [], none⟩, isValid_toDigits n, by simp [Numeral.chars], ?_⟩
  have hword : (Decimal.isWord64 n || decide (n < Nat.pow 2 64)) = true := by
    rw [Bool.or_eq_true, decide_eq_true_eq]
    exact .inr h
  rw [numberOf?, Nat.ofDigitChars_ten_toDigits]
  simp [Decimal.withSign, hword]

/-! ## Section 3: Binary numbers -/

open Binary64

variable {x : Binary64} {n : Numeral}

/-- The number that the parts stand for. -/
def Numeral.value (n : Numeral) : ℚ :=
  Nat.ofDigitChars 10 (n.whole ++ n.frac) 0 * 10 ^ (n.exponent.getD 0 - n.frac.length)

/-- Parts within reach of a number are read as it, unless they are those of a whole number. -/
theorem numberOf?_of_reaches (hx : x.IsPositive) (h : x.Reaches n.value)
    (hpoint : n.frac = [] → n.exponent.isSome = true) :
    numberOf? false n.whole n.frac n.exponent = some (.float x) := by
  have hfloat : (n.frac.isEmpty && n.exponent.isNone) = false := by
    simpa using hpoint
  simp [numberOf?, hfloat, ofDigits?_of_reaches hx h]

/-- A numeral for digits with a point: it has a fraction, and the value that the digits have with
    the point in this place. -/
structure Numeral.IsPositional (n : Numeral) (ds : List Char) (point : Int) : Prop where
  valid : n.IsValid
  chars : n.chars = positional ds point
  frac_ne_nil : n.frac ≠ []
  value : n.value = Nat.ofDigitChars 10 ds 0 * 10 ^ (point - ds.length)

/-- There are zeros between the point and the digits. -/
theorem isPositional_of_nonpos (hds : IsDigits ds) (k : Nat) :
    Numeral.IsPositional ⟨['0'], List.replicate k '0' ++ ds, none⟩ ds (-(k : Int)) where
  valid := ⟨⟨by simp, by simp⟩, fun _ => rfl,
    List.forall_mem_append.mpr ⟨isDigit_replicate_zero k, hds.isDigit⟩⟩
  chars := by simp [Numeral.chars, positional, hds.ne_nil]
  frac_ne_nil := by simp [hds.ne_nil]
  value := by
    have hzeros : Nat.ofDigitChars 10 ('0' :: (List.replicate k '0' ++ ds)) 0 =
        Nat.ofDigitChars 10 ds 0 := by
      rw [Nat.ofDigitChars_cons, Nat.ofDigitChars_append, Nat.ofDigitChars_replicate_zero]
      rfl
    rw [Numeral.value, List.singleton_append, hzeros]
    congr 2
    simp
    ring

/-- There are zeros between the digits and the point. -/
theorem isPositional_of_length_le (hds : IsDigits ds) (hleading : ds.head? ≠ some '0') {k : Nat}
    (hk : ds.length ≤ k) :
    Numeral.IsPositional ⟨ds ++ List.replicate (k - ds.length) '0', ['0'], none⟩ ds k where
  valid := by
    refine ⟨⟨by simp [hds.ne_nil], ?_⟩, fun h => ?_, by simp⟩
    · exact List.forall_mem_append.mpr ⟨hds.isDigit, isDigit_replicate_zero _⟩
    · rw [List.head?_append_of_ne_nil _ hds.ne_nil] at h
      exact absurd h hleading
  chars := by
    have hpos : 0 < ds.length := List.length_pos_of_ne_nil hds.ne_nil
    simp [Numeral.chars, positional, hk, show k ≠ 0 by omega]
  frac_ne_nil := by simp
  value := by
    have hzeros : Nat.ofDigitChars 10 (ds ++ List.replicate (k - ds.length) '0' ++ ['0']) 0 =
        10 * (10 ^ (k - ds.length) * Nat.ofDigitChars 10 ds 0) := by
      rw [Nat.ofDigitChars_append, Nat.ofDigitChars_append, Nat.ofDigitChars_replicate_zero]
      rfl
    have hexponent : (none : Option Int).getD 0 - (['0'].length : Int) = -1 := rfl
    rw [Numeral.value, hzeros, hexponent, ← Nat.cast_sub hk, zpow_natCast, zpow_neg_one]
    push_cast
    field_simp

/-- The point stands among the digits. -/
theorem isPositional_of_lt_length (hds : IsDigits ds) (hleading : ds.head? ≠ some '0') {k : Nat}
    (hpos : 0 < k) (hk : k < ds.length) :
    Numeral.IsPositional ⟨ds.take k, ds.drop k, none⟩ ds k where
  valid := by
    refine ⟨⟨?_, ?_⟩, fun h => ?_, ?_⟩
    · exact mt List.take_eq_nil_iff.mp (by simp [hpos.ne', hds.ne_nil])
    · exact fun c hc => hds.isDigit c (List.mem_of_mem_take hc)
    · rw [List.head?_take, if_neg hpos.ne'] at h
      exact absurd h hleading
    · exact fun c hc => hds.isDigit c (List.mem_of_mem_drop hc)
  chars := by
    have hfrac : ds.drop k ≠ [] := mt List.drop_eq_nil_iff.mp (by omega)
    simp [Numeral.chars, positional, hfrac, show k ≠ 0 by omega, show ¬ ds.length ≤ k by omega]
  frac_ne_nil := mt List.drop_eq_nil_iff.mp (by omega)
  value := by
    rw [Numeral.value, List.take_append_drop]
    congr 2
    simp
    omega

theorem exists_isPositional (hds : IsDigits ds) (hleading : ds.head? ≠ some '0') (point : Int) :
    ∃ n : Numeral, n.IsPositional ds point := by
  rcases Int.eq_nat_or_neg point with ⟨k, rfl | rfl⟩
  · rcases Nat.eq_zero_or_pos k with rfl | hpos
    · exact ⟨_, isPositional_of_nonpos hds 0⟩
    · rcases Nat.lt_or_ge k ds.length with hk | hk
      · exact ⟨_, isPositional_of_lt_length hds hleading hpos hk⟩
      · exact ⟨_, isPositional_of_length_le hds hleading hk⟩
  · exact ⟨_, isPositional_of_nonpos hds k⟩

/-- One digit stands before the point and the others behind it. -/
theorem exists_scientific (hds : IsDigits ds) (exponent : Int) :
    ∃ n : Numeral, n.IsValid ∧ n.chars = scientific ds exponent ∧ n.exponent.isSome = true ∧
      n.value = Nat.ofDigitChars 10 ds 0 * 10 ^ (exponent + 1 - ds.length) := by
  obtain ⟨d, rest, rfl⟩ := List.exists_cons_of_ne_nil hds.ne_nil
  refine ⟨⟨[d], rest, some exponent⟩, ⟨⟨by simp, ?_⟩, fun _ => rfl, ?_⟩, ?_, rfl, ?_⟩
  · exact List.forall_mem_singleton.mpr (hds.isDigit d List.mem_cons_self)
  · exact fun c hc => hds.isDigit c (List.mem_cons_of_mem d hc)
  · cases rest <;> simp [scientific, Numeral.chars, Numeral.exponentChars]
  · rw [Numeral.value, List.singleton_append]
    congr 2
    simp

/-- The text of a positive number is a numeral for its shortest digits. -/
theorem exists_text (hx : x.IsPositive) :
    ∃ n : Numeral, n.IsValid ∧ n.chars = x.text.toList ∧
      (n.frac = [] → n.exponent.isSome = true) ∧ n.value = (shortest .even x).value := by
  let d := shortest .even x
  let ds := Nat.toDigits 10 d.coefficient
  let point : Int := ds.length + d.power
  have hds : IsDigits ds := isDigits_toDigits d.coefficient
  have hleading : ds.head? ≠ some '0' := head?_toDigits_ne (coefficient_shortest_pos hx .even)
  have hvalue : Nat.ofDigitChars 10 ds 0 = d.coefficient := Nat.ofDigitChars_ten_toDigits
  have htext : x.text.toList =
      if -5 < point && point ≤ 16 then positional ds point else scientific ds (point - 1) := by
    rw [Binary64.text, textAbove, Binary64.withSign, hx.unsigned, hx.nonzero]
    exact String.toList_ofList
  rw [htext]
  split
  · obtain ⟨n, hn⟩ := exists_isPositional hds hleading point
    refine ⟨n, hn.valid, hn.chars, fun h => absurd h hn.frac_ne_nil, ?_⟩
    rw [hn.value, hvalue, add_sub_cancel_left]
    rfl
  · obtain ⟨n, hn, hchars, hexponent, hn'⟩ := exists_scientific hds (point - 1)
    refine ⟨n, hn, hchars, fun _ => hexponent, ?_⟩
    rw [hn', hvalue, sub_add_cancel, add_sub_cancel_left]
    rfl

theorem eq_zero_of_isZero (hunsigned : x.isNegative = false) (h : x.isZero = true) :
    x = Binary64.zero := by
  have hfields : x.exponentField = 0 ∧ x.fractionField = 0 := by simpa [isZero] using h
  have hbits := bits_eq hunsigned
  rw [hfields.1, hfields.2] at hbits
  obtain ⟨bits⟩ := x
  exact congrArg Binary64.mk (UInt64.toNat_inj.mp hbits)

/-- The text of a number without a sign is read back. -/
theorem exists_numeral_float (hfinite : x.isFinite = true) (hunsigned : x.isNegative = false) :
    ∃ n : Numeral, n.IsValid ∧ n.chars = x.text.toList ∧
      numberOf? false n.whole n.frac n.exponent = some (.float x) := by
  by_cases hzero : x.isZero = true
  · obtain rfl := eq_zero_of_isZero hunsigned hzero
    exact ⟨⟨['0'], ['0'], none⟩, ⟨⟨by simp, by simp⟩, fun _ => rfl, by simp⟩, rfl, rfl⟩
  · have hx : x.IsPositive := ⟨hfinite, hunsigned, by simpa using hzero⟩
    obtain ⟨n, hn, hchars, hpoint, hvalue⟩ := exists_text hx
    have hreaches : x.Reaches n.value := hvalue ▸ reaches_shortest hx .even
    exact ⟨n, hn, hchars, numberOf?_of_reaches hx hreaches hpoint⟩

end Reconcile.Json
