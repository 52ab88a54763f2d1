import Reconcile.Proofs.Decimal.Parentheses

/-! # The grammar of amounts

    Which texts are decimal text, and which decimal each of them stands for, is said here by rules
    that know nothing of the reader: digits may have a sign, a base may have a point anywhere among
    its sign and digits, and an exponent may follow it.  The reader accepts what the rules allow
    and nothing else.  A scale has no bounds here, so that an exponent is only asked to be an
    integer of 64 bits.

    Main statements: `readChars?_eq_some_iff` for decimal text, and `amount?_eq_some_iff` for
    amounts, of which the rules are asked for what is left without parentheses and fillers. -/

namespace Reconcile.Decimal

open Text

variable {s ds whole fraction : List Char} {n x : Int} {places : Nat} {d : Decimal}

/-! ## Section 1: The rules -/

/-- At least one digit, and nothing but digits. -/
structure IsDigits (ds : List Char) : Prop where
  ne_nil : ds ≠ []
  isDigit : ∀ c ∈ ds, c.isDigit = true

/-- Digits with at most one sign in front of them, and the integer they stand for. -/
inductive IsInteger : List Char → Int → Prop where
  | bare {ds : List Char} (h : IsDigits ds) : IsInteger ds (Nat.ofDigitChars 10 ds 0)
  | plus {ds : List Char} (h : IsDigits ds) : IsInteger ('+' :: ds) (Nat.ofDigitChars 10 ds 0)
  | minus {ds : List Char} (h : IsDigits ds) : IsInteger ('-' :: ds) (-Nat.ofDigitChars 10 ds 0)

/-- The integer has at most 64 bits. -/
def FitsWord (n : Int) : Prop := -2 ^ 63 ≤ n ∧ n < 2 ^ 63

/-- An exponent: an integer of at most 64 bits, with one more plus sign in front if need be. -/
inductive IsExponent : List Char → Int → Prop where
  | integer {s : List Char} {n : Int} (h : IsInteger s n) (hfits : FitsWord n) : IsExponent s n
  | plus {s : List Char} {n : Int} (h : IsInteger s n) (hfits : FitsWord n) :
      IsExponent ('+' :: s) n

/-- A base: without its first point it is an integer, and the characters behind that point are
    its places. -/
inductive IsBase : List Char → Int → Nat → Prop where
  | whole {s : List Char} {n : Int} (hpoint : '.' ∉ s) (h : IsInteger s n) : IsBase s n 0
  | pointed {whole fraction : List Char} {n : Int} (hpoint : '.' ∉ whole)
      (h : IsInteger (whole ++ fraction) n) :
      IsBase (whole ++ '.' :: fraction) n fraction.length

/-- Decimal text: a base, and after a mark an exponent, which is taken off the places. -/
inductive IsDecimal : List Char → Decimal → Prop where
  | base {s : List Char} {n : Int} {places : Nat} (h : IsBase s n places) : IsDecimal s ⟨n, places⟩
  | exponent {s e : List Char} {n x : Int} {places : Nat} {mark : Char} (h : IsBase s n places)
      (hmark : mark = 'e' ∨ mark = 'E') (hexponent : IsExponent e x) :
      IsDecimal (s ++ mark :: e) ⟨n, places - x⟩

/-! ## Section 2: Integers -/

theorem natural?_eq_some_iff {n : Nat} :
    natural? s = some n ↔ IsDigits s ∧ Nat.ofDigitChars 10 s 0 = n := by
  unfold natural?
  split
  · rename_i hdigits
    have h : IsDigits s := by
      simp only [Bool.and_eq_true, Bool.not_eq_true', List.isEmpty_eq_false_iff,
        List.all_eq_true] at hdigits
      exact ⟨hdigits.1, hdigits.2⟩
    simp [h]
  · rename_i hother
    simp only [reduceCtorEq, false_iff, not_and]
    intro h
    refine absurd ?_ hother
    simpa using ⟨h.ne_nil, h.isDigit⟩

/-- Without underscores, digits are in one group. -/
theorem grouped?_eq_natural? (h : '_' ∉ s) : grouped? s = natural? s := by
  have hfilter : s.filter (· != '_') = s := by
    rw [List.filter_eq_self]
    rintro c hc
    rw [bne_iff_ne]
    rintro rfl
    exact h hc
  -- a character that is a digit or an underscore is then a digit
  have hall : (s.all fun c => c.isDigit || c == '_') = s.all Char.isDigit := by
    refine Bool.eq_iff_iff.mpr ?_
    simp only [List.all_eq_true, Bool.or_eq_true, beq_iff_eq]
    constructor
    · intro hdigits c hc
      exact (hdigits c hc).resolve_right fun heq => h (heq ▸ hc)
    · exact fun hdigits c hc => .inl (hdigits c hc)
  unfold grouped? natural?
  split
  · rfl
  · exact absurd List.mem_cons_self h
  · rename_i hne _
    rw [hall, hfilter, List.isEmpty_eq_false_iff.mpr hne, Bool.not_false, Bool.true_and]

theorem splitSign_of_isDigits (h : IsDigits ds) : splitSign ds = (false, ds) := by
  unfold splitSign
  split
  · exact absurd (h.isDigit '-' List.mem_cons_self) (by decide)
  · exact absurd (h.isDigit '+' List.mem_cons_self) (by decide)
  · rfl

theorem isInteger_iff :
    IsInteger s n ↔ ∃ m, natural? (splitSign s).2 = some m ∧ withSign (splitSign s).1 m = n := by
  constructor
  · intro h
    cases h with
    | bare h =>
      -- no digit is taken for a sign
      rw [splitSign_of_isDigits h]
      exact ⟨_, natural?_eq_some_iff.mpr ⟨h, rfl⟩, rfl⟩
    | plus h => exact ⟨_, natural?_eq_some_iff.mpr ⟨h, rfl⟩, rfl⟩
    | minus h => exact ⟨_, natural?_eq_some_iff.mpr ⟨h, rfl⟩, rfl⟩
  · rintro ⟨m, hm, rfl⟩
    obtain ⟨h, rfl⟩ := natural?_eq_some_iff.mp hm
    unfold splitSign at h ⊢
    split at h
    · exact .minus h
    · exact .plus h
    · exact .bare h

theorem coefficient?_eq_some_iff (h : '_' ∉ s) : coefficient? s = some n ↔ IsInteger s n := by
  have hbody : '_' ∉ (splitSign s).2 := by
    unfold splitSign
    split
    · exact fun hmem => h (List.mem_cons_of_mem _ hmem)
    · exact fun hmem => h (List.mem_cons_of_mem _ hmem)
    · exact h
  rw [isInteger_iff, ← grouped?_eq_natural? hbody]
  exact Option.map_eq_some_iff

theorem isWord64_iff : isWord64 n = true ↔ FitsWord n := by
  unfold isWord64 FitsWord
  simp only [Bool.and_eq_true, decide_eq_true_eq]
  omega

theorem word64?_eq_some_iff : word64? s = some n ↔ IsInteger s n ∧ FitsWord n := by
  have hread : word64? s = some n ↔ ∃ m, natural? (splitSign s).2 = some m ∧
      (if isWord64 (withSign (splitSign s).1 m) = true then some (withSign (splitSign s).1 m)
        else none) = some n := Option.bind_eq_some_iff
  rw [hread, isInteger_iff, ← isWord64_iff]
  constructor
  · rintro ⟨m, hm, hword⟩
    split at hword
    · rename_i hfits
      obtain rfl := Option.some.inj hword
      exact ⟨⟨m, hm, rfl⟩, hfits⟩
    · cases hword
  · rintro ⟨⟨m, hm, rfl⟩, hfits⟩
    exact ⟨m, hm, if_pos hfits⟩

/-- An exponent that begins with a plus sign may have it as its sign or in front; both ways it is
    the same integer. -/
theorem exponent?_eq_some_iff : exponent? s = some x ↔ IsExponent s x := by
  constructor
  · intro h
    unfold exponent? at h
    split at h
    · obtain ⟨hinteger, hfits⟩ := word64?_eq_some_iff.mp h
      exact .plus hinteger hfits
    · obtain ⟨hinteger, hfits⟩ := word64?_eq_some_iff.mp h
      exact .integer hinteger hfits
  · intro h
    cases h with
    | plus hinteger hfits => exact word64?_eq_some_iff.mpr ⟨hinteger, hfits⟩
    | integer hinteger hfits =>
      unfold exponent?
      split
      · -- the reader takes the sign for the plus sign in front, and reads the digits behind it
        refine word64?_eq_some_iff.mpr ⟨?_, hfits⟩
        cases hinteger with
        | plus hdigits => exact .bare hdigits
        | bare hdigits => exact absurd (hdigits.isDigit '+' List.mem_cons_self) (by decide)
      · exact word64?_eq_some_iff.mpr ⟨hinteger, hfits⟩

/-! ## Section 3: Decimal text -/

theorem ne_point_of_not_mem (hpoint : '.' ∉ s) : ∀ c ∈ s, (c != '.') = true := by
  intro c hc
  rw [bne_iff_ne]
  rintro rfl
  exact hpoint hc

theorem ofBase?_of_no_point (hpoint : '.' ∉ s) (x : Int) :
    ofBase? s x = (coefficient? s).map fun n => ⟨n, -x⟩ := by
  have hall := ne_point_of_not_mem hpoint
  unfold ofBase?
  rw [List.takeWhile_eq_self_iff.mpr hall, List.dropWhile_eq_nil_iff.mpr hall]
  rcases s with _ | ⟨c, s⟩ <;> simp [coefficient?, splitSign, grouped?]

theorem ofBase?_of_point (hpoint : '.' ∉ whole) (fraction : List Char) (x : Int) :
    ofBase? (whole ++ '.' :: fraction) x =
      (coefficient? (whole ++ fraction)).map fun n => ⟨n, fraction.length - x⟩ := by
  have hall := ne_point_of_not_mem hpoint
  unfold ofBase?
  rw [List.takeWhile_append_of_pos hall, List.dropWhile_append_of_pos hall]
  simp

theorem ofBase?_eq_some_iff (h : '_' ∉ s) :
    ofBase? s x = some d ↔ ∃ n places, IsBase s n places ∧ ⟨n, places - x⟩ = d := by
  have hplain : ∀ {whole fraction : List Char}, '_' ∉ whole ++ '.' :: fraction →
      '_' ∉ whole ++ fraction := by
    intro whole fraction h
    simp only [List.mem_append, List.mem_cons, not_or] at h ⊢
    exact ⟨h.1, h.2.2⟩
  constructor
  · intro hread
    -- the reader cuts at the first point, and so does the rule
    by_cases hpoint : '.' ∈ s
    · obtain ⟨whole, fraction, rfl, hwhole⟩ := List.eq_append_cons_of_mem hpoint
      rw [ofBase?_of_point hwhole] at hread
      obtain ⟨n, hn, rfl⟩ := Option.map_eq_some_iff.mp hread
      exact ⟨n, _, .pointed hwhole ((coefficient?_eq_some_iff (hplain h)).mp hn), rfl⟩
    · rw [ofBase?_of_no_point hpoint] at hread
      obtain ⟨n, hn, rfl⟩ := Option.map_eq_some_iff.mp hread
      exact ⟨n, 0, .whole hpoint ((coefficient?_eq_some_iff h).mp hn), by simp⟩
  · rintro ⟨n, places, hbase, rfl⟩
    cases hbase with
    | whole hpoint hinteger =>
      rw [ofBase?_of_no_point hpoint, (coefficient?_eq_some_iff h).mpr hinteger]
      simp
    | pointed hpoint hinteger =>
      rw [ofBase?_of_point hpoint, (coefficient?_eq_some_iff (hplain h)).mpr hinteger]
      rfl

/-- What the text of a base is made of. -/
def isBaseChar (c : Char) : Bool := c.isDigit || c = '.' || c = '+' || c = '-'

theorem IsInteger.all_isBaseChar (h : IsInteger s n) : ∀ c ∈ s, isBaseChar c = true := by
  have hdigits : ∀ {ds : List Char}, IsDigits ds → ∀ c ∈ ds, isBaseChar c = true := by
    intro ds h c hc
    simp [isBaseChar, h.isDigit c hc]
  cases h with
  | bare h => exact hdigits h
  | plus h => exact List.forall_mem_cons.mpr ⟨by decide, hdigits h⟩
  | minus h => exact List.forall_mem_cons.mpr ⟨by decide, hdigits h⟩

theorem IsBase.all_isBaseChar (h : IsBase s n places) : ∀ c ∈ s, isBaseChar c = true := by
  cases h with
  | whole _ h => exact h.all_isBaseChar
  | pointed _ h =>
    obtain ⟨hwhole, hfraction⟩ := List.forall_mem_append.mp h.all_isBaseChar
    exact List.forall_mem_append.mpr ⟨hwhole, List.forall_mem_cons.mpr ⟨by decide, hfraction⟩⟩

theorem IsBase.ne_nil (h : IsBase s n places) : s ≠ [] := by
  cases h with
  | whole _ h =>
    cases h with
    | bare h => exact h.ne_nil
    | plus h => exact List.cons_ne_nil _ _
    | minus h => exact List.cons_ne_nil _ _
  | pointed _ _ => simp

theorem isExponentMark_iff {c : Char} : isExponentMark c = true ↔ c = 'e' ∨ c = 'E' := by
  simp [isExponentMark]

/-- The exponent begins at the first mark, since no base has one. -/
theorem IsBase.not_mark (h : IsBase s n places) : ∀ c ∈ s, (!isExponentMark c) = true := by
  intro c hc
  have hbase := h.all_isBaseChar c hc
  rw [Bool.not_eq_true', Bool.eq_false_iff]
  intro hmark
  rcases isExponentMark_iff.mp hmark with rfl | rfl
  · exact absurd hbase (by decide)
  · exact absurd hbase (by decide)

theorem readChars?_of_no_exponent (h : ∀ c ∈ s, (!isExponentMark c) = true) :
    readChars? s = ofBase? s 0 := by
  unfold readChars?
  rw [List.takeWhile_eq_self_iff.mpr h, List.dropWhile_eq_nil_iff.mpr h]

theorem readChars?_of_exponent {mark : Char} (h : ∀ c ∈ s, (!isExponentMark c) = true)
    (hmark : isExponentMark mark = true) (e : List Char) :
    readChars? (s ++ mark :: e) = (exponent? e).bind (ofBase? s) := by
  have hstop : ¬ (!isExponentMark mark) = true := by simp [hmark]
  unfold readChars?
  rw [List.takeWhile_append_of_pos h, List.dropWhile_append_of_pos h,
    List.takeWhile_cons_of_neg (p := (!isExponentMark ·)) hstop,
    List.dropWhile_cons_of_neg (p := (!isExponentMark ·)) hstop, List.append_nil]

/-- Text without underscores is read as a decimal if and only if the rules say that it stands for
    that decimal. -/
theorem readChars?_eq_some_iff (h : '_' ∉ s) : readChars? s = some d ↔ IsDecimal s d := by
  constructor
  · intro hread
    -- the reader cuts at the first mark; if there is none, all of the text is the base
    have hbase : ∀ c ∈ s.takeWhile (!isExponentMark ·), (!isExponentMark c) = true :=
      fun c hc => List.mem_takeWhile_imp (p := (!isExponentMark ·)) hc
    have hsplit := List.takeWhile_append_dropWhile (p := (!isExponentMark ·)) (l := s)
    rcases hrest : s.dropWhile (!isExponentMark ·) with _ | ⟨mark, e⟩
    · rw [hrest, List.append_nil] at hsplit
      rw [hsplit] at hbase
      rw [readChars?_of_no_exponent hbase] at hread
      obtain ⟨n, places, hbase, rfl⟩ := (ofBase?_eq_some_iff h).mp hread
      rw [Int.sub_zero]
      exact .base hbase
    · have hmark : isExponentMark mark = true := by
        have hhead := List.head?_dropWhile_not (p := (!isExponentMark ·)) s
        rw [hrest] at hhead
        simpa using hhead
      rw [hrest] at hsplit
      rw [← hsplit] at h hread ⊢
      rw [readChars?_of_exponent hbase hmark] at hread
      obtain ⟨x, hx, hread⟩ := Option.bind_eq_some_iff.mp hread
      obtain ⟨n, places, hbase, rfl⟩ :=
        (ofBase?_eq_some_iff fun hmem => h (List.mem_append_left _ hmem)).mp hread
      exact .exponent hbase (isExponentMark_iff.mp hmark) (exponent?_eq_some_iff.mp hx)
  · intro hdecimal
    cases hdecimal with
    | base hbase =>
      rw [readChars?_of_no_exponent hbase.not_mark, ofBase?_eq_some_iff h]
      exact ⟨_, _, hbase, by rw [Int.sub_zero]⟩
    | exponent hbase hmark hexponent =>
      rw [readChars?_of_exponent hbase.not_mark (isExponentMark_iff.mpr hmark),
        exponent?_eq_some_iff.mpr hexponent, Option.bind_some,
        ofBase?_eq_some_iff fun hmem => h (List.mem_append_left _ hmem)]
      exact ⟨_, _, hbase, rfl⟩

/-- The first character of decimal text belongs to its base. -/
theorem IsDecimal.isBaseChar_head {c : Char} (h : IsDecimal (c :: s) d) : isBaseChar c = true := by
  generalize htext : c :: s = text at h
  cases h with
  | base hbase => exact hbase.all_isBaseChar c (htext ▸ List.mem_cons_self)
  | @exponent base e _ _ _ mark hbase _ _ =>
    obtain ⟨b, base, rfl⟩ := List.exists_cons_of_ne_nil hbase.ne_nil
    obtain rfl : c = b := (List.cons.inj htext).1
    exact hbase.all_isBaseChar c List.mem_cons_self

/-! ## Section 4: Amounts -/

theorem underscore_not_mem_withoutFillers (s : List Char) : '_' ∉ withoutFillers s := by
  intro h
  exact absurd (List.mem_filter.mp h).2 (by decide)

theorem ofFilled?_eq_some_iff : ofFilled? s = some d ↔ IsDecimal (withoutFillers s) d := by
  rw [ofFilled?_eq, readChars?_eq_some_iff (underscore_not_mem_withoutFillers s)]

/-- No amount begins with a character that is neither passed over nor part of a base. -/
theorem amountChars?_eq_none_of_head {c : Char} (hfiller : isFiller c = false) (hopen : c ≠ '(')
    (hbase : isBaseChar c = false) (s : List Char) : amountChars? (c :: s) = none := by
  have hnot : enclosed? (trim (c :: s)) = none := by
    rcases henclosed : enclosed? (trim (c :: s)) with _ | inner
    · rfl
    · -- in front of a parenthesis there are only fillers, and this is neither
      obtain ⟨before, after, hparentheses, -⟩ :=
        exists_inParentheses_of_trim (enclosed?_eq_some_iff.mp henclosed)
      rcases before with _ | ⟨b, before⟩
      · exact absurd (List.cons.inj hparentheses.eq).1 hopen
      · obtain rfl : c = b := (List.cons.inj hparentheses.eq).1
        rw [hparentheses.before_filler c List.mem_cons_self] at hfiller
        cases hfiller
  rw [amountChars?_of_not_enclosed hnot]
  rcases hread : ofFilled? (c :: s) with _ | d
  · rfl
  · rw [ofFilled?_eq_some_iff, withoutFillers_cons_of_not hfiller] at hread
    rw [hread.isBaseChar_head] at hbase
    cases hbase

/-- Fillers are no places: these are the other characters behind the first point, wherever fillers
    stand. -/
theorem places_withoutFillers (h : IsBase (withoutFillers s) n places) :
    places = ((s.dropWhile (· != '.')).drop 1).countP (!isFiller ·) := by
  have hmem : ∀ {t : List Char}, '.' ∈ t → '.' ∈ withoutFillers t :=
    fun ht => List.mem_filter.mpr ⟨ht, by decide⟩
  generalize htext : withoutFillers s = text at h
  cases h with
  | whole hpoint _ =>
    rw [List.dropWhile_eq_nil_iff.mpr (ne_point_of_not_mem fun hs => hpoint (htext ▸ hmem hs))]
    rfl
  | @pointed whole fraction _ hpoint _ =>
    -- the point of the base is the first one of the text
    obtain ⟨before, rest, rfl, hbefore, hrest⟩ := List.filter_eq_append_iff.mp htext
    obtain ⟨fillers, after, rfl, hfillers, -, hafter⟩ := List.filter_eq_cons_iff.mp hrest
    have hfront : '.' ∉ before ++ fillers := by
      intro h
      rcases List.mem_append.mp h with h | h
      · exact hpoint (hbefore ▸ hmem h)
      · exact hfillers '.' h (by decide)
    rw [← List.append_assoc, List.dropWhile_append_of_pos (ne_point_of_not_mem hfront),
      List.countP_eq_length_filter]
    simp [hafter]

/-- An amount is read in parentheses around the whole of it, if there are any, and is then the
    negative of what the rules say; without such parentheses it is what the rules say of the whole.
    Either way they are asked after all fillers are gone, and none of these counts as a place. -/
theorem amount?_eq_some_iff (raw : String) :
    (∀ inner, trim raw.toList = '(' :: (inner ++ [')']) → ∀ d,
      amount? raw = some d ↔ ∃ e, IsDecimal (withoutFillers inner) e ∧ e.neg = d) ∧
    ((¬ ∃ inner, trim raw.toList = '(' :: (inner ++ [')'])) → ∀ d,
      amount? raw = some d ↔ IsDecimal (withoutFillers (trim raw.toList)) d) ∧
    ∀ s n places, IsBase (withoutFillers s) n places →
      places = ((s.dropWhile (· != '.')).drop 1).countP (!isFiller ·) := by
  refine ⟨fun inner hraw d => ?_, fun hraw d => ?_, fun s n places => places_withoutFillers⟩
  · obtain ⟨before, after, hparentheses, hblank⟩ := exists_inParentheses_of_trim hraw
    unfold amount?
    rw [amountChars?_of_enclosed hparentheses hblank, Option.map_eq_some_iff]
    simp only [ofFilled?_eq_some_iff]
  · have hopen : enclosed? (trim raw.toList) = none := by
      rcases henclosed : enclosed? (trim raw.toList) with _ | inner
      · rfl
      · exact absurd ⟨inner, enclosed?_eq_some_iff.mp henclosed⟩ hraw
    unfold amount?
    rw [amountChars?_of_not_enclosed hopen, ofFilled?_eq_some_iff, withoutFillers_trim]

-- what fillers stand between is one number, also where the exponent begins
example : amount? " ($1 2.5_0 e,-1)" = some ⟨-1250, 3⟩ := by
  decide +kernel

end Reconcile.Decimal
