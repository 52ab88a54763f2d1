import Reconcile.Proofs.Json.Numbers

/-! # Printed objects are read back

    An object may be printed with a line for each member.  The reader finds the names again,
    whatever characters they hold, and so it finds the members if it finds the value of each.

    Main statement: `read?_printedObject`. -/

namespace Reconcile.Json

variable {rest : List Char}

/-! ## Section 1: Texts between quotes -/

/-- The four digits of a control character are read back. -/
theorem unit?_hexDigits : ∀ n < 32, ∃ a b c d, hexDigits n = [a, b, c, d] ∧ unit? a b c d = some n ∧
    isHighSurrogate n = false ∧ isLowSurrogate n = false := by
  intro n hn
  refine ⟨_, _, _, _, rfl, ?_⟩
  revert n
  decide

theorem textTail?_escape (c : Char) (done s : List Char) :
    textTail? done (escape c ++ s) = textTail? (c :: done) s := by
  unfold escape
  split
  case h_8 hquote hback _ _ _ _ _ =>
    split
    case isTrue h =>
      obtain ⟨a, b, x, d, hdigits, hunit, hhigh, hlow⟩ := unit?_hexDigits c.toNat h
      rw [hdigits]
      simp [textTail?, hunit, hhigh, hlow]
    case isFalse h =>
      rw [List.singleton_append, textTail?]
      · rw [if_neg h]
      · exact hquote
      · exact fun _ _ _ _ _ h _ => hback h
      · exact fun _ _ h _ => hback h
  all_goals rfl

/-- What was put between quotes is read back. -/
theorem textTail?_quoted (name done : List Char) :
    textTail? done (name.flatMap escape ++ '"' :: rest) = some (done.reverse ++ name, rest) := by
  induction name generalizing done with
  | nil => simp [textTail?]
  | cons c name ih =>
    rw [List.flatMap_cons, List.append_assoc, textTail?_escape, ih]
    simp

/-! ## Section 2: Values -/

/-- The text of the value is read back behind a blank, wherever what follows ends a number. -/
def IsReadBack (v : Json) : Prop :=
  ∀ (fuel depth : Nat) (rest : List Char), EndsNumber rest →
    value? (fuel + 1) depth (' ' :: (v.compact.toList ++ rest)) = some (v, rest)

/-- What begins with a digit is a number. -/
theorem value?_of_isDigit {c : Char} (hc : c.isDigit = true) (fuel depth : Nat) (s : List Char) :
    value? (fuel + 1) depth (' ' :: c :: s) = number? (c :: s) := by
  have hspace : isSpace c = false := by
    simpa using Decimal.of_isDigit (p := fun c => !isSpace c) (by decide) hc
  have hskip : skipSpace (' ' :: c :: s) = c :: s := by
    simp [skipSpace, hspace, show isSpace ' ' = true from rfl]
  rw [value?, hskip]
  split
  all_goals first
    | rfl
    | (rename_i heq; cases heq; exact absurd hc (by decide))

theorem isReadBack_of_numeral {v : Json} {n : Numeral} (hn : n.IsValid)
    (hchars : n.chars = v.compact.toList)
    (hvalue : numberOf? false n.whole n.frac n.exponent = some v) : IsReadBack v := by
  intro fuel depth rest hrest
  obtain ⟨c, whole, hwhole⟩ := List.exists_cons_of_ne_nil hn.whole.ne_nil
  obtain ⟨s, hcons⟩ : ∃ s, n.chars ++ rest = c :: s := by
    simp [Numeral.chars, hwhole]
  have hread := number?_chars hn hrest
  rw [hvalue, hcons] at hread
  rw [← hchars, hcons, value?_of_isDigit (hn.whole.isDigit c (hwhole ▸ List.mem_cons_self))]
  exact hread

theorem isReadBack_true : IsReadBack (.bool true) := by
  intro fuel depth rest _
  rw [compact]
  rfl

theorem isReadBack_integer {n : Nat} (h : n < 2 ^ 64) : IsReadBack (.integer n) := by
  obtain ⟨k, hk, hchars, hvalue⟩ := exists_numeral_integer h
  refine isReadBack_of_numeral hk (hchars.trans ?_) hvalue
  have htext : (Json.integer n).compact = toString n := by rw [compact]; rfl
  rw [htext, Nat.toString_eq_ofList_toDigits, String.toList_ofList]

theorem isReadBack_float {x : Binary64} (hfinite : x.isFinite = true)
    (hunsigned : x.isNegative = false) : IsReadBack (.float x) := by
  obtain ⟨n, hn, hchars, hvalue⟩ := exists_numeral_float hfinite hunsigned
  refine isReadBack_of_numeral hn (hchars.trans ?_) hvalue
  rw [compact]

/-! ## Section 3: Objects -/

def memberLine (m : String × Json) : String := "  " ++ quote m.1 ++ ": " ++ m.2.compact

/-- An object with a line for each member. -/
def printedObject (members : List (String × Json)) : String :=
  "\x7b\n" ++ ",\n".intercalate (members.map memberLine) ++ "\n\x7d\n"

/-- A member from its first quote on. -/
def memberChars (m : String × Json) : List Char :=
  '"' :: (m.1.toList.flatMap escape ++ '"' :: ':' :: ' ' :: m.2.compact.toList)

/-- What follows a member: the others, each on its line, and the end of the object. -/
def moreChars : List (String × Json) → List Char
  | [] => ['\n', '}', '\n']
  | m :: ms => ',' :: '\n' :: ' ' :: ' ' :: (memberChars m ++ moreChars ms)

theorem toList_memberLine (m : String × Json) :
    (memberLine m).toList = ' ' :: ' ' :: memberChars m := by
  simp [memberLine, memberChars, quote]

theorem toList_lines (m : String × Json) (ms : List (String × Json)) :
    (",\n".intercalate ((m :: ms).map memberLine)).toList ++ ['\n', '}', '\n'] =
      ' ' :: ' ' :: (memberChars m ++ moreChars ms) := by
  induction ms generalizing m with
  | nil => simp [toList_memberLine, moreChars]
  | cons m' ms ih =>
    have hmore : moreChars (m' :: ms) =
        ',' :: '\n' :: ((",\n".intercalate ((m' :: ms).map memberLine)).toList ++
          ['\n', '}', '\n']) := by
      rw [moreChars, ih m']
    rw [hmore, List.map_cons, List.map_cons, String.intercalate_cons_cons, ← List.map_cons]
    simp [toList_memberLine]

theorem toList_printedObject (m : String × Json) (ms : List (String × Json)) :
    (printedObject (m :: ms)).toList =
      '{' :: '\n' :: ' ' :: ' ' :: (memberChars m ++ moreChars ms) := by
  rw [← toList_lines]
  simp [printedObject]

theorem endsNumber_moreChars (ms : List (String × Json)) : EndsNumber (moreChars ms) := by
  intro c hc
  cases ms <;> (obtain rfl := Option.some.inj hc; decide)

/-- A member is read up to its end, where the object ends or the reader goes on. -/
theorem memberList?_succ {m : String × Json} (hm : IsReadBack m.2) (fuel depth : Nat)
    {s rest : List Char} (hs : skipSpace s = memberChars m ++ rest) (hrest : EndsNumber rest) :
    (∀ t, skipSpace rest = '}' :: t → memberList? (fuel + 2) depth s = some ([m], t)) ∧
      ∀ t, skipSpace rest = ',' :: t → memberList? (fuel + 2) depth s =
        (memberList? (fuel + 1) depth t).map fun (ms, rest) => (m :: ms, rest) := by
  have hname : textTail? [] (m.1.toList.flatMap escape ++
      '"' :: (':' :: ' ' :: (m.2.compact.toList ++ rest))) =
      some (m.1.toList, ':' :: ' ' :: (m.2.compact.toList ++ rest)) := by
    rw [textTail?_quoted]
    rfl
  have hstart : skipSpace s = '"' :: (m.1.toList.flatMap escape ++
      '"' :: (':' :: ' ' :: (m.2.compact.toList ++ rest))) := by
    rw [hs]
    simp [memberChars]
  have hcolon : skipSpace (':' :: ' ' :: (m.2.compact.toList ++ rest)) =
      ':' :: ' ' :: (m.2.compact.toList ++ rest) := rfl
  refine ⟨fun t ht => ?_, fun t ht => ?_⟩
  · rw [memberList?, hstart]
    simp only [hname, hcolon, hm fuel depth rest hrest, ht, String.ofList_toList]
  · rw [memberList?, hstart]
    simp only [hname, hcolon, hm fuel depth rest hrest, ht, String.ofList_toList]

/-- The members of an object are read one after another. -/
theorem memberList?_members (m : String × Json) (ms : List (String × Json))
    (h : ∀ m' ∈ m :: ms, IsReadBack m'.2) (fuel depth : Nat) {s : List Char}
    (hs : skipSpace s = memberChars m ++ moreChars ms) :
    memberList? (fuel + ms.length + 2) depth s = some (m :: ms, ['\n']) := by
  induction ms generalizing m s with
  | nil =>
    have hm := h m List.mem_cons_self
    exact (memberList?_succ hm fuel depth hs (endsNumber_moreChars [])).1 ['\n'] rfl
  | cons m' ms ih =>
    have hm := h m List.mem_cons_self
    have hnext : skipSpace ('\n' :: ' ' :: ' ' :: (memberChars m' ++ moreChars ms)) =
        memberChars m' ++ moreChars ms := rfl
    have hrec : memberList? (fuel + ms.length + 1 + 1) depth _ = _ :=
      ih m' (fun m'' hm => h m'' (List.mem_cons_of_mem m hm)) hnext
    have hmore := endsNumber_moreChars (m' :: ms)
    rw [List.length_cons, ← Nat.add_assoc,
      (memberList?_succ hm (fuel + ms.length + 1) depth hs hmore).2 _ rfl, hrec]
    rfl

theorem length_lt_moreChars (ms : List (String × Json)) : ms.length < (moreChars ms).length := by
  induction ms with
  | nil => decide
  | cons m ms ih =>
    simp only [moreChars, List.length_cons, List.length_append]
    omega

/-- An object is its members, if there are any. -/
theorem value?_members (m : String × Json) (ms : List (String × Json))
    (h : ∀ m' ∈ m :: ms, IsReadBack m'.2) (fuel depth : Nat) :
    value? (fuel + ms.length + 3) (depth + 1)
        ('{' :: '\n' :: ' ' :: ' ' :: (memberChars m ++ moreChars ms)) =
      some (.ofMembers (m :: ms), ['\n']) := by
  have hbody : skipSpace ('\n' :: ' ' :: ' ' :: (memberChars m ++ moreChars ms)) =
      '"' :: ((memberChars m).tail ++ moreChars ms) := rfl
  have hmembers := memberList?_members m ms h fuel depth (s := memberChars m ++ moreChars ms) rfl
  have hopen (s : List Char) : skipSpace ('{' :: s) = '{' :: s := rfl
  rw [value?, hopen]
  simp only [hbody]
  show (memberList? (fuel + ms.length + 2) depth (memberChars m ++ moreChars ms)).map _ = _
  rw [hmembers]
  rfl

/-- A printed object is read back. -/
theorem read?_printedObject (m : String × Json) (ms : List (String × Json))
    (h : ∀ m' ∈ m :: ms, IsReadBack m'.2) :
    read? (printedObject (m :: ms)) = some (.ofMembers (m :: ms)) := by
  have htext := toList_printedObject m ms
  obtain ⟨fuel, hfuel⟩ :
      ∃ fuel, (printedObject (m :: ms)).toList.length = fuel + ms.length + 2 := by
    have hlength := length_lt_moreChars ms
    refine ⟨_, (Nat.sub_add_cancel (m := ms.length + 2) ?_).symm⟩
    rw [htext]
    simp only [List.length_cons, List.length_append]
    omega
  have hvalue : value? (fuel + ms.length + 2 + 1) maxDepth _ = _ := value?_members m ms h fuel 126
  rw [read?, hfuel, htext, hvalue]
  rfl

end Reconcile.Json
