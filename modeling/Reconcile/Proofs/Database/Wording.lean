import Mathlib.Data.List.TakeWhile
import Reconcile.Database.Store
import Reconcile.Proofs.Text.Words

/-! # Reading statements

    What a statement changes is read off its text: into which table rows are put, with which
    parameters in which columns, what becomes of a row that is there already, and which rows are
    taken out.  Only as much of the language is read as inserts and deletes need.

    Main definition: `Statement.change?`. -/

namespace Reconcile.Database

open Statement (nameList columnList parameterList rowLists)

/-! ## Section 1: Words -/

/-- Brackets are words of their own, and commas only set words apart. -/
def spread (c : Char) : List Char :=
  if c = ',' then [' '] else if c = '(' ∨ c = ')' then [' ', c, ' '] else [c]

/-- The words of a statement. -/
def wordsOf (sql : String) : List String :=
  (Text.words (sql.toList.flatMap spread)).map String.ofList

/-- No word goes on over this character. -/
def isApart (c : Char) : Bool := Text.isBlank c || c = ',' || c = '(' || c = ')'

/-- The first character of the text is set apart from what stands before it. -/
def StartsApart (s : String) : Prop := s.toList.head?.any isApart = true

/-- The last character of the text is set apart from what stands after it. -/
def EndsApart (s : String) : Prop := s.toList.getLast?.any isApart = true

instance (s : String) : Decidable (StartsApart s) :=
  inferInstanceAs (Decidable (s.toList.head?.any isApart = true))

instance (s : String) : Decidable (EndsApart s) :=
  inferInstanceAs (Decidable (s.toList.getLast?.any isApart = true))

theorem exists_of_any {α : Type} {o : Option α} {p : α → Bool} (h : o.any p = true) :
    ∃ a, o = some a ∧ p a = true := by
  rcases o with _ | a
  · cases h
  · exact ⟨a, rfl, h⟩

theorem EndsApart.append {b : String} (h : EndsApart b) (a : String) : EndsApart (a ++ b) := by
  obtain ⟨c, hlast, hc⟩ := exists_of_any h
  unfold EndsApart
  rw [String.toList_append, List.getLast?_append, hlast]
  exact hc

/-- A character that sets words apart leaves blanks on both sides. -/
theorem spread_of_isApart {c : Char} (h : isApart c = true) :
    ∃ d e : Char, Text.isBlank d = true ∧ Text.isBlank e = true ∧
      (∃ s, spread c = d :: s) ∧ ∃ s, spread c = s ++ [e] := by
  have hspace : Text.isBlank ' ' = true := by decide
  unfold isApart at h
  unfold spread
  by_cases hcomma : c = ','
  · exact ⟨' ', ' ', hspace, hspace, ⟨[], by simp [hcomma]⟩, ⟨[], by simp [hcomma]⟩⟩
  · by_cases hbracket : c = '(' ∨ c = ')'
    · exact ⟨' ', ' ', hspace, hspace, ⟨[c, ' '], by simp [hcomma, hbracket]⟩,
        ⟨[' ', c], by simp [hcomma, hbracket]⟩⟩
    · have hblank : Text.isBlank c = true := by
        obtain ⟨hopen, hclose⟩ := not_or.mp hbracket
        simpa [hcomma, hopen, hclose] using h
      exact ⟨c, c, hblank, hblank, ⟨[], by simp [hcomma, hbracket]⟩,
        ⟨[], by simp [hcomma, hbracket]⟩⟩

theorem wordsOf_append_left {a : String} (h : EndsApart a) (b : String) :
    wordsOf (a ++ b) = wordsOf a ++ wordsOf b := by
  obtain ⟨c, hlast, hc⟩ := exists_of_any h
  obtain ⟨s, hs⟩ := List.getLast?_eq_some_iff.mp hlast
  obtain ⟨-, e, -, he, -, u, hu⟩ := spread_of_isApart hc
  -- once its brackets are spread the first text ends in a blank, where words may be cut
  have ha : a.toList.flatMap spread = s.flatMap spread ++ u ++ [e] := by
    rw [hs, List.flatMap_append, List.flatMap_singleton, hu, List.append_assoc]
  unfold wordsOf
  rw [String.toList_append, List.flatMap_append, ha, List.append_assoc _ [e],
    List.singleton_append, Text.words_append_of_blank he, Text.words_append_of_blank he,
    List.map_append, List.map_append]
  simp [Text.words]

theorem wordsOf_append_right {b : String} (h : StartsApart b) (a : String) :
    wordsOf (a ++ b) = wordsOf a ++ wordsOf b := by
  obtain ⟨c, hfirst, hc⟩ := exists_of_any h
  obtain ⟨s, hs⟩ := List.head?_eq_some_iff.mp hfirst
  obtain ⟨d, -, hd, -, ⟨u, hu⟩, -⟩ := spread_of_isApart hc
  -- here it is the second text that begins with a blank
  have hb : b.toList.flatMap spread = d :: (u ++ s.flatMap spread) := by
    rw [hs, List.flatMap_cons, hu, List.cons_append]
  unfold wordsOf
  rw [String.toList_append, List.flatMap_append, hb, Text.words_append_of_blank hd,
    Text.words_cons_of_blank hd, List.map_append]

/-- The text is one word. -/
def Plain (w : String) : Prop := w.toList ≠ [] ∧ w.toList.any isApart = false

instance (w : String) : Decidable (Plain w) :=
  inferInstanceAs (Decidable (w.toList ≠ [] ∧ w.toList.any isApart = false))

theorem wordsOf_of_plain {w : String} (h : Plain w) : wordsOf w = [w] := by
  obtain ⟨hne, hnone⟩ := h
  have hw : ∀ c ∈ w.toList, isApart c = false := by
    intro c hc
    rw [Bool.eq_false_iff]
    exact List.any_eq_false.mp hnone c hc
  have hspread : w.toList.flatMap spread = w.toList := by
    have hone : ∀ c ∈ w.toList, spread c = [c] := by
      intro c hc
      have := hw c hc
      simp only [isApart, Bool.or_eq_false_iff, decide_eq_false_iff_not] at this
      simp [spread, this]
    rw [List.flatMap_def, List.map_congr_left hone, ← List.flatMap_def, List.flatMap_singleton']
  have hblank : ∀ c ∈ w.toList, Text.isBlank c = false := by
    intro c hc
    have := hw c hc
    simp only [isApart, Bool.or_eq_false_iff] at this
    exact this.1.1.1
  unfold wordsOf
  rw [hspread, Text.words_of_no_blank hne hblank, List.map_singleton, String.ofList_toList]

/-- In a list with commas the words are those of its items. -/
theorem wordsOf_nameList (names : List String) :
    wordsOf (nameList names) = names.flatMap wordsOf := by
  induction names with
  | nil => rfl
  | cons name names ih =>
    rcases names with _ | ⟨next, names⟩
    · simp [nameList]
    · have hcomma : EndsApart ", " := by decide +kernel
      have hstart : StartsApart ", " := by decide +kernel
      have hnone : wordsOf ", " = [] := by decide +kernel
      rw [nameList, String.intercalate_cons_cons, wordsOf_append_left (hcomma.append name),
        wordsOf_append_right hstart, hnone, List.append_nil, List.flatMap_cons, ← ih]
      rfl

theorem wordsOf_nameList_of_plain {names : List String} (h : ∀ w ∈ names, Plain w) :
    wordsOf (nameList names) = names := by
  have hone : ∀ w ∈ names, wordsOf w = [w] := fun w hw => wordsOf_of_plain (h w hw)
  rw [wordsOf_nameList, List.flatMap_def, List.map_congr_left hone, ← List.flatMap_def,
    List.flatMap_singleton']

theorem wordsOf_columnList {columns : List Column} (h : ∀ c ∈ columns, Plain c.name) :
    wordsOf (columnList columns) = columns.map (·.name) := by
  apply wordsOf_nameList_of_plain
  intro w hw
  obtain ⟨c, hc, rfl⟩ := List.mem_map.mp hw
  exact h c hc

/-- The name of a parameter. -/
def parameter (n : Nat) : String := "$" ++ toString n

theorem toList_parameter (n : Nat) : (parameter n).toList = '$' :: Nat.toDigits 10 n := by
  have hsign : "$".toList = ['$'] := by decide +kernel
  rw [parameter, String.toList_append, hsign, Nat.toString_eq_ofList_toDigits,
    String.toList_ofList]
  rfl

theorem isApart_of_isDigit {c : Char} (h : c.isDigit = true) : isApart c = false := by
  have hrange : 48 ≤ c.toNat ∧ c.toNat ≤ 57 := by
    simp only [Char.isDigit, Bool.and_eq_true, decide_eq_true_eq] at h
    exact ⟨UInt32.le_iff_toNat_le.mp h.1, UInt32.le_iff_toNat_le.mp h.2⟩
  have hblank : Text.isBlank c = false := by
    rw [Bool.eq_false_iff]
    intro h
    -- no range of blanks meets the range of digits
    simp only [Text.isBlank, Text.CodeRanges.has, Text.blankRanges, List.any_cons, List.any_nil,
      Bool.or_false, Bool.or_eq_true, Bool.and_eq_true, decide_eq_true_eq] at h
    omega
  have hmark : c ≠ ',' ∧ c ≠ '(' ∧ c ≠ ')' := by
    refine ⟨?_, ?_, ?_⟩ <;> rintro rfl <;> simp at hrange
  simp [isApart, hblank, hmark]

theorem plain_parameter (n : Nat) : Plain (parameter n) := by
  rw [Plain, toList_parameter]
  constructor
  · exact List.cons_ne_nil _ _
  · rw [List.any_eq_false]
    intro c hc
    rw [Bool.not_eq_true]
    rcases List.mem_cons.mp hc with rfl | hc
    · decide
    · have hdigit : c.isDigit = true :=
        Nat.isDigit_of_mem_toDigits (by decide) (by decide) hc
      exact isApart_of_isDigit hdigit

/-- Parameters that are numbered on from one. -/
def parameters (start count : Nat) : List String :=
  (List.range count).map fun i => parameter (start + i)

theorem wordsOf_parameterList (start count : Nat) :
    wordsOf (parameterList start count) = parameters start count := by
  apply wordsOf_nameList_of_plain
  intro w hw
  obtain ⟨i, -, rfl⟩ := List.mem_map.mp hw
  exact plain_parameter (start + i)

/-- A list in brackets. -/
def bracketed (ws : List String) : List String := "(" :: ws ++ [")"]

theorem wordsOf_bracketed (s : String) : wordsOf ("(" ++ s ++ ")") = bracketed (wordsOf s) := by
  have hopen : EndsApart "(" := by decide +kernel
  have hclose : StartsApart ")" := by decide +kernel
  have hwords : wordsOf "(" = ["("] ∧ wordsOf ")" = [")"] := by decide +kernel
  rw [wordsOf_append_right hclose, wordsOf_append_left hopen, hwords.1, hwords.2]
  rfl

theorem wordsOf_rowLists (width count : Nat) :
    wordsOf (rowLists width count) =
      (List.range count).flatMap fun i => bracketed (parameters (width * i + 1) width) := by
  rw [rowLists, wordsOf_nameList, List.flatMap_map]
  congr 1
  funext i
  rw [wordsOf_bracketed, wordsOf_parameterList]

/-! ## Section 2: Clauses -/

/-- The words that begin a clause. -/
def keywords : List String :=
  ["INTO", "VALUES", "ON", "CONFLICT", "DO", "SET", "RETURNING", "FROM", "WHERE"]

/-- The words of the clause that a keyword begins. -/
def clause (keyword : String) (ws : List String) : List String :=
  ((ws.dropWhile (· ≠ keyword)).drop 1).takeWhile (· ∉ keywords)

/-- The lists in brackets, one after another. -/
def groups : List String → List (List String)
  | [] => []
  | w :: ws => if w = "(" then ws.takeWhile (· ≠ ")") :: groups ws else groups ws

theorem clause_append {keyword : String} {before body after : List String}
    (hbefore : keyword ∉ before) (hbody : ∀ w ∈ body, w ∉ keywords)
    (hafter : ∀ w ∈ after.head?, w ∈ keywords) :
    clause keyword (before ++ keyword :: (body ++ after)) = body := by
  -- what is dropped ends at the keyword, and what is taken at the next one
  have hdrop : (before ++ keyword :: (body ++ after)).dropWhile (· ≠ keyword) =
      keyword :: (body ++ after) := by
    rw [List.dropWhile_append_of_pos, List.dropWhile_cons_of_neg]
    · simp
    · intro w hw
      simpa using fun heq : w = keyword => hbefore (heq ▸ hw)
  have htake : after.takeWhile (· ∉ keywords) = [] := by
    rcases after with _ | ⟨w, ws⟩
    · rfl
    · rw [List.takeWhile_cons_of_neg]
      simpa using hafter w rfl
  unfold clause
  rw [hdrop, List.drop_succ_cons, List.drop_zero, List.takeWhile_append_of_pos, htake,
    List.append_nil]
  simpa using hbody

theorem clause_of_not_mem {keyword : String} {ws : List String} (h : keyword ∉ ws) :
    clause keyword ws = [] := by
  have hdrop : ws.dropWhile (· ≠ keyword) = [] := by
    rw [List.dropWhile_eq_nil_iff]
    intro w hw
    simpa using fun heq : w = keyword => h (heq ▸ hw)
  rw [clause, hdrop]
  rfl

theorem groups_append {ws : List String} (h : "(" ∉ ws) (rest : List String) :
    groups (ws ++ rest) = groups rest := by
  induction ws with
  | nil => rfl
  | cons w ws ih =>
    obtain ⟨hw, hws⟩ := not_or.mp (mt List.mem_cons.mpr h)
    rw [List.cons_append, groups, if_neg (Ne.symm hw), ih hws]

/-- Lists in brackets, without brackets in them. -/
theorem groups_flatMap_bracketed {gs : List (List String)}
    (h : ∀ g ∈ gs, "(" ∉ g ∧ ")" ∉ g) : groups (gs.flatMap bracketed) = gs := by
  induction gs with
  | nil => rfl
  | cons g gs ih =>
    obtain ⟨hopen, hclose⟩ := h g List.mem_cons_self
    -- no bracket stands in the list, so that it ends at its own
    have htake : (g ++ ")" :: gs.flatMap bracketed).takeWhile (· ≠ ")") = g := by
      rw [List.takeWhile_append_of_pos, List.takeWhile_cons_of_neg, List.append_nil]
      · simp
      · intro w hw
        simpa using fun heq : w = ")" => hclose (heq ▸ hw)
    have hclosed : groups (")" :: gs.flatMap bracketed) = groups (gs.flatMap bracketed) := rfl
    have hwords : (g :: gs).flatMap bracketed = "(" :: (g ++ ")" :: gs.flatMap bracketed) := by
      simp [bracketed]
    rw [hwords, groups, if_pos rfl, htake, groups_append hopen, hclosed,
      ih fun g hg => h g (List.mem_cons_of_mem _ hg)]

/-! ## Section 3: Parameters -/

/-- A parameter is no word that does not begin as one. -/
theorem ne_parameter {w : String} (h : w.toList.head? ≠ some '$') (n : Nat) :
    w ≠ parameter n := by
  rintro rfl
  rw [toList_parameter] at h
  exact h rfl

theorem not_mem_parameters {w : String} (h : w.toList.head? ≠ some '$') (start count : Nat) :
    w ∉ parameters start count := by
  intro hw
  obtain ⟨i, -, hi⟩ := List.mem_map.mp hw
  exact ne_parameter h _ hi.symm

/-- Lists of parameters hold no word that does not begin as a parameter. -/
theorem not_mem_bracketed_parameters {w : String} (h : w.toList.head? ≠ some '$')
    (hbracket : w ∉ ["(", ")"]) (start count : Nat) :
    w ∉ bracketed (parameters start count) := by
  intro hw
  simp only [bracketed, List.cons_append, List.mem_cons, List.mem_append, List.not_mem_nil,
    or_false] at hw hbracket
  rcases hw with hw | hw | hw
  · exact hbracket (.inl hw)
  · exact not_mem_parameters h start count hw
  · exact hbracket (.inr hw)

/-- The value of a parameter. -/
def argument (params : List Value) (w : String) : Value :=
  match w.toList with
  | '$' :: digits => ((Value.null :: params)[Nat.ofDigitChars 10 digits 0]?).getD .null
  | _ => .null

theorem argument_parameter (params : List Value) (n : Nat) :
    argument params (parameter (n + 1)) = (params[n]?).getD .null := by
  unfold argument
  rw [toList_parameter]
  simp only [Nat.ofDigitChars_ten_toDigits, List.getElem?_cons_succ]

/-- Parameters that are numbered on have the values that were bound one after another. -/
theorem map_argument_parameters (before vs after : List Value) :
    (parameters (before.length + 1) vs.length).map (argument (before ++ vs ++ after)) = vs := by
  apply List.ext_getElem
  · simp [parameters]
  · intro i h₁ h₂
    have hindex : before.length + 1 + i = before.length + i + 1 := by omega
    simp only [parameters, List.map_map, List.getElem_map, List.getElem_range,
      Function.comp_apply]
    rw [hindex, argument_parameter, List.append_assoc, List.getElem?_append_right (by omega),
      Nat.add_sub_cancel_left, List.getElem?_append_left h₂, List.getElem?_eq_getElem h₂]
    rfl

/-- The same for several rows of one width. -/
theorem map_argument_flatMap {α : Type} {width : Nat} (f : α → List Value)
    (hf : ∀ a, (f a).length = width) (xs : List α) :
    (List.range xs.length).map (fun i =>
      (parameters (width * i + 1) width).map (argument (xs.flatMap f))) = xs.map f := by
  apply List.ext_getElem
  · simp
  · intro i h₁ h₂
    have hi : i < xs.length := by simpa using h₂
    -- the parameters of row `i` come after those of as many rows as there are before it
    have hbefore : ((xs.take i).flatMap f).length = width * i := by
      rw [List.length_flatMap, List.map_congr_left fun a _ => hf a, List.map_const',
        List.sum_replicate_nat, List.length_take_of_le (Nat.le_of_lt hi), Nat.mul_comm]
    have hsplit : xs.flatMap f =
        (xs.take i).flatMap f ++ f xs[i] ++ (xs.drop (i + 1)).flatMap f := by
      rw [List.append_assoc, ← List.flatMap_cons, ← List.drop_eq_getElem_cons hi,
        ← List.flatMap_append, List.take_append_drop]
    simp only [List.getElem_map, List.getElem_range]
    rw [hsplit, ← hbefore, ← hf xs[i], map_argument_parameters]

/-! ## Section 4: Changes -/

/-- What a column is set to. -/
inductive Expression where
  /-- The value that was to be inserted. -/
  | excluded (column : String)
  | now
deriving DecidableEq, Repr

def Expression.ofWord? (w : String) : Option Expression :=
  if w = "now" then some .now
  else if w.toList.take 9 = "EXCLUDED.".toList then
    some (.excluded (String.ofList (w.toList.drop 9)))
  else none

/-- Columns and what they are set to. -/
def assignments? : List String → Option (List (String × Expression))
  | [] => some []
  | column :: equals :: word :: ws =>
    match decide (equals = "="), Expression.ofWord? word, assignments? ws with
    | true, some e, some rest => some ((column, e) :: rest)
    | _, _, _ => none
  | _ => none

/-- Rows are put into a table.  Where a row is there already that has the same value in the key,
    that row is changed instead. -/
structure Insert where
  table : String
  rows : List Row
  key : Option String
  changes : List (String × Expression)
  /-- The columns of the rows that are given back. -/
  returning : List String

/-- The rows of a table with this value in a column are taken out. -/
structure Delete where
  table : String
  column : String
  value : Value

inductive Change where
  | insert (i : Insert)
  | delete (d : Delete)

def Insert.ofWords? (ws : List String) (params : List Value) : Option Insert := do
  let table ← (clause "INTO" ws).head?
  let columns ← (groups (clause "INTO" ws)).head?
  let changes ← assignments? ((clause "SET" ws).filter fun w => w ≠ "(" ∧ w ≠ ")")
  return {
    table := table
    rows := (groups (clause "VALUES" ws)).map fun g => columns.zip (g.map (argument params))
    key := (groups (clause "CONFLICT" ws)).flatten.head?
    changes := changes
    returning := clause "RETURNING" ws }

theorem Insert.ofWords?_eq (ws : List String) (params : List Value) {table : String}
    {columns : List String} {changes : List (String × Expression)}
    (htable : (clause "INTO" ws).head? = some table)
    (hcolumns : (groups (clause "INTO" ws)).head? = some columns)
    (hchanges : assignments? ((clause "SET" ws).filter fun w => w ≠ "(" ∧ w ≠ ")") =
      some changes) :
    ofWords? ws params = some {
      table := table
      rows := (groups (clause "VALUES" ws)).map fun g => columns.zip (g.map (argument params))
      key := (groups (clause "CONFLICT" ws)).flatten.head?
      changes := changes
      returning := clause "RETURNING" ws } := by
  unfold ofWords?
  rw [htable, hcolumns, hchanges]
  rfl

def Delete.ofWords? (ws : List String) (params : List Value) : Option Delete :=
  match clause "FROM" ws, clause "WHERE" ws with
  | [table], [column, equals, word] =>
    if equals = "=" then some ⟨table, column, argument params word⟩ else none
  | _, _ => none

/-- What a statement changes, by its text. -/
def Statement.change? (st : Statement) : Option Change :=
  let ws := wordsOf st.sql
  if ws.head? = some "INSERT" then (Insert.ofWords? ws st.params).map .insert
  else if ws.head? = some "DELETE" then (Delete.ofWords? ws st.params).map .delete
  else none

end Reconcile.Database
