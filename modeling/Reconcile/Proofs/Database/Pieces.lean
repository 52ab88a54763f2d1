import Reconcile.Proofs.Database.Codec

/-! # Lines in pieces

    The lines of an invoice are cut into pieces, and each piece is put into its table by one
    statement.  Every line has a row with a parameter for each column, and a statement has room
    for a limited number of parameters only.

    Main statements: `insertedLines_lineInserts` and `withinLimits_of_mem_lineInserts`. -/

namespace Reconcile.Database

open Statement (valueLists)

/-! ## Section 1: Pieces -/

section Pieces

variable {α : Type} {size : Nat}

theorem flatten_cut (hsize : 0 < size) (fuel : Nat) (xs : List α) (h : xs.length ≤ fuel) :
    (Digest.cut size fuel xs).flatten = xs := by
  induction fuel generalizing xs with
  | zero =>
    have hnil : xs = [] := List.length_eq_zero_iff.mp (by omega)
    rw [hnil]
    rfl
  | succ fuel ih =>
    rcases xs with _ | ⟨x, xs⟩
    · rfl
    · have hlen : ((x :: xs).drop size).length ≤ fuel := by
        simp only [List.length_drop, List.length_cons] at h ⊢
        omega
      rw [Digest.cut, List.flatten_cons, ih _ hlen, List.take_append_drop]
      exact List.cons_ne_nil x xs

/-- Nothing is lost where a list is cut. -/
theorem flatten_pieces (hsize : 0 < size) (xs : List α) :
    (Digest.pieces size xs).flatten = xs := flatten_cut hsize xs.length xs (Nat.le_refl _)

/-- A list that is not empty has one piece more than what is left behind the first one. -/
theorem count_of_pos (hsize : 0 < size) {n : Nat} (hn : 0 < n) :
    (n + size - 1) / size = (n - size + size - 1) / size + 1 := by
  have hfirst : n + size - 1 = n - 1 + size := by omega
  rw [hfirst, Nat.add_div_right _ hsize]
  rcases Nat.lt_or_ge n size with hlt | hge
  · have hrest : n - size + size - 1 = size - 1 := by omega
    rw [hrest, Nat.div_eq_of_lt (by omega), Nat.div_eq_of_lt (by omega)]
  · have hrest : n - size + size - 1 = n - 1 := by omega
    rw [hrest]

/-- There are as many pieces as the size goes into the length, counted up. -/
theorem length_cut (hsize : 0 < size) (fuel : Nat) (xs : List α) (h : xs.length ≤ fuel) :
    (Digest.cut size fuel xs).length = (xs.length + size - 1) / size := by
  have hnone : (0 + size - 1) / size = 0 := Nat.div_eq_of_lt (by omega)
  induction fuel generalizing xs with
  | zero =>
    have hnil : xs = [] := List.length_eq_zero_iff.mp (by omega)
    rw [hnil, List.length_nil, hnone]
    rfl
  | succ fuel ih =>
    rcases xs with _ | ⟨x, xs⟩
    · rw [List.length_nil, hnone]
      rfl
    · have hlen : ((x :: xs).drop size).length ≤ fuel := by
        simp only [List.length_drop, List.length_cons] at h ⊢
        omega
      rw [Digest.cut, List.length_cons, ih _ hlen, List.length_drop,
        count_of_pos hsize (List.length_pos_of_mem List.mem_cons_self)]
      exact List.cons_ne_nil x xs

theorem length_pieces (hsize : 0 < size) (xs : List α) :
    (Digest.pieces size xs).length = (xs.length + size - 1) / size :=
  length_cut hsize xs.length xs (Nat.le_refl _)

/-- No piece is empty, and none is too long. -/
theorem length_of_mem_cut (hsize : 0 < size) {fuel : Nat} {xs p : List α}
    (h : p ∈ Digest.cut size fuel xs) : p ≠ [] ∧ p.length ≤ size := by
  induction fuel generalizing xs with
  | zero => cases h
  | succ fuel ih =>
    rcases xs with _ | ⟨x, xs⟩
    · cases h
    · rw [Digest.cut, List.mem_cons] at h
      · rcases h with rfl | h
        · refine ⟨?_, List.length_take_le _ _⟩
          rw [ne_eq, List.take_eq_nil_iff, not_or]
          exact ⟨Nat.pos_iff_ne_zero.mp hsize, List.cons_ne_nil x xs⟩
        · exact ih h
      · exact List.cons_ne_nil x xs

end Pieces

/-! ## Section 2: Statements -/

theorem parameters_add (start m n : Nat) :
    parameters start (m + n) = parameters start m ++ parameters (start + m) n := by
  simp [parameters, List.range_add, Nat.add_assoc]

/-- From row to row the parameters are numbered on. -/
theorem flatten_valueLists (width count : Nat) :
    (valueLists width count).flatten = parameters 1 (width * count) := by
  induction count with
  | zero => rfl
  | succ count ih =>
    unfold valueLists at *
    rw [List.range_succ, List.map_append, List.flatten_append, ih, Nat.mul_succ, parameters_add,
      Nat.add_comm 1]
    simp

namespace Statement

/-- The lists of parameters that stand among the values of a statement, one for each row. -/
def rowParameters (st : Statement) : List (List String) :=
  groups (clause "VALUES" (wordsOf st.sql))

/-- What is read from the rows that a statement puts into the table of lines. -/
def insertedLines (st : Statement) : List (Except StoreError StoredLine) :=
  match st.change? with
  | some (.insert i) => if i.table = lineTable then i.rows.map readLine else []
  | _ => []

/-- An insert has a row for each list of parameters. -/
theorem length_rows_of_change? {st : Statement} {i : Insert}
    (h : st.change? = some (.insert i)) : i.rows.length = st.rowParameters.length := by
  simp only [change?] at h
  split at h
  · simp only [Insert.ofWords?, Option.map_eq_some_iff, Option.bind_eq_bind,
      Option.bind_eq_some_iff] at h
    obtain ⟨_, ⟨_, -, _, -, _, -, ⟨⟩⟩, ⟨⟩⟩ := h
    exact List.length_map _
  · split at h <;> simp at h

theorem length_insertedLines_le (st : Statement) :
    st.insertedLines.length ≤ st.rowParameters.length := by
  rw [insertedLines]
  rcases hchange : st.change? with _ | (i | d)
  · exact Nat.zero_le _
  · by_cases htable : i.table = lineTable
    · simp [htable, length_rows_of_change? hchange]
    · simp [htable]
  · exact Nat.zero_le _

/-- The statement has rows, not too many of them, with a parameter for each of their 27 columns.
    Parameters are numbered on from one, with a value bound to each; their number is sent in
    16 bits. -/
structure WithinLimits (st : Statement) : Prop where
  rows_ne_nil : st.rowParameters ≠ []
  rows_le : st.rowParameters.length ≤ 1000
  width : ∀ ps ∈ st.rowParameters, ps.length = 27
  numbered : st.rowParameters.flatten = parameters 1 st.params.length
  params_le : st.params.length ≤ 65535

/-- Statements within their limits put in at most 1000 lines each. -/
theorem length_flatMap_insertedLines_le {sts : List Statement} (h : ∀ st ∈ sts, st.WithinLimits) :
    (sts.flatMap insertedLines).length ≤ 1000 * sts.length := by
  induction sts with
  | nil => exact Nat.zero_le _
  | cons st sts ih =>
    have hst := st.length_insertedLines_le.trans (h st List.mem_cons_self).rows_le
    have hrest := ih fun st' h' => h st' (List.mem_cons_of_mem st h')
    rw [List.flatMap_cons, List.length_append, List.length_cons]
    omega

theorem rowParameters_insertLines (lines : List StoredLine) :
    (insertLines lines).rowParameters = valueLists LineRow.columns.length lines.length := by
  rw [rowParameters, clause_values_insertLines, groups_valueLists]

theorem insertedLines_insertLines (lines : List StoredLine) :
    (insertLines lines).insertedLines = lines.map .ok := by
  rw [insertedLines, change?_insertLines]
  show (lines.map lineRow).map readLine = _
  rw [List.map_map]
  exact List.map_congr_left fun l _ => readLine_lineRow l

theorem length_params_insertLines (lines : List StoredLine) :
    (insertLines lines).params.length = 27 * lines.length := by
  have hwidth : ∀ l ∈ lines, ((LineRow.ofStored l).values).length = 27 := fun _ _ => rfl
  show (lines.flatMap fun l => (LineRow.ofStored l).values).length = _
  rw [List.length_flatMap, List.map_congr_left hwidth, List.map_const', List.sum_replicate_nat,
    Nat.mul_comm]

theorem withinLimits_insertLines {lines : List StoredLine} (hne : lines ≠ [])
    (hle : lines.length ≤ 1000) : (insertLines lines).WithinLimits := by
  have hcolumns : LineRow.columns.length = 27 := rfl
  have hlength : (valueLists 27 lines.length).length = lines.length := by simp [valueLists]
  refine ⟨?_, ?_, ?_, ?_, ?_⟩
  · rw [rowParameters_insertLines, hcolumns, ← List.length_pos_iff, hlength]
    exact List.length_pos_iff.mpr hne
  · rw [rowParameters_insertLines, hcolumns, hlength]
    exact hle
  · intro ps hps
    rw [rowParameters_insertLines, hcolumns] at hps
    obtain ⟨i, -, rfl⟩ := List.mem_map.mp hps
    simp [parameters]
  · rw [rowParameters_insertLines, hcolumns, flatten_valueLists, length_params_insertLines]
  · rw [length_params_insertLines]
    omega

end Statement

/-! ## Section 3: The inserts of all lines -/

/-- The statements that insert the lines in pieces. -/
def lineInserts (size : Nat) (lines : List StoredLine) : List Statement :=
  (Digest.pieces size lines).map .insertLines

/-- Read in order, the rows of the statements are the lines. -/
theorem insertedLines_lineInserts {size : Nat} (hsize : 0 < size) (lines : List StoredLine) :
    (lineInserts size lines).flatMap Statement.insertedLines = lines.map .ok := by
  calc (lineInserts size lines).flatMap Statement.insertedLines
      = (Digest.pieces size lines).flatMap fun piece =>
          (Statement.insertLines piece).insertedLines := by
        rw [lineInserts, List.flatMap_map]
    _ = (Digest.pieces size lines).flatMap (List.map .ok) := by
        simp only [Statement.insertedLines_insertLines]
    _ = (Digest.pieces size lines).flatten.map .ok := by
        rw [List.map_flatten, List.flatMap_def]
    _ = lines.map .ok := by
        rw [flatten_pieces hsize]

theorem length_lineInserts {size : Nat} (hsize : 0 < size) (lines : List StoredLine) :
    (lineInserts size lines).length = (lines.length + size - 1) / size := by
  rw [lineInserts, List.length_map, length_pieces hsize]

theorem withinLimits_of_mem_lineInserts {size : Nat} (hsize : 0 < size) (hle : size ≤ 1000)
    {lines : List StoredLine} {st : Statement} (h : st ∈ lineInserts size lines) :
    st.WithinLimits := by
  obtain ⟨piece, hpiece, rfl⟩ := List.mem_map.mp h
  obtain ⟨hne, hlength⟩ := length_of_mem_cut hsize hpiece
  exact Statement.withinLimits_insertLines hne (hlength.trans hle)

end Reconcile.Database
