import Reconcile.Proofs.Database.Wording

/-! # The statements of a replacement

    What the three statements that replace an invoice change, by their texts.  Whatever stands
    in the text of a statement but not in its reading, or the other way round, makes these proofs
    fail.

    Main statements: `change?_upsertHeader`, `change?_deleteLines` and `change?_insertLines`. -/

namespace Reconcile.Database

open Statement (columnList)

/-! ## Section 1: The changes -/

def headerTable : String := "canonical_invoices"

def lineTable : String := "canonical_invoice_line_items"

/-- The row of a header before it is stored. -/
def headerRow (d : HeaderDraft) : Row := .ofValues HeaderRow.columns (HeaderRow.ofDraft d).values

/-- The row of a line. -/
def lineRow (s : StoredLine) : Row := .ofValues LineRow.columns (LineRow.ofStored s).values

/-- What an upsert takes over into a row that is there already. -/
def upsertChanges : List (String × Expression) := [
  ("supplier_id", .excluded "supplier_id"), ("source", .excluded "source"),
  ("invoice_date", .excluded "invoice_date"), ("deleted_at", .excluded "deleted_at"),
  ("updated_at", .now)]

/-- The row of the header is put into the table, or the row that points at the same legacy
    invoice is changed. -/
def headerInsert (d : HeaderDraft) : Insert where
  table := headerTable
  rows := [headerRow d]
  key := some d.link.feed.pointerColumn
  changes := upsertChanges
  returning := HeaderRow.columns.map (·.name)

/-- The rows of the lines are put into the table. -/
def lineInsert (lines : List StoredLine) : Insert where
  table := lineTable
  rows := lines.map lineRow
  key := none
  changes := []
  returning := []

/-- The rows of the lines of a header are taken out. -/
def lineDelete (header : Uuid) : Delete := ⟨lineTable, "canonical_invoice_id", .uuid header⟩

/-! ## Section 2: Their texts -/

namespace Statement

theorem change?_deleteLines (header : Uuid) :
    (deleteLines header).change? = some (.delete (lineDelete header)) := by
  have hwords : wordsOf (deleteLines header).sql = ["DELETE", "FROM",
      "canonical_invoice_line_items", "WHERE", "canonical_invoice_id", "=", "$1"] := by
    unfold deleteLines
    dsimp only
    decide +kernel
  unfold change?
  rw [hwords]
  rfl

theorem plain_columns : ∀ c ∈ HeaderRow.columns ++ LineRow.columns, Plain c.name := by
  decide +kernel

/-- The lists of parameters of so many rows. -/
def valueLists (width count : Nat) : List (List String) :=
  (List.range count).map fun i => parameters (width * i + 1) width

theorem wordsOf_insertLines (lines : List StoredLine) :
    wordsOf (insertLines lines).sql =
      (["INSERT", "INTO", "canonical_invoice_line_items"] ++
        bracketed (LineRow.columns.map (·.name))) ++
      "VALUES" :: (valueLists LineRow.columns.length lines.length).flatMap bracketed := by
  have hinto : EndsApart "INSERT INTO canonical_invoice_line_items ( " := by decide +kernel
  have hvalues : StartsApart " ) VALUES " ∧ EndsApart " ) VALUES " := by decide +kernel
  have hwords : wordsOf "INSERT INTO canonical_invoice_line_items ( " =
      ["INSERT", "INTO", "canonical_invoice_line_items", "("] ∧
      wordsOf " ) VALUES " = [")", "VALUES"] := by decide +kernel
  have hcolumns : ∀ c ∈ LineRow.columns, Plain c.name := by
    intro c hc
    exact plain_columns c (List.mem_append_right _ hc)
  unfold insertLines
  rw [wordsOf_append_left (hvalues.2.append _), wordsOf_append_right hvalues.1,
    wordsOf_append_left hinto, wordsOf_columnList hcolumns, wordsOf_rowLists, hwords.1, hwords.2]
  simp [bracketed, valueLists, List.flatMap_map]

/-- No word of a statement but parameters and brackets stands among the values. -/
theorem not_mem_valueLists {w : String} (hw : w ∈ keywords) (width count : Nat) :
    w ∉ (valueLists width count).flatMap bracketed := by
  have hsign : ∀ w ∈ keywords, w.toList.head? ≠ some '$' ∧ w ∉ ["(", ")"] := by decide +kernel
  intro hmem
  obtain ⟨g, hg, hwg⟩ := List.mem_flatMap.mp hmem
  obtain ⟨i, -, rfl⟩ := List.mem_map.mp hg
  exact not_mem_bracketed_parameters (hsign w hw).1 (hsign w hw).2 _ _ hwg

theorem groups_valueLists (width count : Nat) :
    groups ((valueLists width count).flatMap bracketed) = valueLists width count := by
  apply groups_flatMap_bracketed
  intro g hg
  obtain ⟨i, -, rfl⟩ := List.mem_map.mp hg
  exact ⟨not_mem_parameters (by decide +kernel) _ _, not_mem_parameters (by decide +kernel) _ _⟩

/-- What stands among the values is a list of parameters for each row. -/
theorem clause_values_insertLines (lines : List StoredLine) :
    clause "VALUES" (wordsOf (insertLines lines).sql) =
      (valueLists LineRow.columns.length lines.length).flatMap bracketed := by
  have hbefore : "VALUES" ∉ ["INSERT", "INTO", "canonical_invoice_line_items"] ++
      bracketed (LineRow.columns.map (·.name)) := by decide +kernel
  have hkeywords : ∀ w ∈ (valueLists LineRow.columns.length lines.length).flatMap bracketed,
      w ∉ keywords := by
    intro w hw hmem
    exact not_mem_valueLists hmem _ _ hw
  have hend : ∀ w ∈ ([] : List String).head?, w ∈ keywords := by simp
  have hvalues := clause_append hbefore hkeywords hend
  rw [List.append_nil] at hvalues
  rw [wordsOf_insertLines]
  exact hvalues

theorem change?_insertLines (lines : List StoredLine) :
    (insertLines lines).change? = some (.insert (lineInsert lines)) := by
  let names := LineRow.columns.map (·.name)
  let start := ["INSERT", "INTO", "canonical_invoice_line_items"] ++ bracketed names
  let lists := valueLists LineRow.columns.length lines.length
  let ws := start ++ "VALUES" :: lists.flatMap bracketed
  have hwords : wordsOf (insertLines lines).sql = ws := wordsOf_insertLines lines
  have hinto : clause "INTO" ws = "canonical_invoice_line_items" :: bracketed names := by
    have hbefore : "INTO" ∉ ["INSERT"] := by decide +kernel
    apply clause_append hbefore
    · decide +kernel
    · intro w hw
      cases hw
      decide +kernel
  have hvalues : clause "VALUES" ws = lists.flatMap bracketed := by
    rw [← hwords]
    exact clause_values_insertLines lines
  -- neither the columns nor the parameters are keywords, so that no other clause is there
  have hnone : ∀ k ∈ ["SET", "CONFLICT", "RETURNING"], clause k ws = [] := by
    have hstart : ∀ k ∈ ["SET", "CONFLICT", "RETURNING"], k ∉ start ∧ k ≠ "VALUES" ∧
        k ∈ keywords := by decide +kernel
    intro k hk
    obtain ⟨h₁, h₂, h₃⟩ := hstart k hk
    apply clause_of_not_mem
    rw [List.mem_append, List.mem_cons, not_or, not_or]
    exact ⟨h₁, h₂, not_mem_valueLists h₃ _ _⟩
  have hnames : groups (clause "INTO" ws) = [names] := by
    rw [hinto]
    decide +kernel
  -- column by column, each row has the values that were bound for its line
  have hrows : lists.map (fun g => names.zip (g.map (argument (insertLines lines).params))) =
      lines.map lineRow := by
    have hbound : lists.map (fun g => g.map (argument (insertLines lines).params)) =
        lines.map fun l => (LineRow.ofStored l).values := by
      unfold lists valueLists
      rw [List.map_map]
      exact map_argument_flatMap (fun l => (LineRow.ofStored l).values) (fun _ => rfl) lines
    have hzip := congrArg (List.map names.zip) hbound
    rw [List.map_map, List.map_map] at hzip
    exact hzip
  have hhead : ws.head? = some "INSERT" := rfl
  have hgroups : groups (lists.flatMap bracketed) = lists := groups_valueLists _ _
  have htable : (clause "INTO" ws).head? = some "canonical_invoice_line_items" := by
    rw [hinto]
    rfl
  have hcolumns : (groups (clause "INTO" ws)).head? = some names := by
    rw [hnames]
    rfl
  have hset : assignments? ((clause "SET" ws).filter fun w => w ≠ "(" ∧ w ≠ ")") = some [] := by
    rw [hnone "SET" (by simp)]
    rfl
  have hinsert := Insert.ofWords?_eq ws (insertLines lines).params htable hcolumns hset
  rw [hvalues, hgroups, hrows, hnone "CONFLICT" (by simp), hnone "RETURNING" (by simp)] at hinsert
  unfold change?
  rw [hwords]
  simp only [hhead, if_true, hinsert]
  rfl

/-- The words of an upsert. -/
def upsertWords (feed : Feed) : List String :=
  ["INSERT", "INTO", "canonical_invoices"] ++ bracketed (HeaderRow.columns.map (·.name)) ++
    ["VALUES"] ++ bracketed (parameters 1 HeaderRow.columns.length) ++ ["ON", "CONFLICT"] ++
    bracketed [feed.pointerColumn] ++ ["DO", "UPDATE", "SET", "supplier_id", "=",
      "EXCLUDED.supplier_id", "source", "=", "EXCLUDED.source", "invoice_date", "=",
      "EXCLUDED.invoice_date", "deleted_at", "=", "EXCLUDED.deleted_at", "updated_at", "=",
      "now", "(", ")", "RETURNING"] ++ HeaderRow.columns.map (·.name)

theorem wordsOf_upsertHeader (d : HeaderDraft) :
    wordsOf (upsertHeader d).sql = upsertWords d.link.feed := by
  have hinto : EndsApart "INSERT INTO canonical_invoices ( " := by decide +kernel
  have hvalues : StartsApart " ) VALUES (" ∧ EndsApart " ) VALUES (" := by decide +kernel
  have hconflict : StartsApart ") ON CONFLICT (" ∧ EndsApart ") ON CONFLICT (" := by
    decide +kernel
  have hset : StartsApart ") DO UPDATE SET supplier_id = EXCLUDED.supplier_id, " ∧
      EndsApart ") DO UPDATE SET supplier_id = EXCLUDED.supplier_id, " := by decide +kernel
  have hdate : EndsApart "source = EXCLUDED.source, invoice_date = EXCLUDED.invoice_date, " := by
    decide +kernel
  have hnow : EndsApart "deleted_at = EXCLUDED.deleted_at, updated_at = now() RETURNING " := by
    decide +kernel
  have hcolumns : wordsOf (columnList HeaderRow.columns) = HeaderRow.columns.map (·.name) := by
    apply wordsOf_columnList
    intro c hc
    exact plain_columns c (List.mem_append_left _ hc)
  have hpointer : wordsOf d.link.feed.pointerColumn = [d.link.feed.pointerColumn] := by
    apply wordsOf_of_plain
    cases d.link.feed <;> decide +kernel
  have hwords : wordsOf "INSERT INTO canonical_invoices ( " =
        ["INSERT", "INTO", "canonical_invoices", "("] ∧
      wordsOf " ) VALUES (" = [")", "VALUES", "("] ∧
      wordsOf ") ON CONFLICT (" = [")", "ON", "CONFLICT", "("] := by decide +kernel
  have hsetWords : wordsOf ") DO UPDATE SET supplier_id = EXCLUDED.supplier_id, " =
        [")", "DO", "UPDATE", "SET", "supplier_id", "=", "EXCLUDED.supplier_id"] ∧
      wordsOf "source = EXCLUDED.source, invoice_date = EXCLUDED.invoice_date, " =
        ["source", "=", "EXCLUDED.source", "invoice_date", "=", "EXCLUDED.invoice_date"] ∧
      wordsOf "deleted_at = EXCLUDED.deleted_at, updated_at = now() RETURNING " =
        ["deleted_at", "=", "EXCLUDED.deleted_at", "updated_at", "=", "now", "(", ")",
          "RETURNING"] := by decide +kernel
  unfold upsertHeader
  rw [wordsOf_append_left (hnow.append _), wordsOf_append_left (hdate.append _),
    wordsOf_append_left (hset.2.append _), wordsOf_append_right hset.1,
    wordsOf_append_left (hconflict.2.append _), wordsOf_append_right hconflict.1,
    wordsOf_append_left (hvalues.2.append _), wordsOf_append_right hvalues.1,
    wordsOf_append_left hinto, hcolumns, hpointer, wordsOf_parameterList, hwords.1, hwords.2.1,
    hwords.2.2, hsetWords.1, hsetWords.2.1, hsetWords.2.2]
  simp [upsertWords, bracketed]

theorem change?_upsertHeader (d : HeaderDraft) :
    (upsertHeader d).change? = some (.insert (headerInsert d)) := by
  let names := HeaderRow.columns.map (·.name)
  let lists := parameters 1 HeaderRow.columns.length
  -- but for its pointer the text is the same for every draft
  have hclauses : ∀ feed : Feed,
      clause "INTO" (upsertWords feed) = "canonical_invoices" :: bracketed names ∧
      groups (clause "INTO" (upsertWords feed)) = [names] ∧
      groups (clause "VALUES" (upsertWords feed)) = [lists] ∧
      groups (clause "CONFLICT" (upsertWords feed)) = [[feed.pointerColumn]] ∧
      assignments? ((clause "SET" (upsertWords feed)).filter fun w => w ≠ "(" ∧ w ≠ ")") =
        some upsertChanges ∧
      clause "RETURNING" (upsertWords feed) = names := by
    intro feed
    cases feed <;> decide +kernel
  obtain ⟨hinto, hnames, hvalues, hconflict, hset, hreturning⟩ := hclauses d.link.feed
  have hbound : lists.map (argument (upsertHeader d).params) = (HeaderRow.ofDraft d).values := by
    have := map_argument_parameters [] (HeaderRow.ofDraft d).values []
    rwa [List.nil_append, List.append_nil] at this
  have hhead : (upsertWords d.link.feed).head? = some "INSERT" := rfl
  have htable : (clause "INTO" (upsertWords d.link.feed)).head? = some "canonical_invoices" := by
    rw [hinto]
    rfl
  have hcolumns : (groups (clause "INTO" (upsertWords d.link.feed))).head? = some names := by
    rw [hnames]
    rfl
  have hinsert := Insert.ofWords?_eq _ (upsertHeader d).params htable hcolumns hset
  rw [hvalues, hconflict, hreturning, List.map_singleton, hbound] at hinsert
  unfold change?
  rw [wordsOf_upsertHeader]
  simp only [hhead, if_true, hinsert]
  rfl

end Statement

end Reconcile.Database
