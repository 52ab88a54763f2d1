import Mathlib.Algebra.GroupWithZero.Nat
import Reconcile.Proofs.Database.Transaction

/-! # Inserting lines

    The lines of an invoice are inserted piece by piece.  What is said to the database depends on
    its answers no further than that it ends where one of them is an error: as long as the
    statements are executed the next one is said, and when all were executed the rows that they
    changed are counted together.

    Main statement: `insertLines_exact`. -/

namespace Reconcile.Database

open Dialogue (Turn Follows)

/-! ## Section 1: What is said -/

/-- A statement was executed and changed so many rows. -/
def executed (st : Statement) (n : Nat) : Turn Question.Answer := ⟨.execute st, Except.ok n⟩

/-- The database executed the statement of this turn. -/
def IsExecuted (t : Turn Question.Answer) : Prop := ∃ st n, t = executed st n

/-- In a turn in which a statement is to be executed nothing else can go well. -/
theorem fine_iff_isExecuted (h : Header) {st : Statement} {t : Turn Question.Answer}
    (ht : t.question = .execute st) : Fine h t ↔ IsExecuted t := by
  obtain ⟨q, a⟩ := t
  obtain rfl : q = .execute st := ht
  constructor
  · rintro ⟨n, rfl⟩
    exact ⟨st, n, rfl⟩
  · rintro ⟨_, n, hexecuted⟩
    cases hexecuted
    exact ⟨n, rfl⟩

theorem insertPieces_cons (piece : List StoredLine) (pieces : List (List StoredLine)) (n : Nat) :
    insertPieces (piece :: pieces) n =
      (Dialogue.question (A := Question.Answer) (.execute (.insertLines piece))).bind fun
        | .error m => .done (.error (.server m))
        | .ok k => insertPieces pieces (n + k) := by
  rw [insertPieces, andThen, execute, Dialogue.bind_assoc]
  congr 1
  funext a
  rcases a with m | k <;> rfl

section Talk

variable {σ : Type} (connection : Connection σ)

/-- The pieces are inserted if all their statements are executed, and the changed rows are
    counted on. -/
theorem exec_insertPieces_eq_ok_iff (pieces : List (List StoredLine)) (n total : Nat) (s : σ) :
    ((insertPieces pieces n).exec connection s).1 = .ok total ↔
      ∃ counts : List Nat, counts.length = pieces.length ∧
        (insertPieces pieces n).transcript connection s =
          List.zipWith executed (pieces.map .insertLines) counts ∧
        total = n + counts.sum := by
  induction pieces generalizing n s with
  | nil =>
    constructor
    · rintro ⟨⟩
      exact ⟨[], rfl, rfl, rfl⟩
    · rintro ⟨counts, hlength, -, rfl⟩
      rw [List.length_eq_zero_iff.mp hlength]
      rfl
  | cons piece pieces ih =>
    rw [insertPieces_cons, Dialogue.exec_bind, Dialogue.transcript_bind,
      Dialogue.transcript_question, Dialogue.exec_question]
    rcases (connection (.execute (.insertLines piece)) s).1 with m | k
    · -- the turn that is said was no success, and so it is none of those that are wanted
      constructor
      · rintro ⟨⟩
      · rintro ⟨_ | ⟨k, counts⟩, hlength, hsaid, -⟩
        · cases hlength
        · cases hsaid
    · constructor
      · intro h
        obtain ⟨counts, hlength, hsaid, rfl⟩ := (ih (n + k) _).mp h
        refine ⟨k :: counts, congrArg (· + 1) hlength, ?_, ?_⟩
        · exact congrArg (executed (.insertLines piece) k :: ·) hsaid
        · rw [List.sum_cons, Nat.add_assoc]
      · rintro ⟨_ | ⟨k', counts⟩, hlength, hsaid, rfl⟩
        · cases hlength
        · obtain ⟨hturn, hturns⟩ := List.cons.inj hsaid
          cases hturn
          refine (ih (n + k) _).mpr ⟨counts, Nat.succ.inj hlength, hturns, ?_⟩
          rw [List.sum_cons, Nat.add_assoc]

end Talk

/-! ## Section 2: The insertion -/

/-- The lines of an invoice are inserted by as many statements as there are thousands of them,
    counted up.  Read in order, the rows of these statements hold all the lines, each of them once
    and under its header, and each statement keeps within its limits.  Whatever the database
    answers, the statements are said one after another as long as they are executed, and it goes
    well if all of them are.  The result then is how many rows they changed together. -/
theorem insertLines_exact (header : Header) (lines : List Line) :
    ∃ statements : List Statement,
      statements.flatMap Statement.insertedLines =
        lines.map (fun l => .ok (header.storedLine l)) ∧
      statements.length = (lines.length + 999) / 1000 ∧
      (∀ st ∈ statements, st.WithinLimits) ∧
      ∀ {σ : Type} (connection : Connection σ) (s : σ),
        let talk := insertLines (lines.map header.storedLine)
        let result := (talk.exec connection s).1
        Follows IsExecuted (statements.map .execute) (talk.transcript connection s) result.isOk ∧
        ∀ total, result = .ok total ↔
          ∃ counts : List Nat, counts.length = statements.length ∧
            talk.transcript connection s = List.zipWith executed statements counts ∧
            total = counts.sum := by
  let stored := lines.map header.storedLine
  refine ⟨lineInserts maxLinesPerInsert stored, ?_, ?_, ?_, ?_⟩
  · rw [insertedLines_lineInserts (by decide), List.map_map]
    rfl
  · rw [length_lineInserts (by decide), List.length_map]
    rfl
  · intro st hst
    exact withinLimits_of_mem_lineInserts (by decide) (by decide) hst
  · intro σ connection s talk result
    constructor
    · have hobeys : Obeys connection header talk s _ :=
        obeys_insertPieces (Digest.pieces maxLinesPerInsert stored) 0 s
      rw [lineInserts, List.map_map]
      refine hobeys.congr fun t ht => ?_
      -- every question of the script is a statement to be executed
      obtain ⟨piece, -, hpiece⟩ := List.mem_map.mp ht
      exact fine_iff_isExecuted header hpiece.symm
    · intro total
      have hexec := exec_insertPieces_eq_ok_iff connection
        (Digest.pieces maxLinesPerInsert stored) 0 total s
      simp only [Nat.zero_add] at hexec
      rw [lineInserts, List.length_map]
      exact hexec

end Reconcile.Database
