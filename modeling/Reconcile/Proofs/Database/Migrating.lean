import Reconcile.Database.Schema
import Reconcile.Proofs.Database.Transaction

/-! # Bringing the schema up to date

    What is said to a database to bring its schema up to date, and how it ends, whatever the
    database answers.  It succeeds if the database is in no half-way state, knows of no other
    changes than the ones known here, and has or takes each of these.

    Main statement: `migrates`. -/

namespace Reconcile.Database

open Dialogue (Turn)

/-! ## Section 1: One change -/

def scriptTurn (m : Migration) (a : Except String Unit) : Turn Question.Answer :=
  ⟨.runScript m.script, a⟩

def recordTurn (m : Migration) (a : Except String Unit) : Turn Question.Answer := ⟨.record m, a⟩

/-- What is said to make a change of the schema, and how it ends: its script is run and it is
    taken account of in one transaction, which is given up at the first refusal. -/
inductive Applies (m : Migration) :
    List (Turn Question.Answer) → Except MigrationError Unit → Prop where
  | refused (e : String) : Applies m [beginTurn (.error e), rollbackTurn] (.error (failed e))
  | unmade (e : String) :
      Applies m [beginTurn (.ok ()), scriptTurn m (.error e), rollbackTurn] (.error (failed e))
  | unrecorded (e : String) :
      Applies m [beginTurn (.ok ()), scriptTurn m (.ok ()), recordTurn m (.error e), rollbackTurn]
        (.error (failed e))
  | uncommitted (e : String) :
      Applies m [beginTurn (.ok ()), scriptTurn m (.ok ()), recordTurn m (.ok ()),
        commitTurn (.error e), rollbackTurn] (.error (failed e))
  | made :
      Applies m [beginTurn (.ok ()), scriptTurn m (.ok ()), recordTurn m (.ok ()),
        commitTurn (.ok ())] (.ok ())

section Apply

variable {σ : Type} (connection : Connection σ) (m : Migration) (s : σ)

/-- What is done within the transaction of a change. -/
def applySteps : Talk (Except MigrationError Unit) :=
  (Dialogue.question (A := Question.Answer) (.runScript m.script)).bind fun
    | .error e => .done (.error (failed e))
    | .ok () => (Dialogue.question (A := Question.Answer) (.record m)).bind fun
      | .error e => .done (.error (failed e))
      | .ok () => .done (.ok ())

theorem applySteps_cases :
    let said := (applySteps m).transcript connection s
    let result := ((applySteps m).exec connection s).1
    (∃ e, said = [scriptTurn m (.error e)] ∧ result = .error (failed e)) ∨
    (∃ e, said = [scriptTurn m (.ok ()), recordTurn m (.error e)] ∧ result = .error (failed e)) ∨
    (said = [scriptTurn m (.ok ()), recordTurn m (.ok ())] ∧ result = .ok ()) := by
  simp only [applySteps, Dialogue.transcript_bind, Dialogue.exec_bind,
    Dialogue.transcript_question, Dialogue.exec_question]
  rcases (connection (.runScript m.script) s).1 with e | ⟨⟩
  · exact .inl ⟨e, rfl, rfl⟩
  · right
    simp only [Dialogue.transcript_bind, Dialogue.exec_bind, Dialogue.transcript_question,
      Dialogue.exec_question]
    rcases (connection (.record m) (connection (.runScript m.script) s).2).1 with e | ⟨⟩
    · exact .inl ⟨e, rfl, rfl⟩
    · exact .inr ⟨rfl, rfl⟩

theorem applies :
    Applies m ((apply m).transcript connection s) ((apply m).exec connection s).1 := by
  have happly : apply m = inTransaction failed (applySteps m) := rfl
  have hsteps := applySteps_cases connection m (connection .begin s).2
  rw [happly]
  rcases inTransaction_cases connection failed (applySteps m) s with
    ⟨e, hsaid, hresult⟩ | ⟨e, hexec, hsaid, hresult⟩ | ⟨⟨⟩, e, hexec, hsaid, hresult⟩ |
      ⟨⟨⟩, hexec, hsaid, hresult⟩ <;> rw [hsaid, hresult]
  · exact .refused e
  · rcases hsteps with ⟨e', hsteps, hfailed⟩ | ⟨e', hsteps, hfailed⟩ | ⟨-, hok⟩
    · obtain rfl : failed e' = e := Except.error.inj (hfailed.symm.trans hexec)
      rw [hsteps]
      exact .unmade e'
    · obtain rfl : failed e' = e := Except.error.inj (hfailed.symm.trans hexec)
      rw [hsteps]
      exact .unrecorded e'
    · cases hok.symm.trans hexec
  all_goals
    rcases hsteps with ⟨e', -, hfailed⟩ | ⟨e', -, hfailed⟩ | ⟨hsteps, -⟩
    · cases hfailed.symm.trans hexec
    · cases hfailed.symm.trans hexec
    · rw [hsteps]
      constructor

end Apply

/-! ## Section 2: All changes -/

/-- What is said to make the changes that are missing, in order, and how it ends. -/
inductive AppliesMissing (applied : List AppliedMigration) :
    List Migration → List (Turn Question.Answer) → Except MigrationError Unit → Prop where
  | done : AppliesMissing applied [] [] (.ok ())
  /-- The change was made before, by the same script. -/
  | present {m : Migration} {ms : List Migration} {a : AppliedMigration}
      {said : List (Turn Question.Answer)} {result : Except MigrationError Unit}
      (h : applied.reverse.find? (·.version = m.version) = some a) (same : a.checksum = m.checksum)
      (rest : AppliesMissing applied ms said result) : AppliesMissing applied (m :: ms) said result
  /-- The change was made before, by another script. -/
  | changed {m : Migration} {ms : List Migration} {a : AppliedMigration}
      (h : applied.reverse.find? (·.version = m.version) = some a)
      (other : a.checksum ≠ m.checksum) :
      AppliesMissing applied (m :: ms) [] (.error (.modified m.version))
  | refused {m : Migration} {ms : List Migration} {said : List (Turn Question.Answer)}
      {e : MigrationError} (h : ∀ a ∈ applied, a.version ≠ m.version)
      (applies : Applies m said (.error e)) : AppliesMissing applied (m :: ms) said (.error e)
  | made {m : Migration} {ms : List Migration} {said said' : List (Turn Question.Answer)}
      {result : Except MigrationError Unit} (h : ∀ a ∈ applied, a.version ≠ m.version)
      (applies : Applies m said (.ok ())) (rest : AppliesMissing applied ms said' result) :
      AppliesMissing applied (m :: ms) (said ++ said') result

def dirtyTurn (a : Except String (Option Int)) : Turn Question.Answer := ⟨.dirtyVersion, a⟩

def appliedTurn (a : Except String (List AppliedMigration)) : Turn Question.Answer :=
  ⟨.appliedMigrations, a⟩

/-- A version of the schema that is known here. -/
def IsKnown (version : Int) : Prop := ∃ m ∈ migrations, m.version = version

/-- What is said to bring the schema up to date, and how it ends. -/
inductive Migrates : List (Turn Question.Answer) → Except MigrationError Unit → Prop where
  | unasked (e : String) : Migrates [dirtyTurn (.error e)] (.error (failed e))
  | dirty (version : Int) : Migrates [dirtyTurn (.ok (some version))] (.error (.dirty version))
  | unlisted (e : String) :
      Migrates [dirtyTurn (.ok none), appliedTurn (.error e)] (.error (failed e))
  | unknown {applied : List AppliedMigration} {a : AppliedMigration} (h : a ∈ applied)
      (unknown : ¬ IsKnown a.version) :
      Migrates [dirtyTurn (.ok none), appliedTurn (.ok applied)] (.error (.missing a.version))
  | known {applied : List AppliedMigration} {said : List (Turn Question.Answer)}
      {result : Except MigrationError Unit} (h : ∀ a ∈ applied, IsKnown a.version)
      (rest : AppliesMissing applied migrations said result) :
      Migrates (dirtyTurn (.ok none) :: appliedTurn (.ok applied) :: said) result

theorem isKnown_iff (a : AppliedMigration) :
    (migrations.any fun m => decide (m.version = a.version)) = true ↔ IsKnown a.version := by
  simp [IsKnown]

theorem unknownMigration?_eq_none {applied : List AppliedMigration}
    (h : unknownMigration? applied = none) : ∀ a ∈ applied, IsKnown a.version := by
  intro a ha
  rw [unknownMigration?, Option.map_eq_none_iff, List.find?_eq_none] at h
  exact (isKnown_iff a).mp (by simpa using h a ha)

theorem unknownMigration?_eq_some {applied : List AppliedMigration} {version : Int}
    (h : unknownMigration? applied = some version) :
    ∃ a ∈ applied, ¬ IsKnown a.version ∧ a.version = version := by
  obtain ⟨a, ha, rfl⟩ := Option.map_eq_some_iff.mp h
  refine ⟨a, List.mem_of_find?_eq_some ha, fun hknown => ?_, rfl⟩
  have hnot := List.find?_some ha
  rw [(isKnown_iff a).mpr hknown] at hnot
  exact absurd hnot (by decide)

section Migrate

variable {σ : Type} (connection : Connection σ)

theorem appliesMissing (applied : List AppliedMigration) (ms : List Migration) (s : σ) :
    AppliesMissing applied ms ((applyMissing applied ms).transcript connection s)
      ((applyMissing applied ms).exec connection s).1 := by
  induction ms generalizing s with
  | nil => exact .done
  | cons m ms ih =>
    cases hfind : applied.reverse.find? (·.version = m.version) with
    | none =>
      have hnone : ∀ a ∈ applied, a.version ≠ m.version := by
        simpa using hfind
      have happlies := applies connection m s
      simp only [applyMissing, hfind, transcript_andThen, exec_andThen]
      rcases hresult : ((apply m).exec connection s).1 with e | ⟨⟩
      · rw [hresult] at happlies
        rw [List.append_nil]
        exact .refused hnone happlies
      · rw [hresult] at happlies
        exact .made hnone happlies (ih _)
    | some a =>
      by_cases hsame : a.checksum = m.checksum
      · simp only [applyMissing, hfind, if_pos hsame]
        exact .present hfind hsame (ih s)
      · simp only [applyMissing, hfind, if_neg hsame]
        exact .changed hfind hsame

/-- Whatever the database answers, this is what it is asked, and how it ends. -/
theorem migrates (s : σ) :
    Migrates (migrate.transcript connection s) (migrate.exec connection s).1 := by
  simp only [migrate, Dialogue.transcript_bind, Dialogue.exec_bind,
    Dialogue.transcript_question, Dialogue.exec_question]
  rcases (connection .dirtyVersion s).1 with e | _ | version
  · exact .unasked e
  · simp only [Dialogue.transcript_bind, Dialogue.exec_bind, Dialogue.transcript_question,
      Dialogue.exec_question]
    rcases (connection .appliedMigrations (connection .dirtyVersion s).2).1 with e | applied
    · exact .unlisted e
    · cases hunknown : unknownMigration? applied with
      | none =>
        simp only [hunknown]
        exact .known (unknownMigration?_eq_none hunknown) (appliesMissing connection _ _ _)
      | some version =>
        obtain ⟨a, ha, hknown, rfl⟩ := unknownMigration?_eq_some hunknown
        simp only [hunknown]
        exact .unknown ha hknown
  · exact .dirty version

end Migrate

end Reconcile.Database
