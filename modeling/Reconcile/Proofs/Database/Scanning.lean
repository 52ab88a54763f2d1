import Mathlib.Data.List.Forall2
import Reconcile.Proofs.Database.Codec
import Reconcile.Proofs.Database.Transaction

/-! # Scanning a database

    A scan asks one question and reads the answer row by row.  It finds candidates if and only if
    the database answers with rows that all stand for candidates, and then it finds these.

    Main statement: `exists_scanTurn`. -/

namespace Reconcile.Database

open Dialogue (Turn)

/-! ## Section 1: Rows one by one -/

theorem each_eq_ok_iff {ε α β : Type} {f : α → Except ε β} {as : List α} {bs : List β} :
    each f as = .ok bs ↔ List.Forall₂ (fun a b => f a = .ok b) as bs := by
  induction as generalizing bs with
  | nil => simp [each, eq_comm]
  | cons a as ih =>
    rw [each, List.forall₂_cons_left_iff]
    rcases f a with e | b
    · simp
    · rcases heach : each f as with e | rest
      · simp [← ih, heach]
      · simp [← ih, heach, eq_comm]

/-- What two steps make of some values one after the other, they make of each value. -/
theorem forall₂_trans_iff {α β γ : Type} {r : α → β → Prop} {t : β → γ → Prop} {as : List α}
    {cs : List γ} :
    (∃ bs, List.Forall₂ r as bs ∧ List.Forall₂ t bs cs) ↔
      List.Forall₂ (fun a c => ∃ b, r a b ∧ t b c) as cs := by
  constructor
  · rintro ⟨bs, hr, ht⟩
    induction hr generalizing cs with
    | nil =>
      cases ht
      exact .nil
    | cons hab _ ih =>
      cases ht with
      | cons hbc ht => exact .cons ⟨_, hab, hbc⟩ (ih ht)
  · intro h
    induction h with
    | nil => exact ⟨[], .nil, .nil⟩
    | cons hac _ ih =>
      obtain ⟨b, hab, hbc⟩ := hac
      obtain ⟨bs, hr, ht⟩ := ih
      exact ⟨b :: bs, .cons hab hr, .cons hbc ht⟩

section Query

variable {ρ α : Type} (st : Statement) (record : Row → Except StoreError ρ)
  (interpret : ρ → Except StoreError α)

/-- What the answer to a query is read as: all rows are read before any of them is interpreted. -/
def readRows : Except String (List Row) → Except StoreError (List α)
  | .error m => .error (.server m)
  | .ok rows =>
    match each record rows with
    | .error e => .error e
    | .ok records => each interpret records

theorem queryAll_eq :
    queryAll st record interpret =
      (Dialogue.question (A := Question.Answer) (.query st)).bind fun a =>
        .done (readRows record interpret a) := by
  rw [queryAll, query, Dialogue.bind_assoc]
  congr 1
  funext a
  rcases a with m | rows
  · rfl
  · simp only [Dialogue.done_bind, readRows]
    rcases each record rows with e | records <;> rfl

variable {record interpret} in
theorem readRows_eq_ok_iff {a : Except String (List Row)} {as : List α} :
    readRows record interpret a = .ok as ↔ ∃ rows, a = .ok rows ∧
      List.Forall₂ (fun row x => ∃ r, record row = .ok r ∧ interpret r = .ok x) rows as := by
  simp only [← forall₂_trans_iff, ← each_eq_ok_iff]
  rcases a with m | rows
  · simp [readRows]
  · rcases heach : each record rows with e | records <;> simp [readRows, heach]

end Query

/-! ## Section 2: Candidates -/

/-- The row stands for a candidate of the feed: its columns hold the identifier, the age, and the
    code of what there is to do. -/
structure Row.IsCandidate (feed : Feed) (r : Row) (c : Candidate) : Prop where
  feed : c.feed = feed
  id : r.value "legacy_id" = .text c.id
  createdAt : r.value "created_at" = .instant c.createdAt
  need : r.value "kind" = .text (Coded.code c.need)

namespace CandidateRow

theorem readNeed_eq_ok_iff {text : String} {need : Need} :
    readNeed text = .ok need ↔ text = Coded.code need := by
  have hcode : Coded.ofCode? (Coded.code need) = some need := by cases need <;> rfl
  rw [readNeed]
  constructor
  · intro h
    rcases hread : (Coded.ofCode? text : Option Need) with _ | n
    · simp [hread] at h
    · obtain rfl : n = need := by simpa [hread] using h
      exact (by simpa using List.find?_some hread : Coded.code n = text).symm
  · rintro rfl
    rw [hcode]

theorem toCandidate_eq_ok_iff {feed : Feed} {record : CandidateRow} {c : Candidate} :
    record.toCandidate feed = .ok c ↔
      record.need = Coded.code c.need ∧ c = ⟨feed, record.id, c.need, record.createdAt⟩ := by
  rw [toCandidate]
  constructor
  · intro h
    rcases hneed : readNeed record.need with e | need
    · simp [hneed, Except.map] at h
    · obtain rfl : ⟨feed, record.id, need, record.createdAt⟩ = c := by
        simpa [hneed, Except.map] using h
      exact ⟨readNeed_eq_ok_iff.mp hneed, rfl⟩
  · rintro ⟨hneed, hc⟩
    rw [readNeed_eq_ok_iff.mpr hneed, Except.map, ← hc]

/-- A row is made into a candidate if and only if it stands for it. -/
theorem isCandidate_iff {feed : Feed} {r : Row} {c : Candidate} :
    (∃ record, ofRow r = .ok record ∧ record.toCandidate feed = .ok c) ↔ r.IsCandidate feed c := by
  have htext {v : Value} {t : String} : v.asText? = some t ↔ v = .text t := by
    cases v <;> simp [Value.asText?]
  have hinstant {v : Value} {t : Instant} : v.asInstant? = some t ↔ v = .instant t := by
    cases v <;> simp [Value.asInstant?]
  simp only [ofRow, bind_eq_ok_iff, Row.required_eq_ok_iff, htext, hinstant,
    toCandidate_eq_ok_iff]
  constructor
  · rintro ⟨record, ⟨id, hid, createdAt, hcreatedAt, need, hneed, hrecord⟩, hcode, hc⟩
    cases hrecord
    rw [hc]
    exact ⟨rfl, hid, hcreatedAt, by rw [hneed]; exact congrArg _ hcode⟩
  · intro h
    refine ⟨⟨c.id, c.createdAt, Coded.code c.need⟩,
      ⟨_, h.id, _, h.createdAt, _, h.need, rfl⟩, rfl, ?_⟩
    obtain ⟨feed', id, need, createdAt⟩ := c
    obtain rfl : feed' = feed := h.feed
    rfl

end CandidateRow

section Scan

variable {σ : Type} (connection : Connection σ) (scope : Scope) (feed : Feed) (limit : Nat) (s : σ)

/-- The question of a scan, with its answer. -/
def scanTurn (a : Except String (List Row)) : Turn Question.Answer :=
  ⟨.query (.scan scope feed limit), a⟩

/-- The answer stands for candidates, row by row. -/
def Finds (feed : Feed) (a : Except String (List Row)) (cs : List Candidate) : Prop :=
  ∃ rows, a = .ok rows ∧ List.Forall₂ (Row.IsCandidate feed) rows cs

/-- A scan asks once and finds what the answer stands for. -/
theorem exists_scanTurn :
    ∃ a, (scan scope feed limit).transcript connection s = [scanTurn scope feed limit a] ∧
      ∀ cs, ((scan scope feed limit).exec connection s).1 = .ok cs ↔ Finds feed a cs := by
  rw [scan, queryAll_eq, Dialogue.transcript_bind, Dialogue.exec_bind]
  refine ⟨_, rfl, fun cs => ?_⟩
  have hread := @readRows_eq_ok_iff _ _ CandidateRow.ofRow (·.toCandidate feed)
    (connection (.query (.scan scope feed limit)) s).1 cs
  simp only [CandidateRow.isCandidate_iff] at hread
  exact hread

end Scan

end Reconcile.Database
