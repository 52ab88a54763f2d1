import Reconcile.Dialogue

/-! # Transcripts

    What was said when a dialogue was run: its questions in order, each with the answer it was
    given.  Whoever answers can take it down, and the dialogue does not notice.

    A script is a list of questions that a dialogue goes through as long as all goes well.

    Main statements: `exec_recorded` and `Follows.append`. -/

namespace Reconcile.Dialogue

variable {Q : Type} {A : Q → Type} {α β σ : Type}

/-! ## Section 1: Transcripts -/

/-- A question and the answer it was given. -/
structure Turn (A : Q → Type) where
  question : Q
  answer : A question

/-- What is said when a dialogue is run. -/
def transcript (answer : Answerer A σ) : Dialogue A α → σ → List (Turn A)
  | .done _, _ => []
  | .ask q next, s =>
    ⟨q, (answer q s).1⟩ :: (next (answer q s).1).transcript answer (answer q s).2

@[simp] theorem transcript_done (answer : Answerer A σ) (a : α) (s : σ) :
    (Dialogue.done a : Dialogue A α).transcript answer s = [] := rfl

@[simp] theorem transcript_question (answer : Answerer A σ) (q : Q) (s : σ) :
    (question q : Dialogue A (A q)).transcript answer s = [⟨q, (answer q s).1⟩] := rfl

@[simp] theorem exec_question (answer : Answerer A σ) (q : Q) (s : σ) :
    (question q : Dialogue A (A q)).exec answer s = answer q s := rfl

theorem transcript_bind (answer : Answerer A σ) (d : Dialogue A α) (k : α → Dialogue A β)
    (s : σ) :
    (d.bind k).transcript answer s =
      d.transcript answer s ++ (k (d.exec answer s).1).transcript answer (d.exec answer s).2 := by
  induction d generalizing s with
  | done a => rfl
  | ask q next ih => simp [transcript, ih]

/-- Every answer was given in some state. -/
theorem exists_answer_of_mem_transcript {answer : Answerer A σ} {d : Dialogue A α} {s : σ}
    {t : Turn A} (h : t ∈ d.transcript answer s) : ∃ u, t.answer = (answer t.question u).1 := by
  induction d generalizing s with
  | done a => simp at h
  | ask q next ih =>
    rcases List.mem_cons.mp h with rfl | h
    · exact ⟨s, rfl⟩
    · exact ih _ h

/-- Answers as before and takes down what is said. -/
def recorded (answer : Answerer A σ) : Answerer A (σ × List (Turn A)) := fun q (s, log) =>
  ((answer q s).1, (answer q s).2, log ++ [⟨q, (answer q s).1⟩])

theorem exec_recorded (answer : Answerer A σ) (d : Dialogue A α) (s : σ) (log : List (Turn A)) :
    d.exec (recorded answer) (s, log) =
      ((d.exec answer s).1, (d.exec answer s).2, log ++ d.transcript answer s) := by
  induction d generalizing s log with
  | done a => simp
  | ask q next ih => simp [recorded, transcript, ih]

/-! ## Section 2: Scripts -/

/-- The turns go through a script, question by question, until one does not go well; also
    tells whether all went well. -/
inductive Follows (fine : Turn A → Prop) : List Q → List (Turn A) → Bool → Prop where
  | through : Follows fine [] [] true
  | stopped {t : Turn A} {qs : List Q} (h : ¬ fine t) :
      Follows fine (t.question :: qs) [t] false
  | next {t : Turn A} {qs : List Q} {ts : List (Turn A)} {b : Bool} (h : fine t)
      (rest : Follows fine qs ts b) : Follows fine (t.question :: qs) (t :: ts) b

namespace Follows

variable {fine : Turn A → Prop} {qs qs' : List Q} {ts ts' : List (Turn A)} {b : Bool}

/-- A script of one question. -/
theorem single {q : Q} {a : A q} (h : fine ⟨q, a⟩ ↔ b = true) :
    Follows fine [q] [⟨q, a⟩] b := by
  cases b with
  | false => exact .stopped (t := ⟨q, a⟩) fun hfine => by simpa using h.mp hfine
  | true => exact .next (t := ⟨q, a⟩) (h.mpr rfl) .through

/-- A script of which all went well can be gone on with. -/
theorem append (h : Follows fine qs ts true) (h' : Follows fine qs' ts' b) :
    Follows fine (qs ++ qs') (ts ++ ts') b := by
  -- the flag is an index of the induction, which has to see a variable there
  generalize hc : true = c at h
  induction h with
  | through => exact h'
  | stopped _ => cases hc
  | next hfine _ ih => exact .next hfine (ih hc)

/-- A script that stopped has stopped, whatever was to come. -/
theorem append_right (h : Follows fine qs ts false) (qs' : List Q) :
    Follows fine (qs ++ qs') ts false := by
  generalize hc : false = c at h
  induction h with
  | through => cases hc
  | stopped hfine => exact .stopped hfine
  | next hfine _ ih => exact .next hfine (ih hc)

/-- What counts as going well matters for the questions of the script only. -/
theorem congr {fine' : Turn A → Prop} (h : Follows fine qs ts b)
    (heq : ∀ t : Turn A, t.question ∈ qs → (fine t ↔ fine' t)) : Follows fine' qs ts b := by
  induction h with
  | through => exact .through
  | stopped hbad => exact .stopped (mt (heq _ List.mem_cons_self).mpr hbad)
  | next hfine _ ih =>
    refine .next ((heq _ List.mem_cons_self).mp hfine) (ih fun t ht => ?_)
    exact heq t (List.mem_cons_of_mem _ ht)

theorem isPrefix (h : Follows fine qs ts b) : ts.map (·.question) <+: qs := by
  induction h with
  | through => exact List.nil_prefix
  | stopped _ => exact ⟨_, rfl⟩
  | next _ _ ih => exact (List.prefix_cons_inj _).mpr ih

theorem map_question (h : Follows fine qs ts true) : ts.map (·.question) = qs := by
  generalize hc : true = c at h
  induction h with
  | through => rfl
  | stopped _ => cases hc
  | next _ _ ih => exact congrArg _ (ih hc)

theorem fine_of_mem (h : Follows fine qs ts true) : ∀ t ∈ ts, fine t := by
  generalize hc : true = c at h
  induction h with
  | through => simp
  | stopped _ => cases hc
  | next hfine _ ih => simpa using ⟨hfine, ih hc⟩

/-- A script that stopped did so at the first turn that did not go well. -/
theorem exists_not_fine (h : Follows fine qs ts false) :
    ∃ xs t, ts = xs ++ [t] ∧ (∀ u ∈ xs, fine u) ∧ ¬ fine t := by
  generalize hc : false = c at h
  induction h with
  | through => cases hc
  | stopped hbad => exact ⟨[], _, rfl, by simp, hbad⟩
  | next hfine _ ih =>
    obtain ⟨xs, t, rfl, hxs, ht⟩ := ih hc
    exact ⟨_ :: xs, t, rfl, by simpa using ⟨hfine, hxs⟩, ht⟩

/-- What was said before the last turn was asked before the last question of the script. -/
theorem isPrefix_of_append {ps : List Q} {q : Q} {xs : List (Turn A)} {t : Turn A}
    (h : Follows fine (ps ++ [q]) (xs ++ [t]) b) : xs.map (·.question) <+: ps := by
  obtain ⟨rest, hrest⟩ := h.isPrefix
  have hlast : xs.map (·.question) ++ (t.question :: rest).dropLast = ps := by
    have := congrArg List.dropLast hrest
    simpa [List.dropLast_append_of_ne_nil] using this
  exact ⟨_, hlast⟩

end Follows

end Reconcile.Dialogue
