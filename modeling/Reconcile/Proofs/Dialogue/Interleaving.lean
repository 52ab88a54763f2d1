import Reconcile.Proofs.Dialogue.Transcript

/-! # Dialogues that take turns

    Two dialogues can share one answerer: sometimes the first one asks its next question and
    sometimes the second one.  Each question is answered before the next is asked.  Who asks is
    given by a list of turns, so that what holds for every list holds for every interleaving.

    What a question depends on and what it changes is described by relations between states:
    two states are related if they are the same there.  If what the first dialogue depends on
    is left alone by the second, and the other way round, neither can tell that it is not alone.

    Main statement: `exec_interleave`, every interleaving ends for each dialogue as it would have
    ended alone. -/

namespace Reconcile.Dialogue

variable {Q : Type} {A : Q → Type} {α β σ : Type}

/-! ## Section 1: Taking turns -/

/-- Two dialogues as one: at `true` the first one asks its next question, at `false` the second
    one; a turn of a dialogue that has ended passes.  What is left of them after the last turn
    comes in order. -/
def interleave : List Bool → Dialogue A α → Dialogue A β → Dialogue A (α × β)
  | [], d, e => d.bind fun a => e.bind fun b => .done (a, b)
  | true :: turns, .done a, e => interleave turns (.done a) e
  | true :: turns, .ask q next, e => .ask q fun a => interleave turns (next a) e
  | false :: turns, d, .done b => interleave turns d (.done b)
  | false :: turns, d, .ask q next => .ask q fun b => interleave turns d (next b)

theorem exec_interleave_nil (answer : Answerer A σ) (d : Dialogue A α) (e : Dialogue A β) (s : σ) :
    (interleave [] d e).exec answer s =
      (((d.exec answer s).1, (e.exec answer (d.exec answer s).2).1),
        (e.exec answer (d.exec answer s).2).2) := by
  simp [interleave, exec_bind]

/-! ## Section 2: Questions apart -/

/-- Questions of a kind depend on nothing but what `own` compares, and leave alone what `other`
    compares. -/
structure Apart (answer : Answerer A σ) (kind : Q → Prop) (own other : σ → σ → Prop) : Prop where
  answer_eq : ∀ {q s t}, kind q → own s t → (answer q s).1 = (answer q t).1
  own_answer : ∀ {q s t}, kind q → own s t → own (answer q s).2 (answer q t).2
  other_answer : ∀ {q s t}, kind q → other s t → other (answer q s).2 t

/-- All questions of a dialogue are of a kind, if it is run from this state. -/
def AsksOnly (answer : Answerer A σ) (kind : Q → Prop) (d : Dialogue A α) (s : σ) : Prop :=
  ∀ t ∈ d.transcript answer s, kind t.question

section Apart

variable {answer : Answerer A σ} {kind : Q → Prop}

theorem asksOnly_done (a : α) (s : σ) : AsksOnly answer kind (.done a : Dialogue A α) s := by
  intro t ht
  cases ht

theorem asksOnly_ask {q : Q} {next : A q → Dialogue A α} {s : σ} :
    AsksOnly answer kind (.ask q next) s ↔
      kind q ∧ AsksOnly answer kind (next (answer q s).1) (answer q s).2 := by
  simp [AsksOnly, transcript]

theorem asksOnly_question {q : Q} {s : σ} (h : kind q) :
    AsksOnly answer kind (question q : Dialogue A (A q)) s :=
  asksOnly_ask.mpr ⟨h, asksOnly_done _ _⟩

theorem AsksOnly.bind {d : Dialogue A α} {k : α → Dialogue A β} {s : σ}
    (hd : AsksOnly answer kind d s)
    (hk : AsksOnly answer kind (k (d.exec answer s).1) (d.exec answer s).2) :
    AsksOnly answer kind (d.bind k) s := by
  intro t ht
  rw [transcript_bind] at ht
  rcases List.mem_append.mp ht with h | h
  · exact hd t h
  · exact hk t h

variable {own other : σ → σ → Prop}

/-- A dialogue goes on alike from states that are the same for it. -/
theorem Apart.exec_eq (h : Apart answer kind own other) {d : Dialogue A α} {s t : σ}
    (hst : own s t) (hd : AsksOnly answer kind d t) :
    (d.exec answer s).1 = (d.exec answer t).1 ∧
      own (d.exec answer s).2 (d.exec answer t).2 := by
  induction d generalizing s t with
  | done a => exact ⟨rfl, hst⟩
  | ask q next ih =>
    obtain ⟨hq, hnext⟩ := asksOnly_ask.mp hd
    rw [exec_ask, exec_ask, h.answer_eq hq hst]
    exact ih _ (h.own_answer hq hst) hnext

/-- A dialogue leaves alone what its questions do. -/
theorem Apart.exec_other (h : Apart answer kind own other) {d : Dialogue A α} {s t u : σ}
    (hst : own s t) (hd : AsksOnly answer kind d t) (hsu : other s u) :
    other (d.exec answer s).2 u := by
  induction d generalizing s t with
  | done a => exact hsu
  | ask q next ih =>
    obtain ⟨hq, hnext⟩ := asksOnly_ask.mp hd
    rw [exec_ask, h.answer_eq hq hst]
    exact ih _ (h.own_answer hq hst) hnext (h.other_answer hq hsu)

end Apart

/-! ## Section 3: Interleavings -/

/-- Two dialogues take turns from a state `u`.  For the first one it is the same as `s`, and for
    the second one the same as `t`.  Then the first ends as it does from `s` alone and the second
    as it does from `t` alone, and so does the state they leave behind. -/
theorem exec_interleave {answer : Answerer A σ} {kind kind' : Q → Prop} {own other : σ → σ → Prop}
    (h : Apart answer kind own other) (h' : Apart answer kind' other own) (turns : List Bool)
    {d : Dialogue A α} {e : Dialogue A β} {s t u : σ} (hs : own u s) (ht : other u t)
    (hd : AsksOnly answer kind d s) (he : AsksOnly answer kind' e t) :
    let ended := (interleave turns d e).exec answer u
    ended.1 = ((d.exec answer s).1, (e.exec answer t).1) ∧
      own ended.2 (d.exec answer s).2 ∧ other ended.2 (e.exec answer t).2 := by
  -- one turn is one step of one dialogue alone, and nothing to the other
  induction turns generalizing d e s t u with
  | nil =>
    obtain ⟨hresult, hown⟩ := h.exec_eq hs hd
    have hleft : other (d.exec answer u).2 t := h.exec_other hs hd ht
    obtain ⟨hresult', hother⟩ := h'.exec_eq hleft he
    have hown' := h'.exec_other hleft he hown
    simp only [exec_interleave_nil]
    exact ⟨Prod.ext hresult hresult', hown', hother⟩
  | cons turn turns ih =>
    cases turn with
    | true =>
      cases d with
      | done a => exact ih hs ht hd he
      | ask q next =>
        obtain ⟨hq, hnext⟩ := asksOnly_ask.mp hd
        rw [interleave, exec_ask, exec_ask, h.answer_eq hq hs]
        exact ih (h.own_answer hq hs) (h.other_answer hq ht) hnext he
    | false =>
      cases e with
      | done b => exact ih hs ht hd he
      | ask q next =>
        obtain ⟨hq, hnext⟩ := asksOnly_ask.mp he
        rw [interleave, exec_ask, exec_ask, h'.answer_eq hq ht]
        exact ih (h'.other_answer hq hs) (h'.own_answer hq ht) hd hnext

end Reconcile.Dialogue
