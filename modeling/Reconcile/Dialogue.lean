/-! # Dialogues

    A process that needs answers from outside is a dialogue: it either is done, or asks a
    question and goes on according to the answer.  Every dialogue ends, whatever the answers.
    What the questions mean is left to whoever answers them; the same process can be run against
    a store in memory, against a database, or against recorded answers. -/

namespace Reconcile

/-- A process that asks questions `q : Q`, each answered by an `A q`, and ends with an `α`. -/
inductive Dialogue {Q : Type} (A : Q → Type) (α : Type) where
  | done (a : α)
  | ask (q : Q) (next : A q → Dialogue A α)

namespace Dialogue

variable {Q P : Type} {A : Q → Type} {B : P → Type} {α β σ : Type}

/-! ## Section 1: Sequencing -/

def bind : Dialogue A α → (α → Dialogue A β) → Dialogue A β
  | .done a, k => k a
  | .ask q next, k => .ask q fun a => (next a).bind k

instance : Monad (Dialogue A) where
  pure := .done
  bind := bind

/-- One question. -/
def question (q : Q) : Dialogue A (A q) := .ask q .done

@[simp] theorem pure_eq (a : α) : (pure a : Dialogue A α) = .done a := rfl

@[simp] theorem bind_eq (d : Dialogue A α) (k : α → Dialogue A β) : d >>= k = d.bind k := rfl

@[simp] theorem done_bind (a : α) (k : α → Dialogue A β) : (Dialogue.done a).bind k = k a := rfl

@[simp] theorem ask_bind (q : Q) (next : A q → Dialogue A α) (k : α → Dialogue A β) :
    (Dialogue.ask q next).bind k = .ask q fun a => (next a).bind k := rfl

theorem bind_done (d : Dialogue A α) : d.bind .done = d := by
  induction d with
  | done a => rfl
  | ask q next ih => simp [ih]

theorem bind_assoc {γ : Type} (d : Dialogue A α) (k : α → Dialogue A β)
    (l : β → Dialogue A γ) : (d.bind k).bind l = d.bind fun a => (k a).bind l := by
  induction d with
  | done a => rfl
  | ask q next ih => simp [ih]

/-! ## Section 2: Running -/

/-- Someone who answers questions and may remember something from one to the next. -/
abbrev Answerer (A : Q → Type) (σ : Type) := (q : Q) → σ → A q × σ

/-- Runs a dialogue against an answerer. -/
def exec (answer : Answerer A σ) : Dialogue A α → σ → α × σ
  | .done a, s => (a, s)
  | .ask q next, s => (next (answer q s).1).exec answer (answer q s).2

@[simp] theorem exec_done (answer : Answerer A σ) (a : α) (s : σ) :
    (Dialogue.done a).exec answer s = (a, s) := rfl

@[simp] theorem exec_ask (answer : Answerer A σ) (q : Q) (next : A q → Dialogue A α) (s : σ) :
    (Dialogue.ask q next).exec answer s = (next (answer q s).1).exec answer (answer q s).2 := rfl

theorem exec_bind (answer : Answerer A σ) (d : Dialogue A α) (k : α → Dialogue A β) (s : σ) :
    (d.bind k).exec answer s =
      (k (d.exec answer s).1).exec answer (d.exec answer s).2 := by
  induction d generalizing s with
  | done a => rfl
  | ask q next ih => simp [ih]

/-- Runs a dialogue where answering is itself an action, such as reading from a connection. -/
def execM {m : Type → Type} [Monad m] (answer : (q : Q) → m (A q)) : Dialogue A α → m α
  | .done a => pure a
  | .ask q next => do
    let a ← answer q
    (next a).execM answer

/-! ## Section 3: Refining -/

/-- Replaces each question by a dialogue that finds its answer. -/
def refine (find : (q : Q) → Dialogue B (A q)) : Dialogue A α → Dialogue B α
  | .done a => .done a
  | .ask q next => (find q).bind fun a => (next a).refine find

@[simp] theorem refine_done (find : (q : Q) → Dialogue B (A q)) (a : α) :
    (Dialogue.done a).refine find = .done a := rfl

@[simp] theorem refine_ask (find : (q : Q) → Dialogue B (A q)) (q : Q)
    (next : A q → Dialogue A α) :
    (Dialogue.ask q next).refine find = (find q).bind fun a => (next a).refine find := rfl

theorem refine_bind (find : (q : Q) → Dialogue B (A q)) (d : Dialogue A α)
    (k : α → Dialogue A β) :
    (d.bind k).refine find = (d.refine find).bind fun a => (k a).refine find := by
  induction d with
  | done a => rfl
  | ask q next ih => simp [ih, bind_assoc]

/-- To run a refined dialogue is to run the dialogue itself against an answerer that holds the
    finer dialogue for every question. -/
theorem exec_refine (find : (q : Q) → Dialogue B (A q)) (answer : Answerer B σ)
    (d : Dialogue A α) (s : σ) :
    (d.refine find).exec answer s = d.exec (fun q s => (find q).exec answer s) s := by
  induction d generalizing s with
  | done a => rfl
  | ask q next ih => simp [exec_bind, ih]

end Dialogue

end Reconcile
