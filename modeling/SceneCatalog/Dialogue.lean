/-!
Computations that ask questions. A dialogue is either done or asks a question and goes on with
the answer; who answers, and out of what state, is left open. The catalog talks to its store this
way, so one computation can be run against any store, or interleaved with others question by
question.
-/
namespace SceneCatalog

/-- A computation of an `α` that may ask questions; `Answer q` is the type of answers to `q`. -/
inductive Dialogue (Question : Type) (Answer : Question → Type) (α : Type) : Type where
  | done (result : α)
  | ask (question : Question) (next : Answer question → Dialogue Question Answer α)

namespace Dialogue

variable {Q : Type} {A : Q → Type} {R : Type} {B : R → Type} {α β σ τ : Type}

def bind : Dialogue Q A α → (α → Dialogue Q A β) → Dialogue Q A β
  | .done a, f => f a
  | .ask q next, f => .ask q fun answer => (next answer).bind f

instance : Monad (Dialogue Q A) where
  pure := .done
  bind := bind

/-- Asks one question and gives the answer. -/
def question (q : Q) : Dialogue Q A (A q) := .ask q .done

@[simp] theorem pure_eq (a : α) : (pure a : Dialogue Q A α) = .done a := rfl

@[simp] theorem done_bind (a : α) (f : α → Dialogue Q A β) : (done a >>= f) = f a := rfl

@[simp] theorem ask_bind (q : Q) (next : A q → Dialogue Q A α) (f : α → Dialogue Q A β) :
    (ask q next >>= f) = .ask q fun answer => next answer >>= f := rfl

@[simp] theorem question_bind (q : Q) (f : A q → Dialogue Q A β) :
    (question q >>= f) = .ask q f := rfl

theorem bind_done (d : Dialogue Q A α) : d.bind .done = d := by
  induction d with
  | done a => rfl
  | ask q next ih => simp [bind, ih]

theorem bind_assoc (d : Dialogue Q A α) (f : α → Dialogue Q A β) (g : β → Dialogue Q A τ) :
    (d.bind f).bind g = d.bind fun a => (f a).bind g := by
  induction d with
  | done a => rfl
  | ask q next ih => simp [bind, ih]

instance : LawfulMonad (Dialogue Q A) :=
  LawfulMonad.mk' _ (fun d => bind_done d) (fun _ _ => rfl) bind_assoc

/-- What is known when a dialogue is over: its result, the state of the answering side, and the
questions in the order in which they were asked. -/
structure Transcript (Q : Type) (α σ : Type) where
  result : α
  state : σ
  asked : List Q

/-- Runs a dialogue against a side that answers out of a state. -/
def run (respond : (q : Q) → σ → A q × σ) : Dialogue Q A α → σ → Transcript Q α σ
  | .done a, state => ⟨a, state, []⟩
  | .ask q next, state =>
    let (answer, state) := respond q state
    let rest := (next answer).run respond state
    { rest with asked := q :: rest.asked }

/-- Replaces every question by a dialogue of other questions. `reply` keeps a state of its own
from one question to the next. -/
def carriedBy (reply : (q : Q) → τ → Dialogue R B (A q × τ)) :
    Dialogue Q A α → τ → Dialogue R B (α × τ)
  | .done a, state => .done (a, state)
  | .ask q next, state => do
    let (answer, state) ← reply q state
    (next answer).carriedBy reply state

end Dialogue

end SceneCatalog
