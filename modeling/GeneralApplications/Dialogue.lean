/-!
# Dialogues

A computation that asks questions of its surroundings and goes on with their answers. What happens
outside is a parameter (`interpret`): the same dialogue runs against collaborators that are
simulated, scripted, or asked over a network by a dialogue of their own.
-/

namespace GeneralApplications

/-- A computation that asks questions `q : Q` and receives answers of type `A q`. -/
inductive Dialogue (Q : Type) (A : Q → Type) (α : Type) where
  /-- The result, with nothing more to ask. -/
  | done (a : α)
  /-- A question, and how the computation goes on with the answer. -/
  | ask (q : Q) (next : A q → Dialogue Q A α)

namespace Dialogue
variable {Q : Type} {A : Q → Type} {α β γ : Type}

/-- One dialogue after another. -/
def bind : Dialogue Q A α → (α → Dialogue Q A β) → Dialogue Q A β
  | done a, f => f a
  | ask q next, f => ask q fun answer => (next answer).bind f

instance : Monad (Dialogue Q A) where
  pure := done
  bind := bind

/-- The dialogue that asks one question and returns the answer. -/
def question (q : Q) : Dialogue Q A (A q) :=
  ask q done

/-- Carries a dialogue out: each question is answered in the monad `m`. -/
def interpret {m : Type → Type} [Monad m] (answer : (q : Q) → m (A q)) : Dialogue Q A α → m α
  | done a => pure a
  | ask q next => do
    let a ← answer q
    (next a).interpret answer

/-! ## Laws -/

@[simp] theorem done_bind (a : α) (f : α → Dialogue Q A β) : (done a).bind f = f a := rfl

@[simp] theorem ask_bind (q : Q) (next : A q → Dialogue Q A α) (f : α → Dialogue Q A β) :
    (ask q next).bind f = ask q fun answer => (next answer).bind f := rfl

theorem bind_done (d : Dialogue Q A α) : d.bind done = d := by
  induction d with
  | done a => rfl
  | ask q next ih => simp [ih]

theorem bind_assoc (d : Dialogue Q A α) (f : α → Dialogue Q A β) (g : β → Dialogue Q A γ) :
    (d.bind f).bind g = d.bind fun a => (f a).bind g := by
  induction d with
  | done a => rfl
  | ask q next ih => simp [ih]

instance : LawfulMonad (Dialogue Q A) :=
  .mk' _ bind_done (fun _ _ => rfl) bind_assoc

@[simp] theorem interpret_done {m : Type → Type} [Monad m] (answer : (q : Q) → m (A q)) (a : α) :
    (done a : Dialogue Q A α).interpret answer = pure a := rfl

@[simp] theorem interpret_ask {m : Type → Type} [Monad m] (answer : (q : Q) → m (A q)) (q : Q)
    (next : A q → Dialogue Q A α) :
    (ask q next).interpret answer = answer q >>= fun a => (next a).interpret answer := rfl

/-- A sequence of dialogues is carried out one part after the other. -/
theorem interpret_bind {m : Type → Type} [Monad m] [LawfulMonad m] (answer : (q : Q) → m (A q))
    (d : Dialogue Q A α) (f : α → Dialogue Q A β) :
    (d.bind f).interpret answer = d.interpret answer >>= fun a => (f a).interpret answer := by
  induction d with
  | done a => simp
  | ask q next ih => simp [ih]

end Dialogue

end GeneralApplications
