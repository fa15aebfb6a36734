/-!
# Dialogues

A computation that asks questions, one after the other, and goes on with each
answer. The answers may come from a live store, from a script, or from several
dialogues taking turns: the dialogue itself does not know.
-/

namespace TaskSync

inductive Dialogue (Q : Type) (A : Q → Type) (α : Type) where
  | done (value : α)
  | ask (question : Q) (next : A question → Dialogue Q A α)

namespace Dialogue

variable {Q : Type} {A : Q → Type} {α β γ : Type}

protected def bind : Dialogue Q A α → (α → Dialogue Q A β) → Dialogue Q A β
  | done value, f => f value
  | ask question next, f => ask question fun answer => (next answer).bind f

instance : Monad (Dialogue Q A) where
  pure := done
  bind := Dialogue.bind

def query (question : Q) : Dialogue Q A (A question) := ask question done

/-- Puts every question to `respond`. -/
def run {m : Type → Type} [Monad m] (respond : (question : Q) → m (A question)) :
    Dialogue Q A α → m α
  | done value => pure value
  | ask question next => do
    let answer ← respond question
    (next answer).run respond

/-! ## Laws -/

@[simp] theorem pure_eq_done (value : α) : (pure value : Dialogue Q A α) = done value := rfl

@[simp] theorem done_bind (value : α) (f : α → Dialogue Q A β) : done value >>= f = f value := rfl

@[simp] theorem ask_bind (question : Q) (next : A question → Dialogue Q A α)
    (f : α → Dialogue Q A β) :
    ask question next >>= f = ask question fun answer => next answer >>= f := rfl

theorem bind_done (d : Dialogue Q A α) : d >>= done = d := by
  induction d with
  | done value => rfl
  | ask question next ih => exact congrArg (ask question) (funext ih)

theorem bind_assoc (d : Dialogue Q A α) (f : α → Dialogue Q A β) (g : β → Dialogue Q A γ) :
    d >>= f >>= g = d >>= fun value => f value >>= g := by
  induction d with
  | done value => rfl
  | ask question next ih => exact congrArg (ask question) (funext ih)

section Run

variable {m : Type → Type} [Monad m] (respond : (question : Q) → m (A question))

@[simp] theorem run_done (value : α) :
    (done value : Dialogue Q A α).run respond = pure value := rfl

@[simp] theorem run_ask (question : Q) (next : A question → Dialogue Q A α) :
    (ask question next).run respond = respond question >>= fun answer => (next answer).run respond :=
  rfl

/-- A dialogue that goes on with another is run by running one and then the other. -/
theorem run_bind [LawfulMonad m] (d : Dialogue Q A α) (f : α → Dialogue Q A β) :
    (d >>= f).run respond = d.run respond >>= fun value => (f value).run respond := by
  induction d with
  | done value => simp
  | ask question next ih => simp [ih]

end Run

instance : LawfulMonad (Dialogue Q A) := LawfulMonad.mk' _ bind_done done_bind bind_assoc

end Dialogue

end TaskSync
