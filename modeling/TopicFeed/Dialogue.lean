/-! Conversations with the outside. A dialogue asks questions and goes on with the replies; it
performs nothing itself, so one description serves a live broker, a script and a proof. -/
namespace TopicFeed

/-- A program that ends with a result or asks a question and continues with the reply. -/
inductive Dialogue {Q : Type} (Reply : Q → Type) (α : Type) where
  | done (result : α)
  | ask (question : Q) (next : Reply question → Dialogue Reply α)

namespace Dialogue

variable {Q : Type} {Reply : Q → Type} {α β : Type}

protected def bind : Dialogue Reply α → (α → Dialogue Reply β) → Dialogue Reply β
  | .done a, f => f a
  | .ask q next, f => .ask q fun r => (next r).bind f

instance : Monad (Dialogue Reply) where
  pure := .done
  bind := Dialogue.bind

/-- Carries a dialogue out, each question answered by `reply`. -/
def interpret {m : Type → Type} [Monad m] (reply : (q : Q) → m (Reply q)) :
    Dialogue Reply α → m α
  | .done a => pure a
  | .ask q next => do (next (← reply q)).interpret reply

@[simp] theorem pure_bind (a : α) (f : α → Dialogue Reply β) :
    (Dialogue.done a).bind f = f a := rfl

@[simp] theorem ask_bind (q : Q) (next : Reply q → Dialogue Reply α)
    (f : α → Dialogue Reply β) :
    (Dialogue.ask q next).bind f = .ask q fun r => (next r).bind f := rfl

theorem bind_assoc {γ : Type} (d : Dialogue Reply α) (f : α → Dialogue Reply β)
    (g : β → Dialogue Reply γ) : (d.bind f).bind g = d.bind fun a => (f a).bind g := by
  induction d with
  | done a => rfl
  | ask q next ih => simp only [ask_bind, ih]

end Dialogue
end TopicFeed
