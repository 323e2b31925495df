/-!
Conversations with an external party: a conversation ends with a result, or asks something and goes
on with the reply.
-/
namespace Flowline

/-- A conversation with questions `κ`, replies `ρ` and result `α`. -/
inductive Dialogue (κ ρ α : Type) where
  | done (result : α)
  | ask (question : κ) (next : ρ → Dialogue κ ρ α)

namespace Dialogue
variable {κ ρ α β : Type}

/-- Plays a conversation against replies in order; `spent` replies once they are used up. Gives the
result, the questions asked and the replies left. -/
def play (spent : ρ) : Dialogue κ ρ α → List ρ → α × List κ × List ρ
  | .done a, replies => (a, [], replies)
  | .ask q next, [] =>
    let (a, asked, left) := play spent (next spent) []
    (a, q :: asked, left)
  | .ask q next, r :: replies =>
    let (a, asked, left) := play spent (next r) replies
    (a, q :: asked, left)

/-- The result of a conversation with a party that answers by rule. -/
def resolve (answer : κ → ρ) : Dialogue κ ρ α → α
  | .done a => a
  | .ask q next => (next (answer q)).resolve answer

def map (f : α → β) : Dialogue κ ρ α → Dialogue κ ρ β
  | .done a => .done (f a)
  | .ask q next => .ask q fun r => (next r).map f

/-- Goes on with a conversation that depends on the result. -/
def bind (d : Dialogue κ ρ α) (f : α → Dialogue κ ρ β) : Dialogue κ ρ β :=
  match d with
  | .done a => f a
  | .ask q next => .ask q fun r => (next r).bind f

instance : Monad (Dialogue κ ρ) where
  pure := .done
  bind := bind

theorem play_map (spent : ρ) (f : α → β) (d : Dialogue κ ρ α) (replies : List ρ) :
    (d.map f).play spent replies =
      (f (d.play spent replies).1, (d.play spent replies).2.1, (d.play spent replies).2.2) := by
  induction d generalizing replies with
  | done a => rfl
  | ask q next ih => cases replies <;> simp [map, play, ih]

end Dialogue
end Flowline
