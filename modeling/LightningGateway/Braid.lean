import LightningGateway.Dialogue

/-!
# Braids

A braid is made of strands, dialogues that go on side by side. Whenever it is polled, its strands
are polled in their order, and each goes on as far as the answers that are there take it. As soon
as one of them fails the whole braid fails. The others are dropped, and with them the questions
that they have on their way.

`Braid.inTurn` is the case that every answer is there as soon as its question is asked. Then each
strand ends when it is polled for the first time, so they come one after another.
-/

namespace LightningGateway

/-- Dialogues side by side with a state of type `σ` and a result of type `α`, or a failure of
type `ε`. -/
inductive Braid (σ ε : Type) : Type → Type 1 where
  /-- A dialogue that may go on. -/
  | strand {α : Type} (dialogue : Dialogue σ (Except ε α)) : Braid σ ε α
  /-- A dialogue whose question is on its way. -/
  | waiting {α : Type} (query : Query) (next : query.Reply → Dialogue σ (Except ε α)) :
      Braid σ ε α
  | both {α β γ : Type} (first : Braid σ ε α) (second : Braid σ ε β) (combine : α → β → γ) :
      Braid σ ε γ
  /-- A braid that is known only after another one has ended. -/
  | andThen {α β : Type} (first : Braid σ ε α) (next : α → Braid σ ε β) : Braid σ ε β

namespace Braid

variable {σ ε α : Type}

/-- The strands one after another, each up to its end. -/
def inTurn {α : Type} : Braid σ ε α → ExceptT ε (Dialogue σ) α
  | strand dialogue => ExceptT.mk dialogue
  | waiting query next => ExceptT.mk (.ask query next)
  | both first second combine => do
      let value ← first.inTurn
      return combine value (← second.inTurn)
  | andThen first next => do (next (← first.inTurn)).inTurn

/-- Any number of strands, with a list of their results. -/
def all : List (Dialogue σ (Except ε α)) → Braid σ ε (List α)
  | [] => strand (.done (.ok []))
  | first :: others => both (strand first) (all others) List.cons

end Braid

end LightningGateway
