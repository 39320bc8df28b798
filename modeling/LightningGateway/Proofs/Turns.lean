import LightningGateway.Proofs.Dialogue
import LightningGateway.Subscription

/-!
# Turns of a subscription

A subscription is polled turn after turn. Its history tells for each turn what was asked and
what was handed out. A subscription that has ended asks nothing more.
-/

namespace LightningGateway

/-- A turn that was taken: what was asked in it, and what it has brought. -/
structure Taken (α : Type) where
  asked : List Query
  brought : Turn α

namespace Taken

/-- The items among what some turns have brought. -/
def items {α : Type} (turns : List (Taken α)) : List α :=
  turns.filterMap fun taken =>
    match taken.brought with
    | .item value => some value
    | .quiet | .ended => none

@[simp]
theorem items_append {α : Type} (first second : List (Taken α)) :
    items (first ++ second) = items first ++ items second :=
  List.filterMap_append

variable {α κ σ ω : Type} (turn : κ → Dialogue σ (Turn α × κ)) (answer : Surroundings ω)

/-- Takes a turn. -/
def next (stage : κ) (state : σ) (world : ω) : Taken α × κ × σ × ω :=
  match (turn stage).run (Surroundings.noting answer) state (world, []) with
  | ((brought, later), after, (left, asked)) => (⟨asked, brought⟩, later, after, left)

/-- Takes turns, one after another. -/
def history : Nat → κ → σ → ω → List (Taken α) × κ × σ × ω
  | 0, stage, state, world => ([], stage, state, world)
  | count + 1, stage, state, world =>
      match next turn answer stage state world with
      | (taken, later, after, left) =>
          match history count later after left with
          | (rest, last) => (taken :: rest, last)

variable {turn answer} {stage later : κ} {state after : σ} {world left : ω} {taken : Taken α}

theorem history_succ
    (first : next turn answer stage state world = (taken, later, after, left)) (count : Nat) :
    history turn answer (count + 1) stage state world =
      (taken :: (history turn answer count later after left).1,
        (history turn answer count later after left).2) := by
  rw [history, first]

/-- More turns continue where the first ones have led to. -/
theorem history_add {listed : List (Taken α)} {first : Nat}
    (begun : history turn answer first stage state world = (listed, later, after, left))
    (second : Nat) :
    history turn answer (first + second) stage state world =
      (listed ++ (history turn answer second later after left).1,
        (history turn answer second later after left).2) := by
  -- The first turns are peeled off one by one, each with what it leaves behind.
  induction first generalizing stage state world listed with
  | zero =>
      cases begun
      rw [Nat.zero_add]
      rfl
  | succ first ih =>
      rcases stepped : next turn answer stage state world with ⟨one, middle, between, there⟩
      rw [history_succ stepped] at begun
      rcases rest : history turn answer first middle between there with ⟨others, last⟩
      rw [rest] at begun
      cases begun
      rw [Nat.succ_add, history_succ stepped, ih rest]
      rfl

theorem length_history (turn : κ → Dialogue σ (Turn α × κ)) (answer : Surroundings ω)
    (count : Nat) (stage : κ) (state : σ) (world : ω) :
    (history turn answer count stage state world).1.length = count := by
  induction count generalizing stage state world with
  | zero => rfl
  | succ count ih =>
      rcases stepped : next turn answer stage state world with ⟨one, middle, between, there⟩
      rw [history_succ stepped, List.length_cons, ih]

theorem history_take {listed : List (Taken α)} {all count : Nat}
    (begun : history turn answer all stage state world = (listed, later, after, left))
    (fewer : count ≤ all) :
    (history turn answer count stage state world).1 = listed.take count := by
  rcases stepped : history turn answer count stage state world with ⟨first, middle, between, there⟩
  have whole := history_add stepped (all - count)
  rw [Nat.add_sub_cancel' fewer, begun] at whole
  have long : first.length = count := by
    have counted := length_history turn answer count stage state world
    rwa [stepped] at counted
  obtain ⟨rfl, -⟩ := Prod.mk.inj whole
  exact (List.take_left' long).symm

/-- A subscription whose turns bring its end and change nothing has ended for good. -/
theorem history_ended
    (ended : next turn answer stage state world = (⟨[], .ended⟩, stage, state, world))
    (count : Nat) :
    history turn answer count stage state world =
      (List.replicate count ⟨[], .ended⟩, stage, state, world) := by
  induction count with
  | zero => rfl
  | succ count ih => rw [history_succ ended, ih, List.replicate_succ]

end Taken

end LightningGateway
