import LightningGateway.Dialogue

/-!
# Laws of dialogues

A dialogue that goes on with another one first runs to its end and then hands the state
and the surroundings over. A dialogue on a part of a larger state leaves the rest as it is.
-/

namespace LightningGateway

/-- Surroundings that answer every question and keep a state of their own. -/
abbrev Surroundings (ω : Type) := (query : Query) → ω → query.Reply × ω

/-- An answer to each question that may be asked. -/
abbrev Replies := (query : Query) → query.Reply

/-- Replies without a chain server, at time zero. -/
def Replies.answering (connect : Except TransportError Handle)
    (call : String → Except TransportError Json)
    (command : List String → Except TransportError String) : Replies
  | .connect => connect
  | .call _ method _ => call method
  | .chainCall _ _ => .error (.other "There is no chain server")
  | .command arguments => command arguments
  | .sleep _ => ()
  | .now => 0
  | .label => ""
  | .publish _ => ()

/-- Surroundings that answer a question in the same way each time. -/
def Replies.surroundings (replies : Replies) : Surroundings Unit :=
  fun query world => (replies query, world)

/-- The same surroundings, which also write down what they are asked. -/
def Surroundings.noting {ω : Type} (answer : Surroundings ω) : Surroundings (ω × List Query) :=
  fun query (world, asked) => ((answer query world).1, (answer query world).2, asked ++ [query])

namespace Dialogue

variable {σ τ α β γ ω : Type}

/-! ### Sequencing -/

theorem bind_done (dialogue : Dialogue σ α) : dialogue.bind done = dialogue := by
  induction dialogue with
  | done value => rfl
  | read next ih => exact congrArg read (funext ih)
  | write state next ih => exact congrArg (write state) ih
  | ask query next ih => exact congrArg (ask query) (funext ih)

theorem bind_bind (dialogue : Dialogue σ α) (first : α → Dialogue σ β)
    (second : β → Dialogue σ γ) :
    (dialogue.bind first).bind second =
      dialogue.bind fun value => (first value).bind second := by
  induction dialogue with
  | done value => rfl
  | read next ih => exact congrArg read (funext ih)
  | write state next ih => exact congrArg (write state) ih
  | ask query next ih => exact congrArg (ask query) (funext ih)

instance : LawfulMonad (Dialogue σ) :=
  LawfulMonad.mk' (Dialogue σ) bind_done (fun _ _ => rfl) bind_bind

/-! ### Where a dialogue stands -/

/-- Goes on with another dialogue once the first one has ended. -/
def Halt.continue (next : α → Dialogue σ β) : Halt σ α × σ → Halt σ β × σ
  | (.ended value, state) => (next value).advance state
  | (.asking query more, state) => (.asking query fun reply => more reply >>= next, state)

theorem advance_bind (dialogue : Dialogue σ α) (next : α → Dialogue σ β) (state : σ) :
    (dialogue >>= next).advance state = Halt.continue next (dialogue.advance state) := by
  change (dialogue.bind next).advance state = _
  induction dialogue generalizing state with
  | done value => rfl
  | read more ih => exact ih state state
  | write changed more ih => exact ih changed
  | ask query more => rfl

theorem advance_map (change : α → β) (dialogue : Dialogue σ α) (state : σ) :
    (change <$> dialogue).advance state =
      Halt.continue (fun value => .done (change value)) (dialogue.advance state) := by
  rw [map_eq_pure_bind]
  exact advance_bind dialogue _ state

theorem focus_bind (part : σ → τ) (replace : τ → σ → σ) (dialogue : Dialogue τ α)
    (next : α → Dialogue τ β) :
    (dialogue >>= next).focus part replace =
      dialogue.focus part replace >>= fun value => (next value).focus part replace := by
  change (dialogue.bind next).focus part replace =
    (dialogue.focus part replace).bind fun value => (next value).focus part replace
  induction dialogue with
  | done value => rfl
  | read more ih => exact congrArg Dialogue.read (funext fun state => ih (part state))
  | write inner more ih =>
      exact congrArg Dialogue.read (funext fun state => congrArg (Dialogue.write _) ih)
  | ask query more ih => exact congrArg (Dialogue.ask query) (funext ih)

/-! ### Running -/

variable (answer : Surroundings ω)

@[simp]
theorem run_pure (value : α) (state : σ) (world : ω) :
    (pure value : Dialogue σ α).run answer state world = (value, state, world) := rfl

@[simp]
theorem run_bind (dialogue : Dialogue σ α) (next : α → Dialogue σ β) (state : σ)
    (world : ω) :
    (dialogue >>= next).run answer state world =
      (next (dialogue.run answer state world).1).run answer
        (dialogue.run answer state world).2.1 (dialogue.run answer state world).2.2 := by
  change (dialogue.bind next).run answer state world = _
  induction dialogue generalizing state world with
  | done value => rfl
  | read more ih => exact ih state state world
  | write changed more ih => exact ih changed world
  | ask query more ih => exact ih _ state _

@[simp]
theorem run_map (change : α → β) (dialogue : Dialogue σ α) (state : σ) (world : ω) :
    (change <$> dialogue).run answer state world =
      (change (dialogue.run answer state world).1, (dialogue.run answer state world).2) := by
  rw [map_eq_pure_bind, run_bind]
  rfl

@[simp]
theorem run_query (query : Query) (state : σ) (world : ω) :
    (Dialogue.query query : Dialogue σ query.Reply).run answer state world =
      ((answer query world).1, state, (answer query world).2) := rfl

@[simp]
theorem run_modifyGet (change : σ → α × σ) (state : σ) (world : ω) :
    (modifyGet change : Dialogue σ α).run answer state world =
      ((change state).1, (change state).2, world) := rfl

/-- A dialogue on a part runs as if the part were alone, and leaves the rest as it is. -/
theorem run_focus (part : σ → τ) (replace : τ → σ → σ)
    (part_replace : ∀ inner state, part (replace inner state) = inner)
    (replace_part : ∀ state, replace (part state) state = state)
    (replace_replace : ∀ later earlier state,
      replace later (replace earlier state) = replace later state)
    (dialogue : Dialogue τ α) (state : σ) (world : ω) :
    (dialogue.focus part replace).run answer state world =
      ((dialogue.run answer (part state) world).1,
        replace (dialogue.run answer (part state) world).2.1 state,
        (dialogue.run answer (part state) world).2.2) := by
  induction dialogue generalizing state world with
  | done value => simp [focus, run, replace_part]
  | read next ih => exact ih (part state) state world
  | write inner next ih =>
      have continued := ih (replace inner state) world
      simpa only [focus, run, part_replace, replace_replace] using continued
  | ask query next ih => exact ih _ state _

end Dialogue

end LightningGateway
