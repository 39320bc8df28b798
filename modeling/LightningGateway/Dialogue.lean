import LightningGateway.Event
import LightningGateway.Transport.Error

/-!
# Dialogues

A dialogue works on a state that it may share with others. It reads and writes the state
in steps that nothing interrupts, and it stops at each question that it asks of its
surroundings: the daemon, a command line client, a chain server, the clock. Others may
work on the state until the answer comes. `Dialogue.run` is the case of a dialogue alone.
-/

namespace LightningGateway

/-- A connection to a daemon, as the surroundings number it. -/
abbrev Handle := Nat

/-- What a dialogue asks of its surroundings. -/
inductive Query where
  /-- A new connection to the daemon. -/
  | connect
  /-- A call of the daemon. -/
  | call (handle : Handle) (method : String) (parameters : Json)
  /-- A call of the chain server. -/
  | chainCall (method : String) (parameters : Json)
  /-- A run of the command line client. -/
  | command (arguments : List String)
  /-- To be woken after some milliseconds. -/
  | sleep (milliseconds : Nat)
  /-- The seconds of the clock. -/
  | now
  /-- A label that was not given to anyone else. -/
  | label
  /-- To pass on an event. -/
  | publish (event : NodeEvent)

/-- The type of the answer to a question. -/
abbrev Query.Reply : Query → Type
  | connect => Except TransportError Handle
  | call _ _ _ => Except TransportError Json
  | chainCall _ _ => Except TransportError Json
  | command _ => Except TransportError String
  | sleep _ => Unit
  | now => UInt64
  | label => String
  | publish _ => Unit

/-- A dialogue with a state of type `σ` and a result of type `α`. -/
inductive Dialogue (σ : Type) (α : Type) : Type where
  | done (value : α)
  | read (next : σ → Dialogue σ α)
  | write (state : σ) (next : Dialogue σ α)
  | ask (query : Query) (next : query.Reply → Dialogue σ α)

namespace Dialogue

variable {σ τ α β : Type}

def bind : Dialogue σ α → (α → Dialogue σ β) → Dialogue σ β
  | done value, next => next value
  | read more, next => .read fun state => (more state).bind next
  | write state more, next => .write state (more.bind next)
  | ask query more, next => .ask query fun reply => (more reply).bind next

instance : Monad (Dialogue σ) where
  pure := done
  bind := bind

instance : MonadStateOf σ (Dialogue σ) where
  get := .read done
  set state := .write state (done ())
  modifyGet change := .read fun state => .write (change state).2 (done (change state).1)

def query (query : Query) : Dialogue σ query.Reply := .ask query done

def focus (part : σ → τ) (replace : τ → σ → σ) : Dialogue τ α → Dialogue σ α
  | done value => done value
  | read next => .read fun state => focus part replace (next (part state))
  | write inner next =>
      .read fun state => .write (replace inner state) (focus part replace next)
  | ask query next => .ask query fun reply => focus part replace (next reply)

/-- A dialogue alone: runs it on a state, with surroundings that keep a state of their own. -/
def run {ω : Type} (answer : (query : Query) → ω → query.Reply × ω) :
    Dialogue σ α → σ → ω → α × σ × ω
  | done value, state, world => (value, state, world)
  | read next, state, world => run answer (next state) state world
  | write state next, _, world => run answer next state world
  | ask query next, state, world =>
      let (reply, world) := answer query world
      run answer (next reply) state world

/-- A dialogue that stands at a question, or has ended. -/
inductive Halt (σ : Type) (α : Type) : Type where
  | ended (value : α)
  | asking (query : Query) (next : query.Reply → Dialogue σ α)

/-- Works on the state until the dialogue stands at a question or ends. -/
def advance : Dialogue σ α → σ → Halt σ α × σ
  | done value, state => (.ended value, state)
  | read next, state => advance (next state) state
  | write state next, _ => advance next state
  | ask query next, state => (.asking query next, state)

end Dialogue

end LightningGateway
