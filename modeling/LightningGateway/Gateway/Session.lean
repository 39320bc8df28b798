import LightningGateway.Braid
import LightningGateway.Chain
import LightningGateway.Classification
import LightningGateway.Connection
import LightningGateway.Implementation
import LightningGateway.Invoice

/-!
# Sessions

The gateway keeps the connection and what it remembers. Its operations are dialogues on
this session that read the settings and may fail. `Gateway.call` and `Gateway.command`
are the only ways to the daemon. Some operations go on side by side: they are strands of a
braid, and the braid fails with the first of them that fails.
-/

namespace LightningGateway

/-- What is settled before the gateway begins. -/
structure Settings where
  implementation : Implementation
  /-- The call that shows whether the daemon is alive. -/
  livenessMethod : String
  /-- Milliseconds between two attempts to connect. -/
  retryDelay : Nat
  /-- Milliseconds between two fetches of the listing of forwards. -/
  pollInterval : Nat
  /-- Whether there is a chain server. -/
  hasChainServer : Bool
  deriving Repr

/-- What the gateway keeps between operations. -/
structure Session where
  link : Link
  /-- Decoded payment requests. -/
  requests : Cache String PaymentRequest
  /-- The times of blocks. -/
  blocks : Cache UInt32 BlockTime
  deriving Repr

def Session.fresh (requestCapacity blockCapacity : Nat) : Session where
  link := .fresh
  requests := .empty requestCapacity
  blocks := .empty blockCapacity

/-- An operation of the gateway. -/
abbrev Gateway := ReaderT Settings (ExceptT Failure (Dialogue Session))

namespace Gateway

variable {α β γ : Type}

def toDialogue (settings : Settings) (operation : Gateway α) :
    Dialogue Session (Except Failure α) :=
  (operation.run settings).run

def ofDialogue (dialogue : Dialogue Session (Except Failure α)) : Gateway α :=
  fun _ => ExceptT.mk dialogue

def lift (dialogue : Dialogue Session α) : Gateway α :=
  fun _ => ExceptT.lift dialogue

def ask (query : Query) : Gateway query.Reply := lift (Dialogue.query query)

def fail (kind : FailureKind) (detail : String) : Gateway α :=
  throw ⟨kind, detail⟩

/-- The result of an operation, or its failure. -/
def attempt (operation : Gateway α) : Gateway (Except Failure α) :=
  fun settings => ExceptT.lift (toDialogue settings operation)

/-- The result, or the failure into which an operation turns an error. -/
def orClassify (operation : Operation) : Except TransportError α → Gateway α
  | .ok value => return value
  | .error error => throw (.ofError operation error)

/-- The connection to the daemon; without one every call fails. -/
def handle : Gateway Handle := do
  let session ← get
  match session.link.transport with
  | .ok handle => return handle
  | .error failure => throw failure

def call (operation : Operation) (codec : Codec α) (method : String) (parameters : Json) :
    Gateway α := do
  let handle ← handle
  let value ← orClassify operation (← ask (.call handle method parameters))
  orClassify operation ((codec.decode value).mapError .ofDecodeError)

def command (operation : Operation) (arguments : List String) : Gateway String := do
  orClassify operation (← ask (.command arguments))

/-! ### Operations side by side -/

/-- A braid of operations. -/
abbrev Joined (α : Type) := Settings → Braid Session Failure α

def alone (operation : Gateway α) : Joined α :=
  fun settings => .strand (operation.toDialogue settings)

def Joined.beside (first : Joined α) (second : Joined β) (combine : α → β → γ) : Joined γ :=
  fun settings => .both (first settings) (second settings) combine

def Joined.andThen (first : Joined α) (next : α → Joined β) : Joined β :=
  fun settings => .andThen (first settings) fun value => next value settings

def Joined.map (change : α → β) (joined : Joined α) : Joined β :=
  joined.andThen fun value => alone (return change value)

def joinAll (operations : List (Gateway α)) : Joined (List α) :=
  fun settings => .all (operations.map (toDialogue settings))

/-- The operations of a braid one after another, as they come if every answer is there at once. -/
def inTurn (joined : Joined α) : Gateway α := fun settings => (joined settings).inTurn

end Gateway

end LightningGateway
