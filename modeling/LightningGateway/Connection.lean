import LightningGateway.Failure
import LightningGateway.NodeInfo
import LightningGateway.Dialogue

/-!
# The connection

The gateway holds at most one connection to the daemon. It is used only in the phase
`ready`, which an attempt reaches when the daemon answers a first call.
-/

namespace LightningGateway

/-- The phase of the connection. -/
inductive Phase where
  /-- No attempt was made, or one has failed for good. -/
  | uninitialized
  /-- An attempt is being made. -/
  | connecting
  /-- The daemon could not be reached; another attempt will follow. -/
  | offline
  | ready
  deriving Repr, BEq, DecidableEq

def Phase.name : Phase → String
  | uninitialized => "Uninitialized"
  | connecting => "Connecting"
  | offline => "Offline"
  | ready => "Ready"

/-- The state of the connection. -/
structure Link where
  phase : Phase
  handle : Option Handle
  deriving Repr, BEq, DecidableEq

namespace Link

def fresh : Link := ⟨.uninitialized, none⟩

def begin (link : Link) : Link := { link with phase := .connecting }

def establish (handle : Handle) : Link := ⟨.ready, some handle⟩

def lose : Link := ⟨.offline, none⟩

def giveUp : Link := ⟨.uninitialized, none⟩

/-- The failure of everything that needs the connection while it is not ready. -/
def notReady : Failure := ⟨.unavailable, "Connection not initialized"⟩

/-- The connection, once it is ready. -/
def transport (link : Link) : Except Failure Handle :=
  match link.phase, link.handle with
  | .ready, some handle => .ok handle
  | _, _ => .error notReady

end Link

end LightningGateway
