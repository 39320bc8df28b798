import LightningGateway.Gateway.Session
import LightningGateway.Subscription

/-!
# Connecting

A subscription to the progress of the connection. While the daemon cannot be reached it
reports that and tries again after a pause; any other error is its last item, and so is
the success.
-/

namespace LightningGateway

namespace LifecycleUpdate

def success : LifecycleUpdate := ⟨.done, none⟩

def waiting : LifecycleUpdate :=
  ⟨.offline, some "Unable to connect to the node daemon, waiting..."⟩

end LifecycleUpdate

/-- How far the subscription has come. -/
inductive Lifecycle where
  | starting
  /-- Another attempt will follow, after a pause. -/
  | retrying
  | finished
  deriving Repr, BEq, DecidableEq

namespace Lifecycle

/-- What a subscription to the progress of the connection hands out. -/
abbrev Report := Turn (Except Failure LifecycleUpdate) × Lifecycle

def setLink (change : Link → Link) : Dialogue Session Unit :=
  modify fun session => { session with link := change session.link }

def failed (error : TransportError) : Dialogue Session Report :=
  if error.isConnect then do
    setLink fun _ => .lose
    return (.item (.ok .waiting), .retrying)
  else do
    setLink fun _ => .giveUp
    return (.item (.error (.ofError .establish error)), .finished)

def connect (settings : Settings) : Dialogue Session Report := do
  setLink .begin
  match ← Dialogue.query .connect with
  | .error error => failed error
  | .ok handle =>
      match ← Dialogue.query (.call handle settings.livenessMethod (.object [])) with
      | .error error => failed error
      | .ok _ => do
          setLink fun _ => .establish handle
          return (.item (.ok .success), .finished)

def turn (settings : Settings) : Lifecycle → Dialogue Session Report
  | starting => do
      if (← get).link.phase == .ready then
        return (.item (.ok .success), finished)
      else
        connect settings
  | retrying => do
      Dialogue.query (.sleep settings.retryDelay)
      connect settings
  | finished => return (.ended, finished)

end Lifecycle

end LightningGateway
