import LightningGateway.Gateway.Lifecycle
import LightningGateway.Gateway.Request
import LightningGateway.Json.Writer

/-!
# Jobs of the command line

A command carries out one request or prints what a subscription hands out. Every value is
printed in the form for readers, on lines of its own.
-/

namespace LightningGateway

/-- What the command line can be told to do. -/
inductive Command where
  /-- Nothing but to connect. -/
  | init
  | perform (request : Request)
  | watchInvoices
  | watchForwards
  deriving Repr, BEq, DecidableEq

namespace Command

/-- The name under which the answer to a request is printed, for answers without a name. -/
def answerName : Request → Option String
  | .newAddress _ => some "address"
  | .unlockWallet _ => some "unlocked"
  | .connectPeer _ => some "connected"
  | .resolveAlias _ => some "alias"
  | .openChannel _ _ _ => some "funding_txid"
  | .closeChannel _ _ => some "closing_txid"
  | _ => none

def printed (request : Request) (answer : Json) : Json :=
  match answerName request with
  | some name => .object [(name, answer)]
  | none => answer

def lines (value : Json) : String := value.pretty ++ "\n"

end Command

/-- A command that is being carried out. -/
inductive Job where
  | performing (request : Request)
  | watchingInvoices (feed : InvoiceFeed)
  | watchingForwards (feed : ForwardFeed)
  | connecting (stage : Lifecycle)
  | finished
  deriving Repr, BEq, DecidableEq

namespace Job

def ofCommand : Command → Job
  | .init => finished
  | .perform request => performing request
  | .watchInvoices => watchingInvoices .starting
  | .watchForwards => watchingForwards .starting

def turn (settings : Settings) : Job → Dialogue Session (Turn (Except Failure Json) × Job)
  | performing request => do
      let answer ← request.perform.toDialogue settings
      return (.item (answer.map (Command.printed request)), finished)
  | watchingInvoices feed => do
      let (turn, feed) ← feed.turn settings
      return (turn.map (·.map Invoice.codec.write), watchingInvoices feed)
  | watchingForwards feed => do
      let (turn, feed) ← feed.turn settings
      return (turn.map (·.map ForwardEvent.codec.write), watchingForwards feed)
  | connecting stage => do
      let (turn, stage) ← stage.turn settings
      return (turn.map (·.map LifecycleUpdate.codec.write), connecting stage)
  | finished => return (.ended, finished)

end Job

end LightningGateway
