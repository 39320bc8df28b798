import LightningGateway.Daemon.Forwards
import LightningGateway.Gateway.Listings
import LightningGateway.Subscription

/-!
# Subscriptions

Invoices as they are settled and forwards as they happen. A subscription begins with a
look at what is known already; if that fails, the failure is all it hands out. The fees
that forwards have earned come from the same listing.
-/

namespace LightningGateway

namespace Gateway

def fetchForwards (operation : Operation) : Gateway (List Daemon.Forward) := do
  let listing ← call operation Daemon.ForwardListing.codec "listforwards"
    (.object [("status", .string "settled")])
  return listing.forwards

def feeRevenue : Gateway FeeRevenue := do
  let forwards ← fetchForwards .feeRevenue
  let now ← ask .now
  return Daemon.Forward.revenue now forwards

/-- Waits for the next settlement after the one with an index. -/
def waitForSettlement (last : UInt64) : Gateway Invoice := do
  let invoice ← call .listenInvoices Daemon.ReportedInvoice.codec "waitanyinvoice"
    (.object [("lastpay_index", .ofWord last)])
  return invoice.toInvoice

def fetchForwardEvents : Gateway (List ForwardEvent) := do
  return (← fetchForwards .listenForwards).map Daemon.Forward.toEvent

end Gateway

/-- A subscription to settlements. -/
inductive InvoiceFeed where
  | starting
  /-- The index after which the next settlement is waited for; `none` once a wait has failed. -/
  | waiting (last : Option UInt64)
  deriving Repr, BEq, DecidableEq

namespace InvoiceFeed

def turn (settings : Settings) :
    InvoiceFeed → Dialogue Session (Turn (Except Failure Invoice) × InvoiceFeed)
  | starting => do
      match ← (Gateway.fetchInvoices .listenInvoices).toDialogue settings with
      | .ok invoices => return (.quiet, .waiting (some (Settlement.baseline invoices)))
      | .error failure => return (.item (.error failure), .waiting none)
  | waiting last => do
      let (turn, last) ← Settlement.turn
        (fun last => (Gateway.waitForSettlement last).toDialogue settings) last
      return (turn, .waiting last)

end InvoiceFeed

/-- A subscription to forwards. -/
inductive ForwardFeed where
  | starting
  | polling (state : Polling ForwardEvent)
  | finished
  deriving Repr, BEq, DecidableEq

namespace ForwardFeed

/-- Hands out the next forward, or fetches the listing. -/
def turn (settings : Settings) :
    ForwardFeed → Dialogue Session (Turn (Except Failure ForwardEvent) × ForwardFeed)
  | starting => do
      match ← (Gateway.fetchForwards .listenForwards).toDialogue settings with
      | .ok known => return (.quiet, .polling (.starting known.length))
      | .error failure => return (.item (.error failure), .finished)
  | polling state => do
      let (turn, state) ← state.turn (fun milliseconds => Dialogue.query (.sleep milliseconds))
        (Gateway.fetchForwardEvents.toDialogue settings) settings.pollInterval
      return (turn, .polling state)
  | finished => return (.ended, .finished)

end ForwardFeed

end LightningGateway
