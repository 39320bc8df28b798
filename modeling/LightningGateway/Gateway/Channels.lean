import LightningGateway.Gateway.Wallet

/-!
# Peers and channels

Connecting to peers, and opening, listing and closing channels with them.
-/

namespace LightningGateway.Gateway

def connectPeer (uri : String) : Gateway Bool := do
  let _ ← call .connectPeer Codec.json "connect" (.object [("id", .string uri)])
  return true

def resolveAlias (nodePub : String) : Gateway String := do
  let listing ← call .resolveAlias Daemon.GraphListing.codec "listnodes"
    (.object [("id", .string nodePub)])
  match listing.nodes with
  | [] => fail .notFound nodePub
  | node :: _ => return node.nodeAlias.getD ""

/-- Connects to a peer and opens a channel. Returns the transaction. -/
def openChannel (amount : Msat) (nodeUri : String) (targetConfirmations : UInt32) :
    Gateway String := do
  let _ ← connectPeer nodeUri
  let parameters : Json := .object <|
    [("id", .string (Text.upTo nodeUri '@')),
      ("amount", .string (Text.numeral amount.toNat ++ "msat"))] ++
    (match FeeRate.forTarget targetConfirmations with
      | some rate => [("feerate", .string rate.daemonText)]
      | none => [])
  let answer ← call .openChannel Daemon.FundedTransaction.codec "fundchannel" parameters
  return answer.txid

/-- A channel with the alias of its peer, which is empty if it cannot be found out. -/
def nameChannel (channel : Daemon.FundedChannel) : Gateway Channel := do
  match ← attempt (resolveAlias channel.peerId) with
  | .ok peerAlias => return channel.toChannel peerAlias
  | .error _ => return channel.toChannel ""

/-- The channels, and then the aliases of all peers side by side. -/
def listingChannels : Joined (List Channel) :=
  (alone (fetchFunds .listChannels)).andThen fun funds =>
    joinAll (funds.channels.map nameChannel)

/-- The same with every answer at once. -/
def listChannels : Gateway (List Channel) := inTurn listingChannels

/-- Seconds for which a forced close waits for the peer. -/
def forcedCloseTimeout : Nat := 120

/-- Closes a channel. Returns the transaction. -/
def closeChannel (channelId : String) (force : Bool) : Gateway String := do
  let answer ← call .closeChannel Daemon.Closing.codec "close"
    (.object [("id", .string channelId),
      ("unilateraltimeout", .ofNat (if force then forcedCloseTimeout else 0)),
      ("feerange", .ofTexts ["slow", "urgent"])])
  match answer.kind with
  | .unopened => fail .invalidArgument "Channel is not open yet."
  | .agreed | .unilateral =>
      match answer.txid with
      | some txid => return txid
      | none => fail .internal "close returned no transaction id"

end LightningGateway.Gateway
