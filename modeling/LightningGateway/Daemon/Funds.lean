import LightningGateway.Channel
import LightningGateway.Wallet

/-!
# Funds

What the daemon reports about outputs and channels, the balances that follow, and the
channels as callers see them.
-/

namespace LightningGateway.Daemon

/-- What has become of an output. -/
inductive OutputStatus where
  | unconfirmed
  | confirmed
  | spent
  | immature
  deriving Repr, BEq, DecidableEq

namespace OutputStatus

def named : List (String × OutputStatus) :=
  [("unconfirmed", unconfirmed), ("confirmed", confirmed), ("spent", spent), ("immature", immature)]

def name : OutputStatus → String
  | unconfirmed => "unconfirmed"
  | confirmed => "confirmed"
  | spent => "spent"
  | immature => "immature"

def codec : Codec OutputStatus := .enumeration named name

end OutputStatus

/-- An output that the wallet has owned. -/
structure Output where
  txid : String
  /-- The position in the transaction. -/
  position : UInt32
  amount : Msat
  status : OutputStatus
  /-- Whether a transaction that is being made uses the output. -/
  reserved : Bool
  deriving Repr, BEq, DecidableEq

def Output.layout :=
  Layout.required "txid" Codec.text <|
    Layout.required "output" Codec.word32 <|
    Layout.required "amount_msat" Amount.codec <|
    Layout.required "status" OutputStatus.codec <|
    Layout.defaulted "reserved" Codec.boolean false <|
    Layout.done

def Output.codec : Codec Output :=
  .record "FundOutput" layout
    (fun (txid, position, amount, status, reserved, ()) =>
      { txid, position, amount, status, reserved })
    (fun value => (value.txid, value.position, value.amount, value.status, value.reserved, ()))

/-- A channel as the daemon reports it. -/
structure FundedChannel where
  peerId : String
  connected : Bool
  stateName : String
  shortChannelId : Option String
  channelId : Option String
  fundingTxid : Option String
  ourAmount : Msat
  /-- The capacity of the channel. -/
  amount : Msat
  deriving Repr, BEq, DecidableEq

def FundedChannel.layout :=
  Layout.required "peer_id" Codec.text <|
    Layout.defaulted "connected" Codec.boolean false <|
    Layout.required "state" Codec.text <|
    Layout.required "short_channel_id" (Codec.optional Codec.text) <|
    Layout.required "channel_id" (Codec.optional Codec.text) <|
    Layout.required "funding_txid" (Codec.optional Codec.text) <|
    Layout.required "our_amount_msat" Amount.codec <|
    Layout.required "amount_msat" Amount.codec <|
    Layout.done

def FundedChannel.codec : Codec FundedChannel :=
  .record "FundChannel" layout
    (fun (peerId, connected, stateName, shortChannelId, channelId, fundingTxid, ourAmount, amount,
      ()) =>
      { peerId, connected, stateName, shortChannelId, channelId, fundingTxid, ourAmount, amount })
    (fun value => (value.peerId, value.connected, value.stateName, value.shortChannelId,
      value.channelId, value.fundingTxid, value.ourAmount, value.amount, ()))

/-- All outputs and channels. -/
structure Funds where
  outputs : List Output
  channels : List FundedChannel
  deriving Repr, BEq, DecidableEq

def Funds.layout :=
  Layout.defaulted "outputs" (Codec.list Output.codec) [] <|
    Layout.defaulted "channels" (Codec.list FundedChannel.codec) [] <|
    Layout.done

def Funds.codec : Codec Funds :=
  .record "ListFunds" layout
    (fun (outputs, channels, ()) =>
      { outputs, channels })
    (fun value => (value.outputs, value.channels, ()))

namespace FundedChannel

/-- The state of a channel. States of which nothing is known are states of closing. -/
def state (channel : FundedChannel) : ChannelState :=
  if channel.stateName = "CHANNELD_NORMAL" ∨ channel.stateName = "CHANNELD_AWAITING_SPLICE" then
    .active
  else if channel.stateName = "CHANNELD_AWAITING_LOCKIN" then
    .pending
  else if Text.beginsWith channel.stateName "OPENINGD" ∨
      Text.beginsWith channel.stateName "DUALOPEND" then
    .pending
  else if channel.stateName = "CLOSED" then
    .closed
  else
    .closing

def theirAmount (channel : FundedChannel) : Msat := Word.minus channel.amount channel.ourAmount

/-- The channel as callers see it, with the alias of the peer. -/
def toChannel (channel : FundedChannel) (peerAlias : String) : Channel where
  channelId := channel.channelId
  shortChannelId := channel.shortChannelId
  fundingTxid := channel.fundingTxid
  peerPublicKey := channel.peerId
  peerAlias := peerAlias
  active := channel.connected && channel.state == .active
  balanceLocal := channel.ourAmount
  balanceRemote := channel.theirAmount
  balanceCapacity := channel.amount
  state := channel.state

end FundedChannel

namespace Funds

def total (amounts : List Msat) : Msat := amounts.foldl (· + ·) 0

def outputTotal (condition : Output → Bool) (funds : Funds) : Msat :=
  total ((funds.outputs.filter condition).map Output.amount)

def channelsIn (state : ChannelState) (funds : Funds) : List FundedChannel :=
  funds.channels.filter fun channel => channel.state == state

/-- The balances. Confirmed outputs count unless they are reserved; spent and immature outputs do
not count. Channels count if they are active or being opened. -/
def balance (funds : Funds) : WalletBalance :=
  let confirmed := funds.outputTotal fun output => output.status == .confirmed && !output.reserved
  let unconfirmed := funds.outputTotal fun output => output.status == .unconfirmed
  let activeChannels := funds.channelsIn .active
  let pendingChannels := funds.channelsIn .pending
  { WalletBalance.ofOnchain confirmed unconfirmed with
    channelLocal := total (activeChannels.map FundedChannel.ourAmount)
    channelRemote := total (activeChannels.map FundedChannel.theirAmount)
    pendingOpenLocal := total (pendingChannels.map FundedChannel.ourAmount)
    pendingOpenRemote := total (pendingChannels.map FundedChannel.theirAmount) }

end Funds

end LightningGateway.Daemon
