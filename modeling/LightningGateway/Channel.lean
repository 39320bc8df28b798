import LightningGateway.Amount
import LightningGateway.Json.Record

/-!
# Channels

Channels of the node, and what forwarding over them earns.
-/

namespace LightningGateway

/-- The life of a channel. -/
inductive ChannelState where
  /-- It is being opened. -/
  | pending
  | active
  | closing
  | closed
  deriving Repr, BEq, DecidableEq

namespace ChannelState

def named : List (String × ChannelState) :=
  [("pending", pending), ("active", active), ("closing", closing), ("closed", closed)]

def name : ChannelState → String
  | pending => "pending"
  | active => "active"
  | closing => "closing"
  | closed => "closed"

def codec : Codec ChannelState := .enumeration named name

end ChannelState

/-- A channel with a peer. -/
structure Channel where
  channelId : Option String
  shortChannelId : Option String
  fundingTxid : Option String
  peerPublicKey : String
  peerAlias : String
  /-- Whether it can be used now. -/
  active : Bool
  balanceLocal : Msat
  balanceRemote : Msat
  balanceCapacity : Msat
  state : ChannelState
  deriving Repr, BEq, DecidableEq

def Channel.layout :=
  Layout.required "channel_id" (Codec.optional Codec.text) <|
    Layout.required "short_channel_id" (Codec.optional Codec.text) <|
    Layout.required "funding_txid" (Codec.optional Codec.text) <|
    Layout.required "peer_publickey" Codec.text <|
    Layout.required "peer_alias" Codec.text <|
    Layout.required "active" Codec.boolean <|
    Layout.required "balance_local_msat" Codec.word64 <|
    Layout.required "balance_remote_msat" Codec.word64 <|
    Layout.required "balance_capacity_msat" Codec.word64 <|
    Layout.required "state" ChannelState.codec <|
    Layout.done

def Channel.codec : Codec Channel :=
  .record "Channel" layout
    (fun (channelId, shortChannelId, fundingTxid, peerPublicKey, peerAlias, active, balanceLocal,
      balanceRemote, balanceCapacity, state, ()) =>
      { channelId, shortChannelId, fundingTxid, peerPublicKey, peerAlias, active, balanceLocal,
        balanceRemote, balanceCapacity, state })
    (fun value => (value.channelId, value.shortChannelId, value.fundingTxid, value.peerPublicKey,
      value.peerAlias, value.active, value.balanceLocal, value.balanceRemote, value.balanceCapacity,
      value.state, ()))

/-- A payment that the node has forwarded. -/
structure ForwardEvent where
  received : UInt64
  resolved : UInt64
  channelIn : String
  channelOut : String
  amountIn : Msat
  amountOut : Msat
  fee : Msat
  deriving Repr, BEq, DecidableEq

def ForwardEvent.layout :=
  Layout.required "timestamp_received" Codec.word64 <|
    Layout.required "timestamp_resolved" Codec.word64 <|
    Layout.required "chan_id_in" Codec.text <|
    Layout.required "chan_id_out" Codec.text <|
    Layout.required "amt_in_msat" Codec.word64 <|
    Layout.required "amt_out_msat" Codec.word64 <|
    Layout.required "fee_msat" Codec.word64 <|
    Layout.done

def ForwardEvent.codec : Codec ForwardEvent :=
  .record "ForwardSuccessEvent" layout
    (fun (received, resolved, channelIn, channelOut, amountIn, amountOut, fee, ()) =>
      { received, resolved, channelIn, channelOut, amountIn, amountOut, fee })
    (fun value => (value.received, value.resolved, value.channelIn, value.channelOut,
      value.amountIn, value.amountOut, value.fee, ()))

/-- Fees earned in the last day, week, month and year, and ever. -/
structure FeeRevenue where
  day : Msat
  week : Msat
  month : Msat
  year : Msat
  total : Msat
  deriving Repr, BEq, DecidableEq

def FeeRevenue.layout :=
  Layout.required "day" Codec.word64 <|
    Layout.required "week" Codec.word64 <|
    Layout.required "month" Codec.word64 <|
    Layout.required "year" Codec.word64 <|
    Layout.required "total" Codec.word64 <|
    Layout.done

def FeeRevenue.codec : Codec FeeRevenue :=
  .record "FeeRevenue" layout
    (fun (day, week, month, year, total, ()) =>
      { day, week, month, year, total })
    (fun value => (value.day, value.week, value.month, value.year, value.total, ()))

end LightningGateway
