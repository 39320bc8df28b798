import LightningGateway.Amount
import LightningGateway.Json.Record

/-!
# The wallet

Balances, addresses, and sending coins on chain.
-/

namespace LightningGateway

/-- Balances of the node, on chain and in channels. -/
structure WalletBalance where
  onchainConfirmed : Msat
  onchainUnconfirmed : Msat
  onchainTotal : Msat
  channelLocal : Msat
  channelRemote : Msat
  pendingOpenLocal : Msat
  pendingOpenRemote : Msat
  unsettledLocal : Msat
  unsettledRemote : Msat
  deriving Repr, BEq, DecidableEq

def WalletBalance.layout :=
  Layout.required "onchain_confirmed_msat" Codec.word64 <|
    Layout.required "onchain_unconfirmed_msat" Codec.word64 <|
    Layout.required "onchain_total_msat" Codec.word64 <|
    Layout.required "channel_local_msat" Codec.word64 <|
    Layout.required "channel_remote_msat" Codec.word64 <|
    Layout.required "channel_pending_open_local_msat" Codec.word64 <|
    Layout.required "channel_pending_open_remote_msat" Codec.word64 <|
    Layout.required "channel_unsettled_local_msat" Codec.word64 <|
    Layout.required "channel_unsettled_remote_msat" Codec.word64 <|
    Layout.done

def WalletBalance.codec : Codec WalletBalance :=
  .record "WalletBalance" layout
    (fun (onchainConfirmed, onchainUnconfirmed, onchainTotal, channelLocal, channelRemote,
      pendingOpenLocal, pendingOpenRemote, unsettledLocal, unsettledRemote, ()) =>
      { onchainConfirmed, onchainUnconfirmed, onchainTotal, channelLocal, channelRemote,
        pendingOpenLocal, pendingOpenRemote, unsettledLocal, unsettledRemote })
    (fun value => (value.onchainConfirmed, value.onchainUnconfirmed, value.onchainTotal,
      value.channelLocal, value.channelRemote, value.pendingOpenLocal, value.pendingOpenRemote,
      value.unsettledLocal, value.unsettledRemote, ()))

def WalletBalance.ofOnchain (confirmed unconfirmed : Msat) : WalletBalance where
  onchainConfirmed := confirmed
  onchainUnconfirmed := unconfirmed
  onchainTotal := Word.plus confirmed unconfirmed
  channelLocal := 0
  channelRemote := 0
  pendingOpenLocal := 0
  pendingOpenRemote := 0
  unsettledLocal := 0
  unsettledRemote := 0

/-- Kinds of addresses. -/
inductive AddressType where
  | p2wkh
  | p2tr
  deriving Repr, BEq, DecidableEq

namespace AddressType

def named : List (String × AddressType) :=
  [("p2wkh", p2wkh), ("p2tr", p2tr)]

def name : AddressType → String
  | p2wkh => "p2wkh"
  | p2tr => "p2tr"

def codec : Codec AddressType := .enumeration named name

end AddressType

/-- What is asked for when a new address is asked for. -/
structure NewAddressInput where
  addressType : AddressType
  deriving Repr, BEq, DecidableEq

def NewAddressInput.layout :=
  Layout.defaulted "type" AddressType.codec .p2wkh <|
    Layout.done

def NewAddressInput.codec : Codec NewAddressInput :=
  .record "NewAddressInput" layout
    (fun (addressType, ()) =>
      { addressType })
    (fun value => (value.addressType, ()))

/-- How fast a transaction should be confirmed. -/
inductive FeeRate where
  | urgent
  | normal
  | slow
  /-- A rate of its own. -/
  | satPerVbyte (rate : UInt64)
  deriving Repr, BEq, DecidableEq

namespace FeeRate

/-- The rate for a number of blocks within which the transaction should be confirmed. -/
def forTarget (blocks : UInt32) : Option FeeRate :=
  if blocks = 0 then none
  else if blocks = 1 then some urgent
  else if blocks < 10 then some normal
  else some slow

/-- The variant with a name: a rate, or `none` for the one that needs a number. -/
def variants : List (String × Option FeeRate) :=
  [("urgent", some urgent), ("normal", some normal), ("slow", some slow), ("sat_per_vbyte", none)]

/-- Fee rates in JSON: a name, or an object that maps the name of a variant to its content. -/
def codec : Codec FeeRate where
  read
    | _, .string name =>
        match Codec.variantNamed variants name with
        | .error error => .error error
        | .ok (some rate) => .ok rate
        | .ok none => .error (.invalidType .unitVariant "newtype variant")
    | origin, .object [(some name, content)] true =>
        match Codec.variantNamed variants name with
        | .error error => .error error
        | .ok (some rate) => (Codec.readUnit origin content).map fun _ => rate
        | .ok none => (Codec.word64.read origin content).map satPerVbyte
    | origin, document => .error (Codec.notAVariant origin document)
  write
    | urgent => .string "urgent"
    | normal => .string "normal"
    | slow => .string "slow"
    | satPerVbyte rate => .object [("sat_per_vbyte", .ofWord rate)]
  absent := none

end FeeRate

/-- A request to send coins on chain. -/
structure SendCoinsInput where
  address : String
  /-- What to send, unless everything is sent. -/
  amount : Msat
  /-- The number of blocks within which the transaction should be confirmed. -/
  targetConfirmations : Option UInt32
  satPerVbyte : Option UInt64
  /-- How often the coins must be confirmed. -/
  minConfirmations : Option UInt32
  label : String
  sendAll : Bool
  deriving Repr, BEq, DecidableEq

def SendCoinsInput.layout :=
  Layout.required "address" Codec.text <|
    Layout.required "amount_msat" Codec.word64 <|
    Layout.defaulted "target_conf" (Codec.optional Codec.word32) none <|
    Layout.defaulted "sat_per_vbyte" (Codec.optional Codec.word64) none <|
    Layout.defaulted "min_confs" (Codec.optional Codec.word32) none <|
    Layout.defaulted "label" Codec.text "" <|
    Layout.defaulted "send_all" Codec.boolean false <|
    Layout.done

def SendCoinsInput.codec : Codec SendCoinsInput :=
  .record "SendCoinsInput" layout
    (fun (address, amount, targetConfirmations, satPerVbyte, minConfirmations, label, sendAll,
      ()) =>
      { address, amount, targetConfirmations, satPerVbyte, minConfirmations, label, sendAll })
    (fun value => (value.address, value.amount, value.targetConfirmations, value.satPerVbyte,
      value.minConfirmations, value.label, value.sendAll, ()))

/-- The fee rate to ask for: a positive rate goes before the target. -/
def SendCoinsInput.feeRate (input : SendCoinsInput) : Option FeeRate :=
  match input.satPerVbyte with
  | some rate =>
      if 0 < rate then some (.satPerVbyte rate)
      else input.targetConfirmations.bind FeeRate.forTarget
  | none => input.targetConfirmations.bind FeeRate.forTarget

/-- A transaction that sends coins. -/
structure SendCoinsResponse where
  txid : String
  address : String
  amount : Msat
  label : String
  sendAll : Bool
  deriving Repr, BEq, DecidableEq

def SendCoinsResponse.layout :=
  Layout.required "txid" Codec.text <|
    Layout.required "address" Codec.text <|
    Layout.required "amount_msat" Codec.word64 <|
    Layout.required "label" Codec.text <|
    Layout.required "send_all" Codec.boolean <|
    Layout.done

def SendCoinsResponse.codec : Codec SendCoinsResponse :=
  .record "SendCoinsResponse" layout
    (fun (txid, address, amount, label, sendAll, ()) =>
      { txid, address, amount, label, sendAll })
    (fun value => (value.txid, value.address, value.amount, value.label, value.sendAll, ()))

end LightningGateway
