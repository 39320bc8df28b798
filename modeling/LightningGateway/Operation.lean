/-!
# Operations

The operations of the gateway and their names.
-/

namespace LightningGateway

/-- An operation of the gateway. -/
inductive Operation where
  | establish
  | walletBalance
  | listAll
  | listInvoices
  | listOnChain
  | listPayments
  | addInvoice
  | decodePayRequest
  | feeRevenue
  | newAddress
  | sendCoins
  | sendPayment
  | nodeInfo
  | listenInvoices
  | listenForwards
  | connectPeer
  | resolveAlias
  | openChannel
  | listChannels
  | closeChannel
  deriving Repr, BEq, DecidableEq

namespace Operation

def name : Operation → String
  | establish => "initialize"
  | walletBalance => "get_wallet_balance"
  | listAll => "list_all_tx"
  | listInvoices => "list_invoices"
  | listOnChain => "list_on_chain_tx"
  | listPayments => "list_payments"
  | addInvoice => "add_invoice"
  | decodePayRequest => "decode_pay_request"
  | feeRevenue => "get_fee_revenue"
  | newAddress => "new_address"
  | sendCoins => "send_coins"
  | sendPayment => "send_payment"
  | nodeInfo => "get_ln_info"
  | listenInvoices => "listen_invoices"
  | listenForwards => "listen_forward_events"
  | connectPeer => "connect_peer"
  | resolveAlias => "peer_resolve_alias"
  | openChannel => "channel_open"
  | listChannels => "channel_list"
  | closeChannel => "channel_close"

def all : List Operation :=
  [establish, walletBalance, listAll, listInvoices, listOnChain, listPayments, addInvoice,
    decodePayRequest, feeRevenue, newAddress, sendCoins, sendPayment, nodeInfo, listenInvoices,
    listenForwards, connectPeer, resolveAlias, openChannel, listChannels, closeChannel]

def ofName? (name : String) : Option Operation :=
  all.find? fun operation => operation.name == name

end Operation

end LightningGateway
