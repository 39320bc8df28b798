import LightningGateway.Gateway.Channels
import LightningGateway.Gateway.Payments
import LightningGateway.Gateway.Subscriptions

/-!
# Requests

Everything that a caller can ask the gateway to do once, with the answer in JSON.
-/

namespace LightningGateway

/-- A request of a caller. -/
inductive Request where
  | walletBalance
  | listAll (successfulOnly : Bool) (page : Page)
  | listInvoices (pendingOnly : Bool) (page : Page)
  | listOnChain
  | listPayments (includeIncomplete : Bool) (page : Page)
  | addInvoice (value : Msat) (memo : String) (expiry : UInt64) (isKeysend : Bool)
  | decodePayRequest (request : String)
  | feeRevenue
  | newAddress (input : NewAddressInput)
  | sendCoins (input : SendCoinsInput)
  | sendPayment (request : String) (timeoutSeconds : UInt32) (feeLimit : Msat)
      (amount : Option Msat)
  | nodeInfo
  | unlockWallet (password : String)
  | connectPeer (uri : String)
  | resolveAlias (nodePub : String)
  | openChannel (amount : Msat) (nodeUri : String) (targetConfirmations : UInt32)
  | listChannels
  | closeChannel (channelId : String) (force : Bool)
  deriving Repr, BEq, DecidableEq

namespace Request

def perform : Request → Gateway Json
  | walletBalance => WalletBalance.codec.write <$> Gateway.walletBalance
  | listAll successfulOnly page =>
      (Codec.list TimelineEntry.codec).write <$> Gateway.listAll successfulOnly page
  | listInvoices pendingOnly page =>
      (Codec.list Invoice.codec).write <$> Gateway.listInvoices pendingOnly page
  | listOnChain => (Codec.list OnChainTransaction.codec).write <$> Gateway.listOnChain
  | listPayments includeIncomplete page =>
      (Codec.list Payment.codec).write <$> Gateway.listPayments includeIncomplete page
  | addInvoice value memo expiry isKeysend =>
      Invoice.codec.write <$> Gateway.addInvoice value memo expiry isKeysend
  | decodePayRequest request => PaymentRequest.codec.write <$> Gateway.decodePayRequest request
  | feeRevenue => FeeRevenue.codec.write <$> Gateway.feeRevenue
  | newAddress input => Json.string <$> Gateway.newAddress input
  | sendCoins input => SendCoinsResponse.codec.write <$> Gateway.sendCoins input
  | sendPayment request timeoutSeconds feeLimit amount =>
      Payment.codec.write <$> Gateway.sendPayment request timeoutSeconds feeLimit amount
  | nodeInfo => NodeInfo.codec.write <$> Gateway.nodeInfo
  | unlockWallet password => Json.bool <$> Gateway.unlockWallet password
  | connectPeer uri => Json.bool <$> Gateway.connectPeer uri
  | resolveAlias nodePub => Json.string <$> Gateway.resolveAlias nodePub
  | openChannel amount nodeUri targetConfirmations =>
      Json.string <$> Gateway.openChannel amount nodeUri targetConfirmations
  | listChannels => (Codec.list Channel.codec).write <$> Gateway.listChannels
  | closeChannel channelId force => Json.string <$> Gateway.closeChannel channelId force

/-- What is done for a request, with all that a listing fetches side by side. -/
def joined : Request → Gateway.Joined Json
  | listAll successfulOnly page =>
      (Gateway.listingAll successfulOnly page).map (Codec.list TimelineEntry.codec).write
  | listOnChain => Gateway.listingOnChain.map (Codec.list OnChainTransaction.codec).write
  | listChannels => Gateway.listingChannels.map (Codec.list Channel.codec).write
  | request => Gateway.alone request.perform

end Request

end LightningGateway
