import LightningGateway.Daemon.Bookkeeping
import LightningGateway.Daemon.Information
import LightningGateway.Daemon.Invoices
import LightningGateway.Daemon.Payments
import LightningGateway.Gateway.Session
import LightningGateway.Listing

/-!
# Listings

Invoices, payments and transactions on chain, each for itself and all together in the
timeline. The descriptions of payments come from their payment requests, which are decoded
once and remembered.

What a listing needs from several sources is fetched side by side: `fetchingOnChain`,
`listingOnChain` and `listingAll` are braids. `fetchOnChain`, `listOnChain` and `listAll` are
the same with every answer at once, so that the fetches come one after another.
-/

namespace LightningGateway.Gateway

def fetchInvoices (operation : Operation) : Gateway (List Invoice) := do
  let listing ← call operation Daemon.InvoiceListing.codec "listinvoices" (.object [])
  return listing.invoices.map Daemon.ReportedInvoice.toInvoice

def fetchInfo (operation : Operation) : Gateway NodeInfo := do
  let information ← call operation Daemon.Information.codec "getinfo" (.object [])
  return information.toNodeInfo (← read).implementation.tag

def nodeInfo : Gateway NodeInfo := fetchInfo .nodeInfo

/-- Asks the command line client to decode a payment request. -/
def decoding {σ : Type} (operation : Operation) (request : String) :
    Dialogue σ (Except Failure PaymentRequest) := do
  match ← Dialogue.query (.command ["decodepay", request]) with
  | .error error => return .error (.ofError operation error)
  | .ok output =>
      return (Daemon.DecodedRequest.parse output).mapError (Failure.ofError operation)

def decode (operation : Operation) (request : String) : Gateway PaymentRequest :=
  ofDialogue (decoding operation request)

/-- The decoded form of a payment request, remembered or asked for. -/
def decodeRemembered (operation : Operation) (request : String) : Gateway PaymentRequest :=
  ofDialogue <| (Cache.remember request (decoding operation request)).focus Session.requests
    fun requests session => { session with requests }

def completePayment (operation : Operation) (payment : Daemon.ReportedPayment) :
    Gateway Payment := do
  match payment.request? with
  | some request => return payment.toPayment (some (← decodeRemembered operation request))
  | none => return payment.toPayment none

def fetchPayments (operation : Operation) : Gateway (List Payment) := do
  let listing ← call operation Daemon.PaymentListing.codec "listpays" (.object [])
  listing.pays.mapM (completePayment operation)

/-- The time of the block that holds a transaction, if it is known and can be found out. -/
def blockTimeOf (transaction : OnChainTransaction) : Gateway (Option UInt64) := do
  match transaction.blockHeight with
  | none => return none
  | some height =>
      let result ← lift <| (Chain.blockTime height).focus Session.blocks fun blocks session =>
        { session with blocks }
      match result with
      | .ok block => return some block.time
      | .error _ => return none

/-- Gives a transaction the time of its block, if that can be found out. -/
def dateByBlock (transaction : OnChainTransaction) : Gateway OnChainTransaction := do
  match ← blockTimeOf transaction with
  | some time => return { transaction with timeStamp := time }
  | none => return transaction

/-- The reports of the bookkeeper, which are asked for side by side. -/
def bookkeeperReports (operation : Operation) : Joined (String × String) :=
  (alone (command operation ["bkpr-listincome"])).beside
    (alone (command operation ["bkpr-listaccountevents"])) Prod.mk

def readReports (operation : Operation) (reports : String × String) :
    Gateway (List OnChainTransaction) := do
  let transactions ← orClassify operation (Daemon.Bookkeeping.parseIncome reports.1)
  orClassify operation (Daemon.Bookkeeping.applyHeights reports.2 transactions)

/-- With a chain server the blocks of all transactions are looked up, side by side. -/
def datingByBlocks (transactions : List OnChainTransaction) : Joined (List OnChainTransaction) :=
  fun settings =>
    (if settings.hasChainServer then joinAll (transactions.map dateByBlock)
      else alone (return transactions)) settings

def fetchingOnChain (operation : Operation) : Joined (List OnChainTransaction) :=
  ((bookkeeperReports operation).andThen fun reports =>
    alone (readReports operation reports)).andThen datingByBlocks

/-- All wallet transactions, their confirmations not counted yet. -/
def fetchOnChain (operation : Operation) : Gateway (List OnChainTransaction) :=
  inTurn (fetchingOnChain operation)

/-- Invoices, or only those that can still be paid. -/
def listInvoices (pendingOnly : Bool) (page : Page) : Gateway (List Invoice) := do
  let invoices ← fetchInvoices .listInvoices
  return page.select
    (if pendingOnly then invoices.filter fun invoice => invoice.state == .unpaid else invoices)

/-- Payments that have succeeded, or all. -/
def listPayments (includeIncomplete : Bool) (page : Page) : Gateway (List Payment) := do
  let payments ← fetchPayments .listPayments
  return page.select
    (if includeIncomplete then payments
      else payments.filter fun payment => payment.status == .succeeded)

/-- The wallet transactions beside the tip of the chain. -/
def listingOnChain : Joined (List OnChainTransaction) :=
  (fetchingOnChain .listOnChain).beside (alone (fetchInfo .listOnChain)) fun transactions info =>
    transactions.map (OnChainTransaction.updateConfirmations info.blockHeight)

def listOnChain : Gateway (List OnChainTransaction) := inTurn listingOnChain

/-- The entries of the timeline before they are put in order. -/
def timelineEntries (invoices : List Invoice) (transactions : List OnChainTransaction)
    (payments : List Payment) : List TimelineEntry :=
  invoices.map TimelineEntry.ofInvoice ++ transactions.map TimelineEntry.ofOnChain ++
    payments.map TimelineEntry.ofPayment

/-- The entries that are listed. -/
def listedEntries (successfulOnly : Bool) (entries : List TimelineEntry) :
    List TimelineEntry :=
  if successfulOnly then entries.filter fun entry => entry.status == .succeeded else entries

/-- The timeline. All that it is made of is fetched side by side. -/
def listingAll (successfulOnly : Bool) (page : Page) : Joined (List TimelineEntry) :=
  (alone (fetchInvoices .listAll)).beside
    ((fetchingOnChain .listAll).beside
      ((alone (fetchPayments .listAll)).beside (alone (fetchInfo .listAll)) Prod.mk) Prod.mk)
    fun invoices (transactions, payments, info) =>
      Timeline.build page (listedEntries successfulOnly (timelineEntries invoices
        (transactions.map (OnChainTransaction.updateConfirmations info.blockHeight)) payments))

def listAll (successfulOnly : Bool) (page : Page) : Gateway (List TimelineEntry) :=
  inTurn (listingAll successfulOnly page)

end LightningGateway.Gateway
