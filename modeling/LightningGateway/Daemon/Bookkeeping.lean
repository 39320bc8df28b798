import LightningGateway.Transaction
import LightningGateway.Transport.Error

/-!
# Bookkeeping

The reports of the bookkeeper, which the command line client prints: the income report
gives the wallet transactions, the report of account events their block heights.
-/

namespace LightningGateway.Daemon

/-- A line of the income report. -/
structure IncomeEvent where
  account : String
  tag : String
  credit : Msat
  debit : Msat
  timestamp : UInt64
  description : Option String
  /-- The output that was created or spent: the transaction, a colon and the position. -/
  outpoint : Option String
  /-- The transaction that spends. -/
  txid : Option String
  deriving Repr, BEq, DecidableEq

def IncomeEvent.layout :=
  Layout.required "account" Codec.text <|
    Layout.required "tag" Codec.text <|
    Layout.required "credit_msat" Amount.codec <|
    Layout.required "debit_msat" Amount.codec <|
    Layout.required "timestamp" Codec.word64 <|
    Layout.required "description" (Codec.optional Codec.text) <|
    Layout.required "outpoint" (Codec.optional Codec.text) <|
    Layout.required "txid" (Codec.optional Codec.text) <|
    Layout.done

def IncomeEvent.codec : Codec IncomeEvent :=
  .record "IncomeEvent" layout
    (fun (account, tag, credit, debit, timestamp, description, outpoint, txid, ()) =>
      { account, tag, credit, debit, timestamp, description, outpoint, txid })
    (fun value => (value.account, value.tag, value.credit, value.debit, value.timestamp,
      value.description, value.outpoint, value.txid, ()))

/-- The income report. -/
structure IncomeReport where
  events : List IncomeEvent
  deriving Repr, BEq, DecidableEq

def IncomeReport.layout :=
  Layout.defaulted "income_events" (Codec.list IncomeEvent.codec) [] <|
    Layout.done

def IncomeReport.codec : Codec IncomeReport :=
  .record "ListIncome" layout
    (fun (events, ()) =>
      { events })
    (fun value => (value.events, ()))

/-- A line of the report of account events. -/
structure AccountEvent where
  account : String
  kind : String
  tag : String
  outpoint : Option String
  txid : Option String
  blockHeight : Option UInt32
  deriving Repr, BEq, DecidableEq

def AccountEvent.layout :=
  Layout.required "account" Codec.text <|
    Layout.required "type" Codec.text <|
    Layout.required "tag" Codec.text <|
    Layout.required "outpoint" (Codec.optional Codec.text) <|
    Layout.required "txid" (Codec.optional Codec.text) <|
    Layout.required "blockheight" (Codec.optional Codec.word32) <|
    Layout.done

def AccountEvent.codec : Codec AccountEvent :=
  .record "AccountEvent" layout
    (fun (account, kind, tag, outpoint, txid, blockHeight, ()) =>
      { account, kind, tag, outpoint, txid, blockHeight })
    (fun value => (value.account, value.kind, value.tag, value.outpoint, value.txid,
      value.blockHeight, ()))

/-- The report of account events. -/
structure AccountReport where
  events : List AccountEvent
  deriving Repr, BEq, DecidableEq

def AccountReport.layout :=
  Layout.defaulted "events" (Codec.list AccountEvent.codec) [] <|
    Layout.done

def AccountReport.codec : Codec AccountReport :=
  .record "ListAccountEvents" layout
    (fun (events, ()) =>
      { events })
    (fun value => (value.events, ()))

namespace Bookkeeping

def walletAccount : String := "wallet"

def transactionOf (outpoint : String) : String := Text.upTo outpoint ':'

/-- The transaction that a line of the income report is about: what spends, for a withdrawal,
and what created the output otherwise. -/
def incomeKey (direction : Direction) (event : IncomeEvent) : Option String :=
  match direction, event.txid, event.outpoint with
  | .send, some txid, _ => some txid
  | _, _, some outpoint => some (transactionOf outpoint)
  | _, some txid, none => some txid
  | _, none, none => none

def movement (direction : Direction) (event : IncomeEvent) : Option OnChainTransaction :=
  (incomeKey direction event).map fun txHash =>
    { txHash
      direction
      amount :=
        match direction with
        | .receive => event.credit
        | .send => event.debit
      totalFees := 0
      blockHeight := none
      numConfirmations := 0
      timeStamp := event.timestamp
      label := event.description.getD "" }

/-- Puts a transaction in the place of the one with the same hash, or at the end. -/
def record (transaction : OnChainTransaction) : List OnChainTransaction → List OnChainTransaction
  | [] => [transaction]
  | other :: rest =>
      if other.txHash = transaction.txHash then transaction :: rest
      else other :: record transaction rest

def setFees (txHash : String) (fees : Msat) (transactions : List OnChainTransaction) :
    List OnChainTransaction :=
  transactions.map fun transaction =>
    if transaction.txHash = txHash then { transaction with totalFees := fees } else transaction

def enter (transactions : List OnChainTransaction) (event : IncomeEvent) :
    List OnChainTransaction :=
  let move (direction : Direction) :=
    match movement direction event with
    | some transaction => record transaction transactions
    | none => transactions
  match event.tag with
  | "deposit" => move .receive
  | "withdrawal" => move .send
  | "onchain_fee" =>
      match event.txid with
      | some txid => setFees txid event.debit transactions
      | none => transactions
  | _ => transactions

/-- The wallet transactions of an income report, in the order of the report. -/
def transactions (report : IncomeReport) : List OnChainTransaction :=
  (report.events.filter fun event => event.account = walletAccount).foldl enter []

def parseIncome (output : String) : Except TransportError (List OnChainTransaction) :=
  match IncomeReport.codec.decodeText output with
  | .ok report => .ok (transactions report)
  | .error error => .error (.ofDecodeError error)

def accountKey (event : AccountEvent) : Option String :=
  match event.tag with
  | "deposit" => event.outpoint.map transactionOf
  | "withdrawal" => event.txid
  | _ => none

/-- The transaction and the height that an account event reports. A height of zero stands for a
transaction that no block holds yet. -/
def reportedHeight (event : AccountEvent) : Option (String × UInt32) :=
  if event.account = walletAccount ∧ event.kind = "chain" then
    match accountKey event, event.blockHeight with
    | some txHash, some height => if txHash ≠ "" ∧ 0 < height then some (txHash, height) else none
    | _, _ => none
  else
    none

/-- The height of a transaction in a report; the last line about it counts. -/
def heightOf (report : AccountReport) (txHash : String) : Option UInt32 :=
  (report.events.filterMap reportedHeight).reverse.lookup txHash

def enterHeights (report : AccountReport) (transactions : List OnChainTransaction) :
    List OnChainTransaction :=
  transactions.map fun transaction =>
    match heightOf report transaction.txHash with
    | some height => { transaction with blockHeight := some height }
    | none => transaction

/-- Reads the report of account events and enters its heights. -/
def applyHeights (output : String) (transactions : List OnChainTransaction) :
    Except TransportError (List OnChainTransaction) :=
  match AccountReport.codec.decodeText output with
  | .ok report => .ok (enterHeights report transactions)
  | .error error => .error (.ofDecodeError error)

end Bookkeeping

end LightningGateway.Daemon
