import LightningGateway.Invoice
import LightningGateway.Payment

/-!
# Transactions

Transactions on chain, and the timeline entries that invoices, payments and on-chain
transactions have in common.
-/

namespace LightningGateway

/-- Which way money moves. -/
inductive Direction where
  | receive
  | send
  deriving Repr, BEq, DecidableEq

namespace Direction

def named : List (String × Direction) :=
  [("receive", receive), ("send", send)]

def name : Direction → String
  | receive => "receive"
  | send => "send"

def codec : Codec Direction := .enumeration named name

end Direction

/-- A wallet transaction on chain. -/
structure OnChainTransaction where
  txHash : String
  direction : Direction
  amount : Msat
  totalFees : Msat
  /-- The block that holds the transaction, once there is one. -/
  blockHeight : Option UInt32
  numConfirmations : UInt32
  timeStamp : UInt64
  label : String
  deriving Repr, BEq, DecidableEq

def OnChainTransaction.layout :=
  Layout.required "tx_hash" Codec.text <|
    Layout.required "direction" Direction.codec <|
    Layout.required "amount_msat" Codec.word64 <|
    Layout.required "total_fees_msat" Codec.word64 <|
    Layout.required "block_height" (Codec.optional Codec.word32) <|
    Layout.required "num_confirmations" Codec.word32 <|
    Layout.required "time_stamp" Codec.word64 <|
    Layout.required "label" Codec.text <|
    Layout.done

def OnChainTransaction.codec : Codec OnChainTransaction :=
  .record "OnChainTransaction" layout
    (fun (txHash, direction, amount, totalFees, blockHeight, numConfirmations, timeStamp, label,
      ()) =>
      { txHash, direction, amount, totalFees, blockHeight, numConfirmations, timeStamp, label })
    (fun value => (value.txHash, value.direction, value.amount, value.totalFees, value.blockHeight,
      value.numConfirmations, value.timeStamp, value.label, ()))

/-- Counts the confirmations up to the tip of the chain. -/
def OnChainTransaction.updateConfirmations (tip : UInt32) (transaction : OnChainTransaction) :
    OnChainTransaction :=
  { transaction with
    numConfirmations :=
      match transaction.blockHeight with
      | some height => if height ≤ tip then tip - height else 0
      | none => 0 }

/-- Where money moves. -/
inductive Category where
  | onchain
  | lightning
  deriving Repr, BEq, DecidableEq

namespace Category

def named : List (String × Category) :=
  [("onchain", onchain), ("lightning", lightning)]

def name : Category → String
  | onchain => "onchain"
  | lightning => "lightning"

def codec : Codec Category := .enumeration named name

end Category

/-- The outcome of a transaction. -/
inductive EntryStatus where
  | pending
  | succeeded
  | failed
  deriving Repr, BEq, DecidableEq

namespace EntryStatus

def named : List (String × EntryStatus) :=
  [("pending", pending), ("succeeded", succeeded), ("failed", failed)]

def name : EntryStatus → String
  | pending => "pending"
  | succeeded => "succeeded"
  | failed => "failed"

def codec : Codec EntryStatus := .enumeration named name

end EntryStatus

/-- A transaction of any kind in the timeline. -/
structure TimelineEntry where
  /-- Position in the whole timeline. -/
  index : UInt64
  timeStamp : UInt64
  status : EntryStatus
  category : Category
  direction : Direction
  amount : Msat
  fees : Msat
  description : String
  referenceId : String
  blockHeight : Option UInt32
  numConfirmations : Option UInt32
  deriving Repr, BEq, DecidableEq

def TimelineEntry.layout :=
  Layout.required "index" Codec.size <|
    Layout.required "time_stamp" Codec.word64 <|
    Layout.required "status" EntryStatus.codec <|
    Layout.required "category" Category.codec <|
    Layout.required "direction" Direction.codec <|
    Layout.required "amount_msat" Codec.word64 <|
    Layout.required "fees_msat" Codec.word64 <|
    Layout.required "description" Codec.text <|
    Layout.required "reference_id" Codec.text <|
    Layout.required "block_height" (Codec.optional Codec.word32) <|
    Layout.required "num_confs" (Codec.optional Codec.word32) <|
    Layout.done

def TimelineEntry.codec : Codec TimelineEntry :=
  .record "GenericTx" layout
    (fun (index, timeStamp, status, category, direction, amount, fees, description, referenceId,
      blockHeight, numConfirmations, ()) =>
      { index, timeStamp, status, category, direction, amount, fees, description, referenceId,
        blockHeight, numConfirmations })
    (fun value => (value.index, value.timeStamp, value.status, value.category, value.direction,
      value.amount, value.fees, value.description, value.referenceId, value.blockHeight,
      value.numConfirmations, ()))

namespace TimelineEntry

/-- The entry of an invoice. A settled invoice counts with what was paid, any other one with what
was asked for. -/
def ofInvoice (invoice : Invoice) : TimelineEntry where
  index := 0
  timeStamp := invoice.settleDate.getD invoice.expiryDate
  status :=
    match invoice.state with
    | .unpaid => .pending
    | .settled => .succeeded
    | .cancelled | .expired => .failed
  category := .lightning
  direction := .receive
  amount :=
    match invoice.state with
    | .settled => invoice.amountPaid
    | _ => invoice.value.getD 0
  fees := 0
  description := invoice.memo
  referenceId := invoice.paymentHash
  blockHeight := none
  numConfirmations := none

def ofPayment (payment : Payment) : TimelineEntry where
  index := 0
  timeStamp := payment.creationDate
  status :=
    match payment.status with
    | .pending => .pending
    | .succeeded => .succeeded
    | .failed => .failed
  category := .lightning
  direction := .send
  amount := payment.value
  fees := payment.fee
  description := payment.description
  referenceId := payment.paymentHash
  blockHeight := none
  numConfirmations := none

/-- The entry of a transaction on chain, which has succeeded as soon as a block holds it, also
when that block is the tip and the number of confirmations is still zero. -/
def ofOnChain (transaction : OnChainTransaction) : TimelineEntry where
  index := 0
  timeStamp := transaction.timeStamp
  status := if transaction.blockHeight.isSome then .succeeded else .pending
  category := .onchain
  direction := transaction.direction
  amount := transaction.amount
  fees := transaction.totalFees
  description := transaction.label
  referenceId := transaction.txHash
  blockHeight := transaction.blockHeight
  numConfirmations := some transaction.numConfirmations

end TimelineEntry

end LightningGateway
