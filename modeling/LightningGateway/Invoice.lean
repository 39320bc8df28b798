import LightningGateway.Amount
import LightningGateway.Json.Record

/-!
# Invoices

Invoices that the node has issued, and payment requests of others that it has decoded.
-/

namespace LightningGateway

/-- The life of an invoice. -/
inductive InvoiceState where
  /-- It can still be paid. -/
  | unpaid
  | settled
  | cancelled
  | expired
  deriving Repr, BEq, DecidableEq

namespace InvoiceState

def named : List (String × InvoiceState) :=
  [("open", unpaid), ("settled", settled), ("cancelled", cancelled), ("expired", expired)]

def name : InvoiceState → String
  | unpaid => "open"
  | settled => "settled"
  | cancelled => "cancelled"
  | expired => "expired"

def codec : Codec InvoiceState := .enumeration named name

end InvoiceState

def InvoiceState.isTerminal : InvoiceState → Bool
  | .unpaid => false
  | _ => true

/-- An invoice of the node. -/
structure Invoice where
  /-- The text that a payer needs; an invoice that was paid without one has none. -/
  paymentRequest : Option String
  paymentHash : String
  memo : String
  /-- The name under which the node keeps the invoice. -/
  label : String
  /-- The amount asked for, if the payer does not choose it. -/
  value : Option Msat
  amountPaid : Msat
  expiryDate : UInt64
  settleDate : Option UInt64
  /-- Position in the order of creation. -/
  addIndex : UInt64
  /-- Position in the order of settlement. -/
  settleIndex : Option UInt64
  isKeysend : Bool
  state : InvoiceState
  deriving Repr, BEq, DecidableEq

def Invoice.layout :=
  Layout.required "payment_request" (Codec.optional Codec.text) <|
    Layout.required "payment_hash" Codec.text <|
    Layout.required "memo" Codec.text <|
    Layout.required "label" Codec.text <|
    Layout.required "value_msat" (Codec.optional Codec.word64) <|
    Layout.required "amount_paid_msat" Codec.word64 <|
    Layout.required "expiry_date" Codec.word64 <|
    Layout.required "settle_date" (Codec.optional Codec.word64) <|
    Layout.required "add_index" Codec.word64 <|
    Layout.required "settle_index" (Codec.optional Codec.word64) <|
    Layout.required "is_keysend" Codec.boolean <|
    Layout.required "state" InvoiceState.codec <|
    Layout.done

def Invoice.codec : Codec Invoice :=
  .record "Invoice" layout
    (fun (paymentRequest, paymentHash, memo, label, value, amountPaid, expiryDate, settleDate,
      addIndex, settleIndex, isKeysend, state, ()) =>
      { paymentRequest, paymentHash, memo, label, value, amountPaid, expiryDate, settleDate,
        addIndex, settleIndex, isKeysend, state })
    (fun value => (value.paymentRequest, value.paymentHash, value.memo, value.label, value.value,
      value.amountPaid, value.expiryDate, value.settleDate, value.addIndex, value.settleIndex,
      value.isKeysend, value.state, ()))

/-- What a payment request says. -/
structure PaymentRequest where
  destination : String
  paymentHash : String
  /-- The amount asked for, if the payer does not choose it. -/
  amount : Option Msat
  timestamp : UInt64
  /-- Seconds from the time stamp until the request expires. -/
  expiry : UInt64
  description : String
  descriptionHash : Option String
  cltvExpiry : UInt64
  paymentAddress : Option String
  currency : String
  deriving Repr, BEq, DecidableEq

def PaymentRequest.layout :=
  Layout.required "destination" Codec.text <|
    Layout.required "payment_hash" Codec.text <|
    Layout.required "num_msat" (Codec.optional Codec.word64) <|
    Layout.required "timestamp" Codec.word64 <|
    Layout.required "expiry" Codec.word64 <|
    Layout.required "description" Codec.text <|
    Layout.required "description_hash" (Codec.optional Codec.text) <|
    Layout.required "cltv_expiry" Codec.word64 <|
    Layout.required "payment_addr" (Codec.optional Codec.text) <|
    Layout.required "currency" Codec.text <|
    Layout.done

def PaymentRequest.codec : Codec PaymentRequest :=
  .record "PaymentRequest" layout
    (fun (destination, paymentHash, amount, timestamp, expiry, description, descriptionHash,
      cltvExpiry, paymentAddress, currency, ()) =>
      { destination, paymentHash, amount, timestamp, expiry, description, descriptionHash,
        cltvExpiry, paymentAddress, currency })
    (fun value => (value.destination, value.paymentHash, value.amount, value.timestamp,
      value.expiry, value.description, value.descriptionHash, value.cltvExpiry,
      value.paymentAddress, value.currency, ()))

end LightningGateway
