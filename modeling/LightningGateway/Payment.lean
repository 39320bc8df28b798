import LightningGateway.Amount
import LightningGateway.Json.Record

/-!
# Payments

Payments that the node has sent or is sending.
-/

namespace LightningGateway

/-- How far a payment has come. -/
inductive PaymentStatus where
  | pending
  | succeeded
  | failed
  deriving Repr, BEq, DecidableEq

namespace PaymentStatus

def named : List (String × PaymentStatus) :=
  [("pending", pending), ("succeeded", succeeded), ("failed", failed)]

def name : PaymentStatus → String
  | pending => "pending"
  | succeeded => "succeeded"
  | failed => "failed"

def codec : Codec PaymentStatus := .enumeration named name

end PaymentStatus

/-- A payment of the node. -/
structure Payment where
  paymentHash : String
  /-- The proof of payment, once there is one. -/
  paymentPreimage : Option String
  paymentRequest : Option String
  destination : Option String
  /-- What arrived or is meant to arrive. -/
  value : Msat
  /-- What was paid to forwarding nodes. -/
  fee : Msat
  feeLimit : Option Msat
  creationDate : UInt64
  status : PaymentStatus
  description : String
  deriving Repr, BEq, DecidableEq

def Payment.layout :=
  Layout.required "payment_hash" Codec.text <|
    Layout.required "payment_preimage" (Codec.optional Codec.text) <|
    Layout.required "payment_request" (Codec.optional Codec.text) <|
    Layout.required "destination" (Codec.optional Codec.text) <|
    Layout.required "value_msat" Codec.word64 <|
    Layout.required "fee_msat" Codec.word64 <|
    Layout.required "fee_limit_msat" (Codec.optional Codec.word64) <|
    Layout.required "creation_date" Codec.word64 <|
    Layout.required "status" PaymentStatus.codec <|
    Layout.required "description" Codec.text <|
    Layout.done

def Payment.codec : Codec Payment :=
  .record "Payment" layout
    (fun (paymentHash, paymentPreimage, paymentRequest, destination, value, fee, feeLimit,
      creationDate, status, description, ()) =>
      { paymentHash, paymentPreimage, paymentRequest, destination, value, fee, feeLimit,
        creationDate, status, description })
    (fun value => (value.paymentHash, value.paymentPreimage, value.paymentRequest,
      value.destination, value.value, value.fee, value.feeLimit, value.creationDate, value.status,
      value.description, ()))

end LightningGateway
