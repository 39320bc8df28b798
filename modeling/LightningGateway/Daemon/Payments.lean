import LightningGateway.Invoice
import LightningGateway.Payment
import LightningGateway.Daemon.Timestamp
import LightningGateway.Transport.Error

/-!
# Reported payments

Payments and decoded payment requests as the daemon and its command line client report
them, and as callers see them.
-/

namespace LightningGateway.Daemon

/-- How far a payment has come. -/
inductive PayStatus where
  | pending
  | complete
  | failed
  deriving Repr, BEq, DecidableEq

namespace PayStatus

def named : List (String × PayStatus) :=
  [("pending", pending), ("complete", complete), ("failed", failed)]

def name : PayStatus → String
  | pending => "pending"
  | complete => "complete"
  | failed => "failed"

def codec : Codec PayStatus := .enumeration named name

end PayStatus

def PayStatus.toPaymentStatus : PayStatus → PaymentStatus
  | pending => .pending
  | complete => .succeeded
  | failed => .failed

/-- A payment as the daemon lists it. -/
structure ReportedPayment where
  paymentHash : String
  status : PayStatus
  destination : Option String
  createdAt : UInt64
  /-- The payment request. -/
  bolt11 : Option String
  preimage : Option String
  amount : Option Msat
  /-- The amount with fees. -/
  amountSent : Option Msat
  deriving Repr, BEq, DecidableEq

def ReportedPayment.layout :=
  Layout.required "payment_hash" Codec.text <|
    Layout.required "status" PayStatus.codec <|
    Layout.required "destination" (Codec.optional Codec.text) <|
    Layout.required "created_at" Timestamp.codec <|
    Layout.required "bolt11" (Codec.optional Codec.text) <|
    Layout.required "preimage" (Codec.optional Codec.text) <|
    Layout.defaulted "amount_msat" Amount.anyCodec none <|
    Layout.defaulted "amount_sent_msat" Amount.anyCodec none <|
    Layout.done

def ReportedPayment.codec : Codec ReportedPayment :=
  .record "PayEntry" layout
    (fun (paymentHash, status, destination, createdAt, bolt11, preimage, amount, amountSent, ()) =>
      { paymentHash, status, destination, createdAt, bolt11, preimage, amount, amountSent })
    (fun value => (value.paymentHash, value.status, value.destination, value.createdAt,
      value.bolt11, value.preimage, value.amount, value.amountSent, ()))

/-- All payments. -/
structure PaymentListing where
  pays : List ReportedPayment
  deriving Repr, BEq, DecidableEq

def PaymentListing.layout :=
  Layout.defaulted "pays" (Codec.list ReportedPayment.codec) [] <|
    Layout.done

def PaymentListing.codec : Codec PaymentListing :=
  .record "ListPays" layout
    (fun (pays, ()) =>
      { pays })
    (fun value => (value.pays, ()))

/-- What the daemon answers when it has paid. -/
structure SentPayment where
  paymentHash : String
  paymentPreimage : String
  destination : Option String
  createdAt : UInt64
  amount : Msat
  amountSent : Msat
  status : PayStatus
  deriving Repr, BEq, DecidableEq

def SentPayment.layout :=
  Layout.required "payment_hash" Codec.text <|
    Layout.required "payment_preimage" Codec.text <|
    Layout.required "destination" (Codec.optional Codec.text) <|
    Layout.required "created_at" Timestamp.codec <|
    Layout.required "amount_msat" Amount.codec <|
    Layout.required "amount_sent_msat" Amount.codec <|
    Layout.required "status" PayStatus.codec <|
    Layout.done

def SentPayment.codec : Codec SentPayment :=
  .record "Pay" layout
    (fun (paymentHash, paymentPreimage, destination, createdAt, amount, amountSent, status, ()) =>
      { paymentHash, paymentPreimage, destination, createdAt, amount, amountSent, status })
    (fun value => (value.paymentHash, value.paymentPreimage, value.destination, value.createdAt,
      value.amount, value.amountSent, value.status, ()))

/-- What the command line client says about a payment request. -/
structure DecodedRequest where
  currency : String
  createdAt : UInt64
  expiry : UInt64
  payee : String
  amount : Option Msat
  paymentHash : String
  description : String
  descriptionHash : Option String
  minFinalCltvExpiry : UInt64
  paymentSecret : Option String
  deriving Repr, BEq, DecidableEq

def DecodedRequest.layout :=
  Layout.required "currency" Codec.text <|
    Layout.required "created_at" Codec.word64 <|
    Layout.required "expiry" Codec.word64 <|
    Layout.required "payee" Codec.text <|
    Layout.defaulted "amount_msat" Amount.anyCodec none <|
    Layout.required "payment_hash" Codec.text <|
    Layout.defaulted "description" Codec.text "" <|
    Layout.required "description_hash" (Codec.optional Codec.text) <|
    Layout.required "min_final_cltv_expiry" Codec.word64 <|
    Layout.required "payment_secret" (Codec.optional Codec.text) <|
    Layout.done

def DecodedRequest.codec : Codec DecodedRequest :=
  .record "DecodePay" layout
    (fun (currency, createdAt, expiry, payee, amount, paymentHash, description, descriptionHash,
      minFinalCltvExpiry, paymentSecret, ()) =>
      { currency, createdAt, expiry, payee, amount, paymentHash, description, descriptionHash,
        minFinalCltvExpiry, paymentSecret })
    (fun value => (value.currency, value.createdAt, value.expiry, value.payee, value.amount,
      value.paymentHash, value.description, value.descriptionHash, value.minFinalCltvExpiry,
      value.paymentSecret, ()))

namespace ReportedPayment

/-- The payment as callers see it. The decoded payment request, if there is one, gives the
description, and the amount and destination that the listing leaves out. -/
def toPayment (payment : ReportedPayment) (decoded : Option PaymentRequest) : Payment :=
  let value := (payment.amount <|> decoded.bind PaymentRequest.amount).getD 0
  { paymentHash := payment.paymentHash
    paymentPreimage := payment.preimage
    paymentRequest := payment.bolt11
    destination := payment.destination <|> decoded.map PaymentRequest.destination
    value := value
    fee :=
      match payment.amountSent with
      | some sent => Word.minus sent value
      | none => 0
    feeLimit := none
    creationDate := payment.createdAt
    status := payment.status.toPaymentStatus
    description := (decoded.map PaymentRequest.description).getD "" }

/-- The payment request of a payment that was made for one. -/
def request? (payment : ReportedPayment) : Option String :=
  payment.bolt11.filter fun bolt11 => bolt11 ≠ ""

end ReportedPayment

/-- A payment that was just made, as callers see it. -/
def SentPayment.toPayment (payment : SentPayment) (bolt11 : String) (feeLimit : Msat)
    (description : String) : Payment where
  paymentHash := payment.paymentHash
  paymentPreimage := some payment.paymentPreimage
  paymentRequest := some bolt11
  destination := payment.destination
  value := payment.amount
  fee := Word.minus payment.amountSent payment.amount
  feeLimit := some feeLimit
  creationDate := payment.createdAt
  status := payment.status.toPaymentStatus
  description := description

namespace DecodedRequest

def toPaymentRequest (decoded : DecodedRequest) : PaymentRequest where
  destination := decoded.payee
  paymentHash := decoded.paymentHash
  amount := decoded.amount
  timestamp := decoded.createdAt
  expiry := decoded.expiry
  description := decoded.description
  descriptionHash := decoded.descriptionHash
  cltvExpiry := decoded.minFinalCltvExpiry
  paymentAddress := decoded.paymentSecret
  currency := decoded.currency

/-- The text by which the command line client refuses a payment request. -/
def refusal : String := "Invalid bolt11: Bad bech32 string"

/-- Reads what the command line client prints. A text that holds the refusal is one. -/
def parse (output : String) : Except TransportError PaymentRequest :=
  if Text.contains output refusal then .error (.rpc none refusal)
  else
    match codec.decodeText output with
    | .ok decoded => .ok decoded.toPaymentRequest
    | .error error => .error (.ofDecodeError error)

end DecodedRequest

end LightningGateway.Daemon
