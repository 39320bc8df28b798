import LightningGateway.Invoice

/-!
# Reported invoices

Invoices as the daemon lists them, and as callers see them.
-/

namespace LightningGateway.Daemon

/-- What has become of an invoice. -/
inductive InvoiceStatus where
  | unpaid
  | paid
  | expired
  deriving Repr, BEq, DecidableEq

namespace InvoiceStatus

def named : List (String × InvoiceStatus) :=
  [("unpaid", unpaid), ("paid", paid), ("expired", expired)]

def name : InvoiceStatus → String
  | unpaid => "unpaid"
  | paid => "paid"
  | expired => "expired"

def codec : Codec InvoiceStatus := .enumeration named name

end InvoiceStatus

/-- An invoice as the daemon lists it. -/
structure ReportedInvoice where
  label : String
  /-- The payment request. -/
  bolt11 : Option String
  paymentHash : String
  amount : Option Msat
  amountReceived : Option Msat
  status : InvoiceStatus
  description : String
  expiresAt : UInt64
  createdIndex : Option UInt64
  payIndex : Option UInt64
  paidAt : Option UInt64
  deriving Repr, BEq, DecidableEq

def ReportedInvoice.layout :=
  Layout.required "label" Codec.text <|
    Layout.required "bolt11" (Codec.optional Codec.text) <|
    Layout.required "payment_hash" Codec.text <|
    Layout.defaulted "amount_msat" Amount.anyCodec none <|
    Layout.defaulted "amount_received_msat" Amount.anyCodec none <|
    Layout.required "status" InvoiceStatus.codec <|
    Layout.defaulted "description" Codec.text "" <|
    Layout.required "expires_at" Codec.word64 <|
    Layout.required "created_index" (Codec.optional Codec.word64) <|
    Layout.required "pay_index" (Codec.optional Codec.word64) <|
    Layout.required "paid_at" (Codec.optional Codec.word64) <|
    Layout.done

def ReportedInvoice.codec : Codec ReportedInvoice :=
  .record "InvoiceEntry" layout
    (fun (label, bolt11, paymentHash, amount, amountReceived, status, description, expiresAt,
      createdIndex, payIndex, paidAt, ()) =>
      { label, bolt11, paymentHash, amount, amountReceived, status, description, expiresAt,
        createdIndex, payIndex, paidAt })
    (fun value => (value.label, value.bolt11, value.paymentHash, value.amount, value.amountReceived,
      value.status, value.description, value.expiresAt, value.createdIndex, value.payIndex,
      value.paidAt, ()))

/-- All invoices. -/
structure InvoiceListing where
  invoices : List ReportedInvoice
  deriving Repr, BEq, DecidableEq

def InvoiceListing.layout :=
  Layout.defaulted "invoices" (Codec.list ReportedInvoice.codec) [] <|
    Layout.done

def InvoiceListing.codec : Codec InvoiceListing :=
  .record "ListInvoices" layout
    (fun (invoices, ()) =>
      { invoices })
    (fun value => (value.invoices, ()))

/-- What the daemon answers when it has created an invoice. -/
structure CreatedInvoice where
  bolt11 : String
  paymentHash : String
  expiresAt : UInt64
  createdIndex : Option UInt64
  deriving Repr, BEq, DecidableEq

def CreatedInvoice.layout :=
  Layout.required "bolt11" Codec.text <|
    Layout.required "payment_hash" Codec.text <|
    Layout.required "expires_at" Codec.word64 <|
    Layout.required "created_index" (Codec.optional Codec.word64) <|
    Layout.done

def CreatedInvoice.codec : Codec CreatedInvoice :=
  .record "InvoiceCreated" layout
    (fun (bolt11, paymentHash, expiresAt, createdIndex, ()) =>
      { bolt11, paymentHash, expiresAt, createdIndex })
    (fun value => (value.bolt11, value.paymentHash, value.expiresAt, value.createdIndex, ()))

namespace ReportedInvoice

def state (invoice : ReportedInvoice) : InvoiceState :=
  match invoice.status with
  | .unpaid => .unpaid
  | .paid => .settled
  | .expired => .expired

/-- How the labels of invoices begin that payments without an invoice have created. -/
def keysendLabel : String := "keysend-"

/-- The invoice as callers see it. What is said about its settlement counts only if it is paid. -/
def toInvoice (invoice : ReportedInvoice) : Invoice :=
  let settled := invoice.state == .settled
  { paymentRequest := invoice.bolt11
    paymentHash := invoice.paymentHash
    memo := invoice.description
    label := invoice.label
    value := invoice.amount
    amountPaid := invoice.amountReceived.getD 0
    expiryDate := invoice.expiresAt
    settleDate := if settled then invoice.paidAt else none
    addIndex := invoice.createdIndex.getD 0
    settleIndex := if settled then invoice.payIndex else none
    isKeysend := Text.beginsWith invoice.label keysendLabel
    state := invoice.state }

end ReportedInvoice

/-- A new invoice as callers see it. An amount of zero stands for any amount. -/
def CreatedInvoice.toInvoice (created : CreatedInvoice) (label memo : String) (value : Msat)
    (isKeysend : Bool) : Invoice where
  paymentRequest := some created.bolt11
  paymentHash := created.paymentHash
  memo := memo
  label := label
  value := if 0 < value then some value else none
  amountPaid := 0
  expiryDate := created.expiresAt
  settleDate := none
  addIndex := created.createdIndex.getD 0
  settleIndex := none
  isKeysend := isKeysend
  state := .unpaid

end LightningGateway.Daemon
