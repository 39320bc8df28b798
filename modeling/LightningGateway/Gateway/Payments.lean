import LightningGateway.Gateway.Listings

/-!
# Invoices and payments

Issuing invoices, and decoding and paying those of others.
-/

namespace LightningGateway.Gateway

/-- How the daemon wants the amount of an invoice. Zero stands for any amount. -/
def invoiceAmount (value : Msat) : Json :=
  if value = 0 then .string "any" else .ofWord value

def addInvoice (value : Msat) (memo : String) (expiry : UInt64) (isKeysend : Bool) :
    Gateway Invoice := do
  let label ← ask .label
  let created ← call .addInvoice Daemon.CreatedInvoice.codec "invoice"
    (.object [("amount_msat", invoiceAmount value), ("label", .string label),
      ("description", .string memo), ("expiry", .ofWord expiry)])
  return created.toInvoice label memo value isKeysend

def decodePayRequest (request : String) : Gateway PaymentRequest :=
  decode .decodePayRequest request

/-- The description of a payment request that was decoded before. -/
def rememberedDescription (request : String) : Gateway String :=
  modifyGet fun session =>
    let (decoded, requests) := session.requests.get request
    ((decoded.map PaymentRequest.description).getD "", { session with requests })

def sendPayment (request : String) (timeoutSeconds : UInt32) (feeLimit : Msat)
    (amount : Option Msat) : Gateway Payment := do
  let parameters : Json := .object <|
    [("bolt11", .string request), ("maxfee", .ofWord feeLimit),
      ("retry_for", .ofNat timeoutSeconds.toNat)] ++
    (match amount with
      | some amount => [("amount_msat", .ofWord amount)]
      | none => [])
  let sent ← call .sendPayment Daemon.SentPayment.codec "pay" parameters
  return sent.toPayment request feeLimit (← rememberedDescription request)

end LightningGateway.Gateway
