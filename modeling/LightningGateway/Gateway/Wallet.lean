import LightningGateway.Daemon.Answers
import LightningGateway.Daemon.Funds
import LightningGateway.Gateway.Session

/-!
# The wallet on chain

Balances, new addresses and sending coins. Coins are sent only after the outputs of the
wallet were seen and found to be enough.
-/

namespace LightningGateway

def AddressType.daemonName : AddressType → String
  | p2wkh => "bech32"
  | p2tr => "p2tr"

def Daemon.FreshAddress.ofType (answer : Daemon.FreshAddress) : AddressType → Option String
  | .p2wkh => answer.bech32
  | .p2tr => answer.p2tr

/-- How the daemon wants a fee rate. It takes numbers per thousand virtual bytes. -/
def FeeRate.daemonText : FeeRate → String
  | urgent => "urgent"
  | normal => "normal"
  | slow => "slow"
  | satPerVbyte rate => Text.numeral (Word.times rate 1000).toNat ++ "perkb"

namespace Gateway

def fetchFunds (operation : Operation) : Gateway Daemon.Funds :=
  call operation Daemon.Funds.codec "listfunds" (.object [])

def walletBalance : Gateway WalletBalance := do
  return (← fetchFunds .walletBalance).balance

/-- Unlocks the wallet. The daemon has no lock, so there is nothing to do. -/
def unlockWallet (_password : String) : Gateway Bool := return true

def newAddress (input : NewAddressInput) : Gateway String := do
  let answer ← call .newAddress Daemon.FreshAddress.codec "newaddr"
    (.object [("addresstype", .string input.addressType.daemonName)])
  match answer.ofType input.addressType with
  | some address => return address
  | none => fail .internal ("newaddr returned no " ++ input.addressType.daemonName ++ " address")

/-- How the daemon wants the amount to send: all, or whole satoshis. -/
def satoshiText (input : SendCoinsInput) : Except AmountError String :=
  if input.sendAll then .ok "all"
  else (Amount.toWholeSat input.amount).map fun sat => Text.numeral sat.toNat ++ "sat"

def outpoint (output : Daemon.Output) : String :=
  output.txid ++ ":" ++ Text.numeral output.position.toNat

def shortage (input : SendCoinsInput) (reason : String) : Gateway Unit :=
  fail .preconditionFailed
    ("Could not afford " ++ Text.numeral (Amount.toSat input.amount).toNat ++ "sat. " ++ reason)

def withdrawal (input : SendCoinsInput) (satoshi : String) (outputs : List Daemon.Output) : Json :=
  .object <|
    [("destination", .string input.address), ("satoshi", .string satoshi),
      ("utxos", .ofTexts (outputs.map outpoint))] ++
    (match input.feeRate with
      | some rate => [("feerate", .string rate.daemonText)]
      | none => []) ++
    (match input.minConfirmations with
      | some confirmations => [("minconf", .ofNat confirmations.toNat)]
      | none => [])

/-- Sends coins, and publishes that. -/
def sendCoins (input : SendCoinsInput) : Gateway SendCoinsResponse := do
  let funds ← fetchFunds .sendCoins
  if funds.outputs.isEmpty then
    shortage input "No UTXOs available at all"
  let available := Daemon.Funds.total (funds.outputs.map Daemon.Output.amount)
  if !input.sendAll && available ≤ input.amount then
    shortage input "Not enough funds available"
  match satoshiText input with
  | .error error => fail .invalidArgument error.message
  | .ok satoshi =>
      let answer ← call .sendCoins Daemon.Withdrawal.codec "withdraw"
        (withdrawal input satoshi funds.outputs)
      let response : SendCoinsResponse :=
        { txid := answer.txid
          address := input.address
          amount := if input.sendAll then 0 else input.amount
          label := input.label
          sendAll := input.sendAll }
      ask (.publish (.onchainPaymentStatus response))
      return response

end Gateway

end LightningGateway
