import LightningGateway.CommandLine.Arguments
import LightningGateway.CommandLine.Job

/-!
# Commands

The commands with their options, and reading a whole command line. Two options may stand
before or after the name of the command; a value after it goes before one before it.
-/

namespace LightningGateway

/-- A command line that was understood. -/
structure Invocation where
  /-- The path of the configuration file. -/
  config : Option String
  logLevel : Option String
  command : Command
  deriving Repr, BEq, DecidableEq

/-- A command with its arguments. -/
structure CommandForm where
  name : String
  options : List (String × OptionKind)
  positional : Option String
  required : List String
  /-- The command that given arguments make. -/
  build : Arguments → Command

namespace CommandForm

def plain (name : String) (options : List (String × OptionKind)) (build : Arguments → Command) :
    CommandForm :=
  ⟨name, options, none, [], build⟩

def withPositional (name positional : String) (options : List (String × OptionKind))
    (build : Arguments → Command) : CommandForm :=
  ⟨name, options, some positional, [], build⟩

end CommandForm

namespace Arguments

/-- The text of an argument, empty if it is not given. -/
def text (arguments : Arguments) (name : String) : String :=
  (arguments.value? name).getD ""

/-- The number of 64 bits of an option, if it is given. -/
def word64? (arguments : Arguments) (name : String) : Option UInt64 :=
  (arguments.value? name).bind OptionKind.word64?

/-- The number of 32 bits of an option, if it is given. -/
def word32? (arguments : Arguments) (name : String) : Option UInt32 :=
  (arguments.value? name).bind OptionKind.word32?

def page (arguments : Arguments) : Page where
  offset := (arguments.word64? "offset").getD 0
  limit := (arguments.word64? "limit").getD 0
  reversed := arguments.has "reversed"

end Arguments

namespace Command

def pageOptions : List (String × OptionKind) :=
  [("offset", .word64), ("limit", .word64), ("reversed", .flag)]

def listings : List CommandForm :=
  [.plain "list-tx" (("successful-only", .flag) :: pageOptions) fun arguments =>
      .perform (.listAll (arguments.has "successful-only") arguments.page),
    .plain "list-invoices" (("pending-only", .flag) :: pageOptions) fun arguments =>
      .perform (.listInvoices (arguments.has "pending-only") arguments.page),
    .plain "list-onchain" [] fun _ => .perform .listOnChain,
    .plain "list-payments" (("include-incomplete", .flag) :: pageOptions) fun arguments =>
      .perform (.listPayments (arguments.has "include-incomplete") arguments.page),
    .plain "channels" [] fun _ => .perform .listChannels]

def nodeCommands : List CommandForm :=
  [.plain "init" [] fun _ => .init,
    .plain "info" [] fun _ => .perform .nodeInfo,
    .plain "balance" [] fun _ => .perform .walletBalance,
    .plain "fee-revenue" [] fun _ => .perform .feeRevenue,
    .withPositional "unlock" "password" [] fun arguments =>
      .perform (.unlockWallet (arguments.text "password")),
    .withPositional "connect" "uri" [] fun arguments =>
      .perform (.connectPeer (arguments.text "uri")),
    .withPositional "alias" "node_pub" [] fun arguments =>
      .perform (.resolveAlias (arguments.text "node_pub"))]

def paymentCommands : List CommandForm :=
  [.plain "add-invoice"
      [("amount-msat", .word64), ("memo", .text), ("expiry", .word64), ("keysend", .flag)]
      fun arguments =>
        .perform (.addInvoice ((arguments.word64? "amount-msat").getD 0) (arguments.text "memo")
          ((arguments.word64? "expiry").getD 3600) (arguments.has "keysend")),
    .withPositional "decode" "pay_req" [] fun arguments =>
      .perform (.decodePayRequest (arguments.text "pay_req")),
    .withPositional "pay" "pay_req"
      [("timeout-secs", .word32), ("fee-limit-msat", .word64), ("amount-msat", .word64)]
      fun arguments =>
        .perform (.sendPayment (arguments.text "pay_req")
          ((arguments.word32? "timeout-secs").getD 60)
          ((arguments.word64? "fee-limit-msat").getD 0) (arguments.word64? "amount-msat")),
    .plain "watch-invoices" [] fun _ => .watchInvoices,
    .plain "watch-forwards" [] fun _ => .watchForwards]

def sendCoinsInput (arguments : Arguments) : SendCoinsInput where
  address := arguments.text "address"
  amount := (arguments.word64? "amount-msat").getD 0
  targetConfirmations := arguments.word32? "target-conf"
  satPerVbyte := arguments.word64? "sat-per-vbyte"
  minConfirmations := arguments.word32? "min-confs"
  label := arguments.text "label"
  sendAll := arguments.has "send-all"

def walletCommands : List CommandForm :=
  [.plain "new-address" [("type", .addressType)] fun arguments =>
      .perform (.newAddress ⟨((arguments.value? "type").bind OptionKind.addressType?).getD .p2wkh⟩),
    .withPositional "send-coins" "address"
      [("amount-msat", .word64), ("target-conf", .word32), ("sat-per-vbyte", .word64),
        ("min-confs", .word32), ("label", .text), ("send-all", .flag)]
      fun arguments => .perform (.sendCoins (sendCoinsInput arguments)),
    ⟨"open-channel", [("amount-msat", .word64), ("target-confs", .word32)], some "node_uri",
      ["amount-msat"], fun arguments =>
        .perform (.openChannel ((arguments.word64? "amount-msat").getD 0)
          (arguments.text "node_uri") ((arguments.word32? "target-confs").getD 0))⟩,
    .withPositional "close-channel" "channel_id" [("force", .flag)] fun arguments =>
      .perform (.closeChannel (arguments.text "channel_id") (arguments.has "force"))]

def forms : List CommandForm := nodeCommands ++ listings ++ paymentCommands ++ walletCommands

def form? (name : String) : Option CommandForm := forms.find? fun form => form.name == name

end Command

namespace Invocation

def sharedOptions : List (String × OptionKind) := [("config", .path), ("log-level", .text)]

def leadingForm : ArgumentForm := ⟨sharedOptions, none, [], true⟩

def formOf (form : CommandForm) : ArgumentForm :=
  ⟨form.options ++ sharedOptions, form.positional, form.required, false⟩

/-- The invocation of a command with arguments, after other arguments before its name. -/
def ofCommand (form : CommandForm) (leading : Arguments) (rest : List String) :
    Except UsageError Invocation := do
  let arguments ← Arguments.read (formOf form) rest
  let leading ← leading.resolve leadingForm
  let shared (name : String) : Option String := arguments.value? name <|> leading.value? name
  return ⟨shared "config", shared "log-level", form.build arguments⟩

/-- What the command `help` answers: help for a command, all others do not have commands of their
own. -/
def help : List String → UsageError
  | [] => .displayHelp
  | [name] =>
      if name = "help" ∨ (Command.form? name).isSome then .displayHelp else .invalidSubcommand
  | _ => .invalidSubcommand

/-- The error for a word that stands where no argument is expected. -/
def unexpected (trailing : Bool) (word : String) : UsageError :=
  if trailing ∧ (word = "help" ∨ (Command.form? word).isSome) then .unknownArgument
  else .invalidSubcommand

/-- Reads arguments, given those before. -/
def readFrom : List String → Arguments → Except UsageError Invocation
  | [], leading => do
      let leading ← leading.resolve leadingForm
      throw (if leading.given.isEmpty then .nothingGiven else .missingSubcommand)
  | word :: rest, leading =>
      let isName := !leading.trailing && !leading.awaiting
      match (if isName then Command.form? word else none) with
      | some form => ofCommand form leading rest
      | none =>
          if isName && word == "help" then .error (help rest)
          else
            let isOption := word == "--" || (Arguments.longOption? word).isSome ||
              (Arguments.shortOption? word).isSome
            if leading.trailing || (!isOption && !leading.awaiting) then
              .error (unexpected leading.trailing word)
            else
              match leading.take leadingForm word with
              | .error error => .error error
              | .ok leading => readFrom rest leading

def read (arguments : List String) : Except UsageError Invocation :=
  readFrom arguments .nothing

end Invocation

end LightningGateway
