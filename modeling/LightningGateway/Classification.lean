import LightningGateway.Failure
import LightningGateway.Logging
import LightningGateway.Operation
import LightningGateway.Transport.Error

/-!
# Classification of errors

A transport error becomes a failure in three stages: a daemon that cannot be reached or
refuses access is unavailable for every operation; otherwise rules look for known texts
in the detail, first those for a command line client without a daemon, then those of the
operation, then those for all operations; what no rule knows is an internal failure with
the detail as it is. Each classification reports one log event.
-/

namespace LightningGateway

/-- How a rule recognizes a detail. -/
inductive Pattern where
  | containing (text : String)
  | containingAll (texts : List String)
  | containingAny (texts : List String)
  deriving Repr, BEq, DecidableEq

def Pattern.fits (detail : String) : Pattern → Bool
  | containing text => Text.contains detail text
  | containingAll texts => texts.all (Text.contains detail)
  | containingAny texts => texts.any (Text.contains detail)

/-- How a rule words the detail of a failure. -/
inductive Wording where
  /-- The same text for every detail. -/
  | fixed (text : String)
  /-- The detail as it is. -/
  | unchanged
  /-- The message that is embedded in the detail. -/
  | embeddedMessage
  /-- The number of attempts that are mentioned in the detail. -/
  | routeAttempts
  deriving Repr, BEq, DecidableEq

namespace Wording

/-- The text after an embedded `message: "`, with a full stop for each `" }`. -/
def embedded (detail : String) : String :=
  match Text.splitOnce detail "message: \"" with
  | some (_, rest) => Text.replaceAll rest "\" \x7d" "."
  | none => detail

/-- The number that stands between `after` and `attempt`, as text. -/
def attempts (detail : String) : String :=
  match Text.splitOnce detail "Ran out of routes to try after " with
  | some (_, rest) =>
      match Text.splitOnce rest " attempt" with
      | some (number, _) => number
      | none => rest
  | none => "?"

def apply (detail : String) : Wording → String
  | fixed text => text
  | unchanged => detail
  | embeddedMessage => embedded detail
  | routeAttempts => "Ran out of routes to try after " ++ attempts detail ++ " attempts."

end Wording

/-- A rule that turns details of a kind into failures of a kind. -/
structure Rule where
  pattern : Pattern
  kind : FailureKind
  wording : Wording
  deriving Repr, BEq, DecidableEq

namespace Rule

/-- Rules for a command line client that does not reach the daemon. -/
def unreachable : List Rule :=
  [⟨.containingAll ["Connecting to", "Connection refused"], .unavailable,
      .fixed "Unable to connect to lightning-cli: Connection refused."⟩,
    ⟨.containingAll ["Connecting to", "No such file or directory"], .unavailable,
      .fixed "Unable to connect to lightning-cli: RPC socket not found."⟩]

def general : List Rule :=
  [⟨.containing "Received RST_STREAM with error code 8", .internal,
      .fixed "The node is responding with an error. Please check the logs."⟩,
    ⟨.containingAll ["lightning-rpc", "Permission denied"], .unavailable,
      .fixed "Unable to connect to lightning-cli: Permission denied."⟩,
    ⟨.containingAll ["Moving into", "No such file or directory"], .unavailable,
      .fixed "Unable to connect to lightning-cli: API can't access lightning-cli."⟩]

def sendCoins : List Rule :=
  [⟨.containing "Could not parse destination address", .invalidArgument,
      .fixed "Could not parse destination address, destination should be a valid address."⟩,
    ⟨.containingAll ["UTXO", "already reserved"], .internal,
      .fixed "Server tried to use a reserved UTXO. Please submit an issue."⟩,
    ⟨.containing "insufficient funds available", .preconditionFailed, .unchanged⟩]

def sendPayment : List Rule :=
  [⟨.containing "Ran out of routes to try after", .unprocessable, .routeAttempts⟩,
    ⟨.containing "Invalid bolt11: ", .invalidArgument, .fixed "invalid bech32 string"⟩,
    ⟨.containing "amount_msat parameter required", .invalidArgument,
      .fixed "amount must be specified when paying a zero amount invoice"⟩,
    ⟨.containing "amount_msat parameter unnecessary", .invalidArgument,
      .fixed "amount must not be specified when paying a non-zero amount invoice"⟩]

def decodePayRequest : List Rule :=
  [⟨.containing "Invalid bolt11: Bad bech32 string", .invalidArgument,
      .fixed "Invalid bolt11: Bad bech32 string"⟩]

def connectPeer : List Rule :=
  [⟨.containing "All addresses failed", .invalidArgument, .embeddedMessage⟩,
    ⟨.containing "no address known for peer", .invalidArgument,
      .fixed "Connection establishment: No address known for peer"⟩,
    ⟨.containing "Connection timed out", .timeout,
      .fixed "Connection establishment: Connection timed out."⟩,
    ⟨.containing "Connection refused", .timeout,
      .fixed "Connection establishment: Connection refused."⟩]

def openChannel : List Rule :=
  [⟨.containing "amount: should be a satoshi amount", .invalidArgument,
      .fixed "The amount is not a valid satoshi amount."⟩,
    ⟨.containing "Unknown peer", .internal,
      .fixed ("We were able to connect to the peer but the node can't find it when opening " ++
        "a channel.")⟩,
    ⟨.containing "Owning subdaemon openingd died", .invalidArgument,
      .fixed ("Likely the peer didn't like our channel opening proposal and disconnected " ++
        "from us.")⟩,
    ⟨.containingAny
        ["Number of pending channels exceed maximum", "exceeds maximum chan size of 10 BTC",
          "Could not afford all using all ", "BTC is below min chan size of"],
      .invalidArgument, .embeddedMessage⟩]

def closeChannel : List Rule :=
  [⟨.containing "Channel is in state AWAITING_UNILATERAL", .invalidArgument,
      .fixed "Channel is awaiting an unilateral close."⟩]

def ofOperation : Operation → List Rule
  | .sendCoins => sendCoins
  | .sendPayment => sendPayment
  | .decodePayRequest => decodePayRequest
  | .connectPeer => connectPeer
  | .openChannel => openChannel
  | .closeChannel => closeChannel
  | _ => []

/-- All rules that apply to an operation, in the order in which they are tried. -/
def applicable (operation : Operation) : List Rule :=
  unreachable ++ ofOperation operation ++ general

end Rule

/-- A failure together with the log event that reports its classification. -/
structure Classification where
  failure : Failure
  event : LogEvent
  deriving Repr, BEq, DecidableEq

namespace Classification

def ofDetail (operation : Operation) (detail : String) : Classification :=
  match (Rule.applicable operation).find? fun rule => rule.pattern.fits detail with
  | some rule =>
      { failure := ⟨rule.kind, rule.wording.apply detail⟩
        event :=
          { level := .debug
            message := "classified backend error: " ++ detail
            operation := operation.name
            kind := some rule.kind.name } }
  | none =>
      { failure := ⟨.internal, detail⟩
        event :=
          { level := .error
            message := "unclassified backend error: " ++ detail
            operation := operation.name
            kind := none } }

def ofError (operation : Operation) : TransportError → Classification
  | .connect detail =>
      { failure := ⟨.unavailable, "Daemon unreachable: " ++ detail⟩
        event := ⟨.warn, "daemon unreachable: " ++ detail, operation.name, none⟩ }
  | .permissionDenied detail =>
      { failure := ⟨.unavailable, "Permission denied: " ++ detail⟩
        event := ⟨.error, "permission denied: " ++ detail, operation.name, none⟩ }
  | error => ofDetail operation error.detail

end Classification

def Failure.ofError (operation : Operation) (error : TransportError) : Failure :=
  (Classification.ofError operation error).failure

end LightningGateway
