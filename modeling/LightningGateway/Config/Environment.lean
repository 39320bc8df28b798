import LightningGateway.Binary64.Numeral
import LightningGateway.Config.Error
import LightningGateway.Config.Sections
import LightningGateway.Text.Blank
import LightningGateway.Text.Quoted
import LightningGateway.Word

/-!
# Environment variables

Variables of the environment go before the settings of a file. A variable that holds
nothing but blanks counts as not set, except the one that is read as a number.
-/

namespace LightningGateway

/-- The environment of a program. -/
structure Environment where
  entries : List (String × String)
  /-- The home directory of the account, for want of a variable. -/
  accountHome : Option String
  deriving Repr

namespace Environment

def get? (environment : Environment) (name : String) : Option String :=
  environment.entries.lookup name

/-- The value of a variable that does not only hold blanks. -/
def filled? (environment : Environment) (name : String) : Option String :=
  (environment.get? name).filter fun value => !Text.isBlankText value

/-- The value of a variable that does not only hold blanks, or else a value that was there
before. -/
def orKeep (environment : Environment) (name : String) (kept : Option String) : Option String :=
  environment.filled? name <|> kept

/-- The variable that gives the interval between two fetches in seconds. -/
def intervalVariable : String := "GATHER_LN_INFO_INTERVAL"

/-- Milliseconds of a positive number of seconds, rounded. -/
def milliseconds (seconds : Binary64) : UInt64 :=
  match seconds.mul (Binary64.ofNat 1000) with
  | some product => Word.clamp product.roundHalfUp
  | none => Word.largest

/-- The interval in milliseconds, if the variable is set. -/
def interval? (environment : Environment) : Except ConfigError (Option UInt64) :=
  match environment.get? intervalVariable with
  | none => .ok none
  | some value =>
      match Binary64.readNumeral? (Text.trimmed value.toList) with
      | none => .error (.invalidValue intervalVariable ("cannot parse " ++ Text.quoted value))
      | some (.finite seconds) =>
          if seconds.isPositive then .ok (some (milliseconds seconds))
          else .error (.invalidValue intervalVariable "must be a positive number of seconds")
      | some _ => .error (.invalidValue intervalVariable "must be a positive number of seconds")

end Environment

namespace Config

/-- The section of the daemon with the variables for it. -/
def applyDaemon (environment : Environment) (daemon : DaemonConfig) : DaemonConfig :=
  { daemon with
    rpcSocket := environment.orKeep "CLN_RPC_SOCKET" daemon.rpcSocket
    restUrl := environment.orKeep "CLN_REST_URL" daemon.restUrl
    rune := environment.orKeep "CLN_RUNE" daemon.rune
    caCert := environment.orKeep "CLN_CA_CERT" daemon.caCert }

/-- The section of the chain server with the variables for it; a variable alone makes a
section. -/
def applyChainServer (environment : Environment) (chainServer : Option ChainServerConfig) :
    Option ChainServerConfig :=
  let located :=
    match environment.filled? "BITCOIND_RPC_URL", chainServer with
    | some url, some server => some { server with rpcUrl := url }
    | some url, none => some { rpcUrl := url, rpcUser := none, rpcPassword := none, cookie := none }
    | none, server => server
  located.map fun server =>
    { server with
      rpcUser := environment.orKeep "BITCOIND_RPC_USER" server.rpcUser
      rpcPassword := environment.orKeep "BITCOIND_RPC_PASSWORD" server.rpcPassword
      cookie := environment.orKeep "BITCOIND_COOKIE" server.cookie }

def applyEnvironment (environment : Environment) (config : Config) : Except ConfigError Config :=
  environment.interval?.map fun interval =>
    { config with
      daemon := applyDaemon environment config.daemon
      backend :=
        { config.backend with
          network := (environment.filled? "LN_NETWORK").getD config.backend.network }
      subscriptions :=
        { config.subscriptions with
          pollInterval := interval.getD config.subscriptions.pollInterval }
      chainServer := applyChainServer environment config.chainServer }

end Config

end LightningGateway
