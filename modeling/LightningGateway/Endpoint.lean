import LightningGateway.Config.Validation
import LightningGateway.Failure
import LightningGateway.Gateway.Session
import LightningGateway.Transport.Certificate
import LightningGateway.Transport.Credentials

/-!
# Endpoints

Where the daemon and the chain server are reached, as the configuration says it.
-/

namespace LightningGateway

/-- Where the daemon accepts calls. -/
inductive Endpoint where
  | socket (path : String)
  /-- Over HTTP, authorized by a rune. -/
  | rest (url rune : String) (caCert : Option String)
  deriving Repr, BEq, DecidableEq

namespace Endpoint

/-- The endpoint that is configured; a socket goes before HTTP. -/
def ofConfig (daemon : DaemonConfig) : Except Failure Endpoint :=
  match daemon.rpcSocket, daemon.restUrl, daemon.rune with
  | some path, _, _ => .ok (.socket path)
  | none, some url, some rune => .ok (.rest url rune daemon.caCert)
  | _, _, _ =>
      .error ⟨.configInvalid,
        "core_lightning: either rpc_socket or rest_url and rune must be set"⟩

def describe : Endpoint → String
  | socket path => "lightning-rpc at " ++ path
  | rest url _ _ => "clnrest at " ++ url

def baseUrl (url : String) : String :=
  String.ofList (url.toList.reverse.dropWhile (· == '/')).reverse

/-- Makes ready to call the endpoint. Returns its name. -/
def connect (files : FileSystem) : Endpoint → Except TransportError String
  | socket path => .ok path
  | rest url _ caCert =>
      match caCert with
      | none => .ok (baseUrl url)
      | some path => (Certificate.load files path).map fun _ => baseUrl url

end Endpoint

def commandLineNetwork (network : String) : String :=
  if network = "mainnet" then "bitcoin" else network

namespace ChainServerConfig

/-- User and password for the chain server, if any are used. -/
def login (files : FileSystem) (server : ChainServerConfig) :
    Except Failure (Option Login) :=
  match server.rpcUser, server.rpcPassword, server.cookie with
  | some user, some password, _ => .ok (some ⟨user, password⟩)
  | _, _, some path =>
      match Login.ofCookieFile files path with
      | .ok login => .ok (some login)
      | .error error => .error ⟨.configInvalid, "bitcoind.cookie: " ++ error.message⟩
  | _, _, none => .ok none

end ChainServerConfig

/-- What a gateway needs to know, all of it checked. -/
structure Plan where
  endpoint : Endpoint
  /-- The command line client with the arguments that come first. -/
  client : String
  clientArguments : List String
  /-- The chain server with its login, if there is one. -/
  chainServer : Option (String × Option Login)
  settings : Settings
  session : Session
  deriving Repr

namespace Plan

def settingsOf (config : Config) : Settings where
  implementation := config.backend.implementation
  livenessMethod := config.backend.implementation.livenessMethod
  retryDelay := config.connection.retryDelay.toNat
  pollInterval := config.subscriptions.pollInterval.toNat
  hasChainServer := config.chainServer.isSome

/-- The arguments with which the command line client is always run. -/
def argumentsFor (config : Config) : List String :=
  ("--network=" ++ commandLineNetwork config.backend.network) ::
    (match config.daemon.rpcSocket with
      | some path => ["--rpc-file=" ++ path]
      | none => [])

def ofConfig (files : FileSystem) (config : Config) : Except Failure Plan := do
  match config.validate files with
  | .error error => throw ⟨.configInvalid, error.message⟩
  | .ok () =>
      let endpoint ← Endpoint.ofConfig config.daemon
      let chainServer ←
        match config.chainServer with
        | none => pure none
        | some server => do
            let login ← server.login files
            pure (some (server.rpcUrl, login))
      return {
        endpoint
        client := config.daemon.cliPath
        clientArguments := argumentsFor config
        chainServer
        settings := settingsOf config
        session :=
          .fresh config.cache.requestCapacity.toNat config.cache.blockCapacity.toNat }

/-- The implementations that can be driven, with what makes a plan for each of them. -/
def builders : List (Implementation × (FileSystem → Config → Except Failure Plan)) :=
  [(.coreLightning, ofConfig)]

/-- Makes a plan for the implementation that is configured. -/
def build (files : FileSystem) (config : Config) : Except Failure Plan :=
  match builders.lookup config.backend.implementation with
  | some builder => builder files config
  | none =>
      .error ⟨.configInvalid, "No backend registered for " ++ config.backend.implementation.name⟩

end Plan

end LightningGateway
