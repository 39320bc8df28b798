import LightningGateway.Config.Error
import LightningGateway.Config.Sections
import LightningGateway.FileSystem
import LightningGateway.Text.Blank
import LightningGateway.Text.Quoted

/-!
# Validation

A configuration is checked section by section before any attempt to connect. The first
thing that is wrong is the error.
-/

namespace LightningGateway.Config

def networks : List String := ["bitcoin", "mainnet", "testnet", "signet", "regtest"]

/-- The characters of a rune: letters, digits and the others of its encoding. -/
def isRuneCharacter (character : Char) : Bool :=
  ('a' ≤ character && character ≤ 'z') || ('A' ≤ character && character ≤ 'Z') ||
    ('0' ≤ character && character ≤ '9') || character == '-' || character == '_' ||
    character == '='

def checkBackend (backend : BackendConfig) : Except ConfigError Unit :=
  if backend.network ∈ networks then .ok ()
  else .error (.invalidValue "backend.network" ("unknown network " ++ Text.quoted backend.network))

def checkFile (files : FileSystem) (field path : String) : Except ConfigError Unit :=
  if files.isFile path then .ok ()
  else .error (.invalidCredential field (path ++ " is not a readable file"))

def checkRune (rune : Option String) : Except ConfigError Unit :=
  match rune with
  | none => .error (.missingField "core_lightning.rune")
  | some rune =>
      if Text.isBlankText rune then .error (.missingField "core_lightning.rune")
      else if rune.toList.all isRuneCharacter then .ok ()
      else .error (.invalidCredential "core_lightning.rune" "not a base64url string")

def checkDaemon (files : FileSystem) (daemon : DaemonConfig) : Except ConfigError Unit :=
  match daemon.rpcSocket, daemon.restUrl with
  | some socket, _ =>
      if socket = "" then .error (.missingField "core_lightning.rpc_socket") else .ok ()
  | none, some url =>
      if !(Text.beginsWith url "https://" || Text.beginsWith url "http://") then
        .error (.invalidValue "core_lightning.rest_url" "must be an http(s) URL")
      else
        match checkRune daemon.rune with
        | .error error => .error error
        | .ok () =>
            match daemon.caCert with
            | some path => checkFile files "core_lightning.ca_cert" path
            | none => .ok ()
  | none, none =>
      .error (.missingField "core_lightning.rpc_socket or core_lightning.rest_url")

def checkChainServer (files : FileSystem) (server : ChainServerConfig) : Except ConfigError Unit :=
  if Text.isBlankText server.rpcUrl then .error (.missingField "bitcoind.rpc_url")
  else
    match server.rpcUser, server.rpcPassword, server.cookie with
    | some _, some _, _ => .ok ()
    | some _, none, none | none, some _, none =>
        .error (.invalidCredential "bitcoind.rpc_user/rpc_password"
          "both username and password are required")
    | _, _, some cookie => checkFile files "bitcoind.cookie" cookie
    | none, none, none =>
        .error (.missingField "bitcoind.rpc_user/rpc_password or bitcoind.cookie")

def checkLimits (config : Config) : Except ConfigError Unit :=
  if config.connection.retryDelay = 0 then
    .error (.invalidValue "connection.retry_delay_ms" "must be positive")
  else if config.subscriptions.pollInterval ≤ 100 then
    .error (.invalidValue "subscriptions.forward_poll_interval_ms" "must be greater than 100")
  else if config.cache.requestCapacity = 0 ∨ config.cache.blockCapacity = 0 then
    .error (.invalidValue "cache" "capacities must be positive")
  else .ok ()

def validate (files : FileSystem) (config : Config) : Except ConfigError Unit := do
  checkBackend config.backend
  checkDaemon files config.daemon
  match config.chainServer with
  | some server => checkChainServer files server
  | none => .ok ()
  checkLimits config

end LightningGateway.Config
