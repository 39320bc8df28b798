import LightningGateway.Implementation
import LightningGateway.Json.Record

/-!
# The configuration

The sections of the configuration with the names and the standard values of their
settings. Every section but the one of the chain server may be left out.
-/

namespace LightningGateway

/-- Which node is driven. -/
structure BackendConfig where
  implementation : Implementation
  network : String
  deriving Repr, BEq, DecidableEq

def BackendConfig.layout :=
  Layout.defaulted "implementation" Implementation.codec .coreLightning <|
    Layout.defaulted "network" Codec.text "bitcoin" <|
    Layout.done

def BackendConfig.codec : Codec BackendConfig :=
  .record "BackendConfig" layout
    (fun (implementation, network, ()) =>
      { implementation, network })
    (fun value => (value.implementation, value.network, ()))

/-- How the daemon is reached: over its socket if that is given, over HTTP otherwise. -/
structure DaemonConfig where
  rpcSocket : Option String
  restUrl : Option String
  /-- What authorizes calls over HTTP. -/
  rune : Option String
  /-- The file of a certificate that is trusted besides the usual ones. -/
  caCert : Option String
  /-- The command line client. -/
  cliPath : String
  deriving Repr, BEq, DecidableEq

def DaemonConfig.layout :=
  Layout.defaulted "rpc_socket" (Codec.optional Codec.text) none <|
    Layout.defaulted "rest_url" (Codec.optional Codec.text) none <|
    Layout.defaulted "rune" (Codec.optional Codec.text) none <|
    Layout.defaulted "ca_cert" (Codec.optional Codec.text) none <|
    Layout.defaulted "cli_path" Codec.text "lightning-cli" <|
    Layout.done

def DaemonConfig.codec : Codec DaemonConfig :=
  .record "CoreLightningConfig" layout
    (fun (rpcSocket, restUrl, rune, caCert, cliPath, ()) =>
      { rpcSocket, restUrl, rune, caCert, cliPath })
    (fun value => (value.rpcSocket, value.restUrl, value.rune, value.caCert, value.cliPath, ()))

/-- How the chain server is reached. -/
structure ChainServerConfig where
  rpcUrl : String
  rpcUser : Option String
  rpcPassword : Option String
  /-- The file that holds user and password if they are not given. -/
  cookie : Option String
  deriving Repr, BEq, DecidableEq

def ChainServerConfig.layout :=
  Layout.required "rpc_url" Codec.text <|
    Layout.defaulted "rpc_user" (Codec.optional Codec.text) none <|
    Layout.defaulted "rpc_password" (Codec.optional Codec.text) none <|
    Layout.defaulted "cookie" (Codec.optional Codec.text) none <|
    Layout.done

def ChainServerConfig.codec : Codec ChainServerConfig :=
  .record "BitcoindConfig" layout
    (fun (rpcUrl, rpcUser, rpcPassword, cookie, ()) =>
      { rpcUrl, rpcUser, rpcPassword, cookie })
    (fun value => (value.rpcUrl, value.rpcUser, value.rpcPassword, value.cookie, ()))

/-- How the connection is made. -/
structure ConnectionConfig where
  /-- Milliseconds between two attempts while the daemon cannot be reached. -/
  retryDelay : UInt64
  deriving Repr, BEq, DecidableEq

def ConnectionConfig.layout :=
  Layout.defaulted "retry_delay_ms" Codec.word64 2000 <|
    Layout.done

def ConnectionConfig.codec : Codec ConnectionConfig :=
  .record "ConnectionConfig" layout
    (fun (retryDelay, ()) =>
      { retryDelay })
    (fun value => (value.retryDelay, ()))

/-- How subscriptions work. -/
structure SubscriptionConfig where
  /-- Milliseconds between two fetches of the listing of forwards. -/
  pollInterval : UInt64
  deriving Repr, BEq, DecidableEq

def SubscriptionConfig.layout :=
  Layout.defaulted "forward_poll_interval_ms" Codec.word64 2000 <|
    Layout.done

def SubscriptionConfig.codec : Codec SubscriptionConfig :=
  .record "SubscriptionConfig" layout
    (fun (pollInterval, ()) =>
      { pollInterval })
    (fun value => (value.pollInterval, ()))

/-- How much is remembered. -/
structure CacheConfig where
  /-- The number of decoded payment requests. -/
  requestCapacity : UInt64
  /-- The number of block times. -/
  blockCapacity : UInt64
  deriving Repr, BEq, DecidableEq

def CacheConfig.layout :=
  Layout.defaulted "pay_request_capacity" Codec.size 1024 <|
    Layout.defaulted "block_capacity" Codec.size 4096 <|
    Layout.done

def CacheConfig.codec : Codec CacheConfig :=
  .record "CacheConfig" layout
    (fun (requestCapacity, blockCapacity, ()) =>
      { requestCapacity, blockCapacity })
    (fun value => (value.requestCapacity, value.blockCapacity, ()))

/-- What is logged, and where. -/
structure LogConfig where
  level : String
  file : Option String
  deriving Repr, BEq, DecidableEq

def LogConfig.layout :=
  Layout.defaulted "level" Codec.text "info" <|
    Layout.defaulted "file" (Codec.optional Codec.text) none <|
    Layout.done

def LogConfig.codec : Codec LogConfig :=
  .record "LoggingConfig" layout
    (fun (level, file, ()) =>
      { level, file })
    (fun value => (value.level, value.file, ()))

def BackendConfig.standard : BackendConfig where
  implementation := .coreLightning
  network := "bitcoin"

def DaemonConfig.standard : DaemonConfig where
  rpcSocket := none
  restUrl := none
  rune := none
  caCert := none
  cliPath := Implementation.coreLightning.commandLineClient

def ConnectionConfig.standard : ConnectionConfig where
  retryDelay := 2000

def SubscriptionConfig.standard : SubscriptionConfig where
  pollInterval := 2000

def CacheConfig.standard : CacheConfig where
  requestCapacity := 1024
  blockCapacity := 4096

def LogConfig.standard : LogConfig where
  level := "info"
  file := none

/-- The configuration of the gateway. -/
structure Config where
  backend : BackendConfig
  daemon : DaemonConfig
  /-- Block times are asked for only if there is a chain server. -/
  chainServer : Option ChainServerConfig
  connection : ConnectionConfig
  subscriptions : SubscriptionConfig
  cache : CacheConfig
  logging : LogConfig
  deriving Repr, BEq, DecidableEq

def Config.layout :=
  Layout.defaulted "backend" BackendConfig.codec .standard <|
    Layout.defaulted "core_lightning" DaemonConfig.codec .standard <|
    Layout.defaulted "bitcoind" (Codec.optional ChainServerConfig.codec) none <|
    Layout.defaulted "connection" ConnectionConfig.codec .standard <|
    Layout.defaulted "subscriptions" SubscriptionConfig.codec .standard <|
    Layout.defaulted "cache" CacheConfig.codec .standard <|
    Layout.defaulted "logging" LogConfig.codec .standard <|
    Layout.done

def Config.codec : Codec Config :=
  .record "Config" layout
    (fun (backend, daemon, chainServer, connection, subscriptions, cache, logging, ()) =>
      { backend, daemon, chainServer, connection, subscriptions, cache, logging })
    (fun value => (value.backend, value.daemon, value.chainServer, value.connection,
      value.subscriptions, value.cache, value.logging, ()))

def Config.standard : Config where
  backend := .standard
  daemon := .standard
  chainServer := none
  connection := .standard
  subscriptions := .standard
  cache := .standard
  logging := .standard

end LightningGateway
