import LightningGateway.Amount
import LightningGateway.NodeInfo
import LightningGateway.Json.Record

/-!
# What the daemon says about itself

The information about the node, and the addresses at which others reach it.
-/

namespace LightningGateway.Daemon

/-- An address of the node. -/
structure Address where
  /-- Some kinds of addresses do not have one. -/
  host : Option String
  portNumber : UInt16
  deriving Repr, BEq, DecidableEq

def Address.layout :=
  Layout.required "address" (Codec.optional Codec.text) <|
    Layout.required "port" Codec.word16 <|
    Layout.done

def Address.codec : Codec Address :=
  .record "NetAddress" layout
    (fun (host, portNumber, ()) =>
      { host, portNumber })
    (fun value => (value.host, value.portNumber, ()))

/-- What the daemon says about itself. -/
structure Information where
  id : String
  nodeAlias : String
  color : String
  numPeers : UInt32
  numPendingChannels : UInt32
  numActiveChannels : UInt32
  numInactiveChannels : UInt32
  version : String
  blockHeight : UInt32
  network : String
  addresses : List Address
  /-- Present as long as the daemon waits for its chain server. -/
  chainWarning : Option String
  /-- Present as long as the daemon catches up with the chain. -/
  graphWarning : Option String
  deriving Repr, BEq, DecidableEq

def Information.layout :=
  Layout.required "id" Codec.text <|
    Layout.defaulted "alias" Codec.text "" <|
    Layout.defaulted "color" Codec.text "" <|
    Layout.defaulted "num_peers" Codec.word32 0 <|
    Layout.defaulted "num_pending_channels" Codec.word32 0 <|
    Layout.defaulted "num_active_channels" Codec.word32 0 <|
    Layout.defaulted "num_inactive_channels" Codec.word32 0 <|
    Layout.defaulted "version" Codec.text "" <|
    Layout.required "blockheight" Codec.word32 <|
    Layout.required "network" Codec.text <|
    Layout.defaulted "address" (Codec.list Address.codec) [] <|
    Layout.required "warning_bitcoind_sync" (Codec.optional Codec.text) <|
    Layout.required "warning_lightningd_sync" (Codec.optional Codec.text) <|
    Layout.done

def Information.codec : Codec Information :=
  .record "GetInfo" layout
    (fun (id, nodeAlias, color, numPeers, numPendingChannels, numActiveChannels,
      numInactiveChannels, version, blockHeight, network, addresses, chainWarning, graphWarning,
      ()) =>
      { id, nodeAlias, color, numPeers, numPendingChannels, numActiveChannels, numInactiveChannels,
        version, blockHeight, network, addresses, chainWarning, graphWarning })
    (fun value => (value.id, value.nodeAlias, value.color, value.numPeers, value.numPendingChannels,
      value.numActiveChannels, value.numInactiveChannels, value.version, value.blockHeight,
      value.network, value.addresses, value.chainWarning, value.graphWarning, ()))

namespace Information

def uri (id : String) (address : Address) : Option String :=
  address.host.map fun host => id ++ "@" ++ host ++ ":" ++ Text.numeral address.portNumber.toNat

def toNodeInfo (information : Information) (implementation : String) : NodeInfo where
  implementation := implementation
  version := information.version
  identityPubkey := information.id
  nodeAlias := information.nodeAlias
  color := information.color
  numPeers := information.numPeers
  numPendingChannels := information.numPendingChannels
  numActiveChannels := information.numActiveChannels
  numInactiveChannels := information.numInactiveChannels
  blockHeight := information.blockHeight
  network := information.network
  syncedToChain := information.chainWarning.isNone
  syncedToGraph := information.graphWarning.isNone
  uris := information.addresses.filterMap (uri information.id)

end Information

end LightningGateway.Daemon
