import LightningGateway.Json.Record

/-!
# The node

Who the node is, and the stages of the connection to it.
-/

namespace LightningGateway

/-- What a node says about itself. -/
structure NodeInfo where
  implementation : String
  version : String
  identityPubkey : String
  nodeAlias : String
  color : String
  numPeers : UInt32
  numPendingChannels : UInt32
  numActiveChannels : UInt32
  numInactiveChannels : UInt32
  blockHeight : UInt32
  network : String
  syncedToChain : Bool
  syncedToGraph : Bool
  uris : List String
  deriving Repr, BEq, DecidableEq

def NodeInfo.layout :=
  Layout.required "implementation" Codec.text <|
    Layout.required "version" Codec.text <|
    Layout.required "identity_pubkey" Codec.text <|
    Layout.required "alias" Codec.text <|
    Layout.required "color" Codec.text <|
    Layout.required "num_peers" Codec.word32 <|
    Layout.required "num_pending_channels" Codec.word32 <|
    Layout.required "num_active_channels" Codec.word32 <|
    Layout.required "num_inactive_channels" Codec.word32 <|
    Layout.required "block_height" Codec.word32 <|
    Layout.required "network" Codec.text <|
    Layout.required "synced_to_chain" Codec.boolean <|
    Layout.required "synced_to_graph" Codec.boolean <|
    Layout.required "uris" (Codec.list Codec.text) <|
    Layout.done

def NodeInfo.codec : Codec NodeInfo :=
  .record "LnInfo" layout
    (fun (implementation, version, identityPubkey, nodeAlias, color, numPeers, numPendingChannels,
      numActiveChannels, numInactiveChannels, blockHeight, network, syncedToChain, syncedToGraph,
      uris, ()) =>
      { implementation, version, identityPubkey, nodeAlias, color, numPeers, numPendingChannels,
        numActiveChannels, numInactiveChannels, blockHeight, network, syncedToChain, syncedToGraph,
        uris })
    (fun value => (value.implementation, value.version, value.identityPubkey, value.nodeAlias,
      value.color, value.numPeers, value.numPendingChannels, value.numActiveChannels,
      value.numInactiveChannels, value.blockHeight, value.network, value.syncedToChain,
      value.syncedToGraph, value.uris, ()))

/-- What is reported while a connection is being made. -/
inductive LifecycleStage where
  | connecting
  /-- An attempt has failed and another one will follow. -/
  | offline
  | done
  deriving Repr, BEq, DecidableEq

namespace LifecycleStage

def named : List (String × LifecycleStage) :=
  [("connecting", connecting), ("offline", offline), ("done", done)]

def name : LifecycleStage → String
  | connecting => "connecting"
  | offline => "offline"
  | done => "done"

def codec : Codec LifecycleStage := .enumeration named name

end LifecycleStage

/-- A report about the connection. -/
structure LifecycleUpdate where
  stage : LifecycleStage
  /-- Why an attempt has failed. -/
  reason : Option String
  deriving Repr, BEq, DecidableEq

def LifecycleUpdate.layout :=
  Layout.required "state" LifecycleStage.codec <|
    Layout.required "msg" (Codec.optional Codec.text) <|
    Layout.done

def LifecycleUpdate.codec : Codec LifecycleUpdate :=
  .record "LifecycleUpdate" layout
    (fun (stage, reason, ()) =>
      { stage, reason })
    (fun value => (value.stage, value.reason, ()))

end LightningGateway
