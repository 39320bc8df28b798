import LightningGateway.Cache
import LightningGateway.Json.Record

/-!
# The chain server

A server that knows the chain tells the times of blocks. A block keeps its times, so they
are remembered.
-/

namespace LightningGateway

/-- The times of a block. -/
structure BlockTime where
  /-- The time that the block itself gives. -/
  time : UInt64
  /-- The median of the times of the blocks before it. -/
  medianTime : UInt64
  deriving Repr, BEq, DecidableEq

namespace BlockTime

def hashCodec : Codec String :=
  .record "BlockStats" (Layout.required "blockhash" Codec.text Layout.done)
    (fun (hash, ()) => hash) (fun hash => (hash, ()))

def layout :=
  Layout.required "time" Codec.word64 <|
    Layout.required "mediantime" Codec.word64 <|
    Layout.done

def codec : Codec BlockTime :=
  .record "BlockHeader" layout (fun (time, medianTime, ()) => { time, medianTime })
    (fun block => (block.time, block.medianTime, ()))

end BlockTime

namespace Chain

def call {σ α : Type} (codec : Codec α) (method : String) (parameter : Json) :
    Dialogue σ (Except TransportError α) := do
  match ← Dialogue.query (.chainCall method (.array [parameter])) with
  | .error error => return .error error
  | .ok value =>
      match codec.decode value with
      | .error error => return .error (.ofDecodeError error)
      | .ok result => return .ok result

/-- Asks for the times of the block at a height. -/
def fetchBlockTime {σ : Type} (height : UInt32) : Dialogue σ (Except TransportError BlockTime) := do
  match ← call BlockTime.hashCodec "getblockstats" (.ofNat height.toNat) with
  | .error error => return .error error
  | .ok hash => call BlockTime.codec "getblock" (.string hash)

/-- The times of the block at a height, remembered or asked for. -/
def blockTime (height : UInt32) :
    Dialogue (Cache UInt32 BlockTime) (Except TransportError BlockTime) :=
  Cache.remember height (fetchBlockTime height)

end Chain

end LightningGateway
