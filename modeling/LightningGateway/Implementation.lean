import LightningGateway.Json.Codec

/-!
# Implementations

The kinds of nodes that the gateway can drive, with the facts that differ between them.
-/

namespace LightningGateway

/-- A kind of node. -/
inductive Implementation where
  | coreLightning
  deriving Repr, BEq, DecidableEq

namespace Implementation

def name : Implementation → String
  | coreLightning => "core_lightning"

def displayName : Implementation → String
  | coreLightning => "Core Lightning"

/-- The name of the protocol that the gateway speaks with the node. -/
def tag : Implementation → String
  | coreLightning => "CLN_JSONRPC"

def livenessMethod : Implementation → String
  | coreLightning => "getinfo"

def commandLineClient : Implementation → String
  | coreLightning => "lightning-cli"

def named : List (String × Implementation) :=
  [("core_lightning", coreLightning)]

def ofName? : String → Option Implementation
  | "core_lightning" => some coreLightning
  | "cln" => some coreLightning
  | _ => none

/-- What is said about a name that no implementation has. -/
def unknownNameMessage (name : String) : String :=
  "Unknown implementation name: " ++ name

/-- Implementations in JSON: the name. -/
def codec : Codec Implementation := .enumeration named name

end Implementation

end LightningGateway
