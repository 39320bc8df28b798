import LightningGateway.Json.DecodeError

/-!
# Transport errors

What can go wrong between the gateway and a daemon, a command line client or a chain
server. The split between a daemon that cannot be reached and all other errors decides
whether a connection attempt is repeated.
-/

namespace LightningGateway

/-- What went wrong on the way to a collaborator or back. -/
inductive TransportError where
  /-- Nothing answers at the endpoint. -/
  | connect (detail : String)
  | permissionDenied (detail : String)
  | http (detail : String)
  | ipc (detail : String)
  | timeout (detail : String)
  /-- The content of an answer does not decode. -/
  | serialization (detail : String)
  /-- The collaborator reports an error of its own. -/
  | rpc (code : Option Int) (message : String)
  /-- A command line client reports an error. -/
  | command (detail : String)
  /-- An answer holds neither a result nor an error. -/
  | missingResult
  | invalidFormat (detail : String)
  | other (detail : String)
  deriving Repr, BEq, DecidableEq

namespace TransportError

/-- The detail of an error, without its kind. -/
def detail : TransportError → String
  | connect detail | permissionDenied detail | http detail | ipc detail | timeout detail
  | serialization detail | command detail | invalidFormat detail | other detail => detail
  | rpc _ message => message
  | missingResult => "Missing result field"

def message : TransportError → String
  | connect detail => "Connection error: " ++ detail
  | permissionDenied detail => "Permission denied: " ++ detail
  | http detail => "HTTP transport error: " ++ detail
  | ipc detail => "IPC transport error: " ++ detail
  | timeout detail => "Request timed out: " ++ detail
  | serialization detail => "Serialization error: " ++ detail
  | rpc _ message => "RPC error: " ++ message
  | command detail => "Command failed: " ++ detail
  | missingResult => "Missing result field"
  | invalidFormat detail => "Invalid response format: " ++ detail
  | other detail => "Other error: " ++ detail

def isConnect : TransportError → Bool
  | connect _ => true
  | _ => false

def ofDecodeError (error : DecodeError) : TransportError :=
  .serialization error.message

end TransportError

/-- What an operating system reports about an input or output that failed, as far as the gateway
tells such reports apart. -/
inductive IoFault where
  | connectionRefused
  | notFound
  | addressNotAvailable
  | connectionAborted
  | permissionDenied
  | timedOut
  | otherFault
  deriving Repr, BEq, DecidableEq

def TransportError.ofFault (fault : IoFault) (description : String) : TransportError :=
  match fault with
  | .connectionRefused | .notFound | .addressNotAvailable | .connectionAborted =>
      .connect description
  | .permissionDenied => .permissionDenied description
  | .timedOut => .timeout description
  | .otherFault => .ipc description

end LightningGateway
