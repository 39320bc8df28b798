import LightningGateway.Endpoint
import LightningGateway.Label
import LightningGateway.Transport.Errand
import LightningGateway.Transport.Socket

/-!
# Exchanges with the outside

For each call of the gateway there is an errand, and an outcome that depends on the
report about it. The daemon is reached over its socket or over HTTP, the chain server
over HTTP.
-/

namespace LightningGateway

namespace Endpoint

/-- The parameters as they go over HTTP: an object, also when there are none. -/
def restBody : Json → String
  | .null => "\x7b\x7d"
  | parameters => parameters.sortedText

def errand (number : Nat) (method : String) (parameters : Json) : Endpoint → Errand
  | socket path => .socket path (Socket.request number method parameters)
  | rest url rune caCert =>
      .post (baseUrl url ++ "/v1/" ++ method) (.rune rune caCert) (restBody parameters)

/-- The error for an HTTP call that could not be made. -/
def httpFault (fault : IoFault) (description : String) : TransportError :=
  match fault with
  | .timedOut => .timeout description
  | .permissionDenied | .otherFault => .http description
  | _ => .connect description

def outcome (endpoint : Endpoint) (report : Report) : Except TransportError Json :=
  match endpoint, report with
  | socket _, .collected pieces =>
      match Socket.read true [] pieces with
      | .answered answer => Socket.outcome answer
      | .waiting => .error (.ipc "Socket closed before a response was sent")
  | rest _ _ _, .answered reply => reply.fromDaemon
  | socket _, .failed fault description => .error (.ofFault fault description)
  | rest _ _ _, .failed fault description => .error (httpFault fault description)
  | _, _ => .error (.other "The companion answered another question")

end Endpoint

namespace ChainServer

def body (method : String) (parameters : Json) : String :=
  (Json.object [("id", .string "lnfacade"), ("jsonrpc", .string "1.0"),
    ("method", .string method), ("params", parameters)]).sortedText

/-- The errand for a call of the chain server at a URL. -/
def errand (url : String) (login : Option Login) (method : String) (parameters : Json) : Errand :=
  .post url
    (match login with
      | some login => .login login
      | none => .anyone)
    (body method parameters)

def outcome (url : String) : Report → Except TransportError Json
  | .answered reply => reply.fromChainServer url
  | .failed fault description => .error (Endpoint.httpFault fault description)
  | _ => .error (.other "The companion answered another question")

end ChainServer

/-- The outcome of a run of the command line client. -/
def ClientRun.outcome (program : String) : Report → Except TransportError String
  | .ended run => run.result
  | .failed .permissionDenied description =>
      .error (.permissionDenied (program ++ ": " ++ description))
  | .failed _ description =>
      .error (.other ("Failed to spawn " ++ program ++ ": " ++ description))
  | _ => .error (.other "The companion answered another question")

/-- What is counted while the gateway runs. -/
structure Counters where
  /-- The number of the next call. -/
  number : Nat
  /-- The identifier of the last label. -/
  label : Nat
  deriving Repr, BEq, DecidableEq

namespace Exchange

def counters : Counters := ⟨1, 0⟩

/-- Whether a question is answered by doing an errand, which one, and how the report answers it. -/
inductive Step (α : Type) where
  | answer (reply : α)
  | sleep (milliseconds : Nat) (reply : α)
  | errand (errand : Errand) (reply : Report → α)

def milliseconds : Report → Nat
  | .time value => value.toNat
  | _ => 0

/-- How a question is answered. Events have no listeners here. -/
def step (plan : Plan) (files : FileSystem) (counters : Counters) :
    (query : Query) → Step (query.Reply × Counters)
  | .connect => .answer ((plan.endpoint.connect files).map fun _ => 0, counters)
  | .call _ method parameters =>
      .errand (plan.endpoint.errand counters.number method parameters) fun report =>
        (plan.endpoint.outcome report, { counters with number := counters.number + 1 })
  | .chainCall method parameters =>
      match plan.chainServer with
      | some (url, login) =>
          .errand (ChainServer.errand url login method parameters) fun report =>
            (ChainServer.outcome url report, counters)
      | none => .answer (.error (.other "There is no chain server"), counters)
  | .command arguments =>
      .errand (.run plan.client (plan.clientArguments ++ arguments)) fun report =>
        (ClientRun.outcome plan.client report, counters)
  | .sleep duration => .sleep duration ((), counters)
  | .now => .errand .clock fun report =>
      (UInt64.ofNat (milliseconds report / 1000), counters)
  | .label => .errand .clock fun report =>
      let identifier := Label.following counters.label (milliseconds report)
      (Label.text identifier, { counters with label := identifier })
  | .publish _ => .answer ((), counters)

end Exchange

end LightningGateway
