import LightningGateway.Transport.Envelope
import LightningGateway.Transport.Status

/-!
# Answers over HTTP

The chain server wraps its answers in envelopes. The daemon answers with the result
itself, or with an error object and a status that is not a success.
-/

namespace LightningGateway

/-- An answer over HTTP. -/
structure HttpReply where
  status : Nat
  body : String
  deriving Repr, BEq, DecidableEq

namespace HttpReply

/-- A status and a body, as errors mention them. -/
def mention (reply : HttpReply) : String := HttpStatus.text reply.status ++ ": " ++ reply.body

def fromChainServer (url : String) (reply : HttpReply) : Except TransportError Json :=
  if HttpStatus.isRefusal reply.status then
    .error (.permissionDenied (url ++ " returned " ++ HttpStatus.text reply.status))
  else
    match Envelope.codec.decodeText reply.body with
    | .ok envelope => envelope.outcome
    | .error error =>
        if HttpStatus.isSuccess reply.status then
          .error (.serialization (error.message ++ " (body: " ++ reply.body ++ ")"))
        else .error (.http reply.mention)

/-- An integer that 64 bits hold as a signed number. -/
def signedInteger? : Json → Option Int
  | .number (.integer value) => if value < Bound.signed64 then some value else none
  | _ => none

/-- The error that the daemon reports with an error object. -/
def remoteError? (body : Json) : Option TransportError :=
  match body.field? "message" with
  | none => none
  | some message =>
      some <| .rpc ((body.field? "code").bind signedInteger?)
        (match message with
          | .string text => text
          | _ => "")

def fromDaemon (reply : HttpReply) : Except TransportError Json :=
  if HttpStatus.isSuccess reply.status then
    match Json.ofText? reply.body with
    | some value => .ok value
    | none => .error (.ofDecodeError .malformed)
  else if HttpStatus.isRefusal reply.status then
    .error (.permissionDenied reply.mention)
  else
    match (Json.ofText? reply.body).bind remoteError? with
    | some error => .error error
    | none => .error (.http reply.mention)

end HttpReply

end LightningGateway
