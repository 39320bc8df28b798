import LightningGateway.Json.Record
import LightningGateway.Transport.Error

/-!
# Envelopes of remote calls

An answer to a remote call carries a result or an error object. An error object that
does not have the usual fields is reported as its text.
-/

namespace LightningGateway

/-- The error object of an answer. -/
structure RemoteError where
  code : Option Int
  message : String
  deriving Repr, BEq, DecidableEq

def RemoteError.layout :=
  Layout.defaulted "code" (Codec.optional Codec.signed64) none <|
    Layout.defaulted "message" Codec.text "" <|
    Layout.done

def RemoteError.codec : Codec RemoteError :=
  .record "JsonRpcError" layout (fun (code, message, ()) => { code, message })
    (fun error => (error.code, error.message, ()))

/-- An answer to a remote call. -/
structure Envelope where
  result : Option Json
  error : Option Json
  id : Json
  deriving Repr, BEq

namespace Envelope

def layout :=
  Layout.defaulted "result" (Codec.optional Codec.json) none <|
    Layout.defaulted "error" (Codec.optional Codec.json) none <|
    Layout.defaulted "id" Codec.json .null <|
    Layout.done

def codec : Codec Envelope :=
  .record "JsonRpcResponse" layout (fun (result, error, id, ()) => { result, error, id })
    (fun envelope => (envelope.result, envelope.error, envelope.id, ()))

def errorOf (value : Json) : TransportError :=
  match RemoteError.codec.decode value with
  | .ok error => .rpc error.code error.message
  | .error _ => .rpc none value.sortedText

/-- What the answer says: an error object goes before a result. -/
def outcome (envelope : Envelope) : Except TransportError Json :=
  match envelope.error with
  | some value => .error (errorOf value)
  | none =>
      match envelope.result with
      | some value => .ok value
      | none => .error .missingResult

end Envelope

end LightningGateway
