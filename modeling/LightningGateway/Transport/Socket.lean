import LightningGateway.Text.Utf8
import LightningGateway.Transport.Envelope

/-!
# Answers over the socket

The daemon ends an answer with an empty line. The bytes of an answer come in pieces; after
each piece the last two bytes of all that came decide whether the answer is complete. A
connection that ends is the end of the answer, too.
-/

namespace LightningGateway.Socket

def terminator : List UInt8 := [0x0A, 0x0A]

/-- What has come of an answer. -/
inductive Progress where
  | answered (result : Except TransportError Json)
  /-- The connection stays open and more has to come. -/
  | waiting

def parse (bytes : List UInt8) : Except TransportError Json :=
  match (Text.utf8? bytes).bind Json.ofText? with
  | some value => .ok value
  | none => .error (.ofDecodeError .malformed)

/-- Reads an answer of which some bytes were received, from further pieces and then from the end
of the connection if it ends. -/
def read (connectionEnds : Bool) (received : List UInt8) : List (List UInt8) → Progress
  | [] =>
      if connectionEnds then
        if received.isEmpty then
          .answered (.error (.ipc "Socket closed before a response was sent"))
        else .answered (parse received)
      else .waiting
  | piece :: rest =>
      if terminator.isSuffixOf (received ++ piece) then .answered (parse (received ++ piece))
      else read connectionEnds (received ++ piece) rest

def outcome (answer : Except TransportError Json) : Except TransportError Json :=
  match answer with
  | .error error => .error error
  | .ok value =>
      match Envelope.codec.decode value with
      | .ok envelope => envelope.outcome
      | .error error => .error (.ofDecodeError error)

def request (id : Nat) (method : String) (parameters : Json) : String :=
  (Json.object [("id", .ofNat id), ("jsonrpc", .string "2.0"), ("method", .string method),
    ("params", parameters.sortFields)]).compact ++ "\n"

end LightningGateway.Socket
