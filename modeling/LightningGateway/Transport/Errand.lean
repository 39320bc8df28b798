import LightningGateway.Json.Record
import LightningGateway.Transport.Client
import LightningGateway.Transport.Credentials
import LightningGateway.Transport.Http

/-!
# Errands

What is left to a companion program: it opens sockets, posts over HTTP, runs programs and
reads the clock. An errand and the report about it are one line of JSON each. The
companion only moves bytes; what they mean is decided here.
-/

namespace LightningGateway

/-- What authorizes a call over HTTP. -/
inductive Authority where
  | anyone
  | login (login : Login)
  /-- A rune, with the file of a certificate that is trusted besides the usual ones. -/
  | rune (rune : String) (caCert : Option String)
  deriving Repr, BEq, DecidableEq

/-- What the companion is asked to do. -/
inductive Errand where
  /-- To write a text to a socket and collect what comes back. -/
  | socket (path text : String)
  /-- To post a JSON text to a URL. -/
  | post (url : String) (authority : Authority) (body : String)
  /-- To run a program. -/
  | run (program : String) (arguments : List String)
  /-- To read the clock. -/
  | clock
  deriving Repr, BEq, DecidableEq

namespace Errand

/-- The fields by which the companion learns of an authority. -/
def authorityFields : Authority → List (String × Json)
  | .anyone => []
  | .login login => [("user", .string login.user), ("password", .string login.password)]
  | .rune rune caCert =>
      [("rune", .string rune), ("ca_cert", (Codec.optional Codec.text).write caCert)]

def toJson : Errand → Json
  | socket path text => .object [("socket", .string path), ("text", .string text)]
  | post url authority body =>
      .object ([("post", .string url), ("body", .string body)] ++ authorityFields authority)
  | run program arguments =>
      .object [("run", .string program), ("arguments", .ofTexts arguments)]
  | clock => .object [("clock", .null)]

end Errand

/-- What the companion reports. -/
inductive Report where
  /-- What a socket has given, piece by piece, until it ended or the answer was complete. -/
  | collected (pieces : List (List UInt8))
  | answered (reply : HttpReply)
  | ended (run : ClientRun)
  /-- The milliseconds of the clock. -/
  | time (milliseconds : UInt64)
  /-- The errand could not be done. -/
  | failed (fault : IoFault) (description : String)
  deriving Repr, BEq, DecidableEq

namespace Report

def faults : List (String × IoFault) :=
  [("connection_refused", .connectionRefused), ("not_found", .notFound),
    ("address_not_available", .addressNotAvailable),
    ("connection_aborted", .connectionAborted), ("permission_denied", .permissionDenied),
    ("timed_out", .timedOut), ("other", .otherFault)]

/-- Bytes, each as a number. -/
def readBytes (value : Json) : Option (List UInt8) :=
  match (Codec.list Codec.word16).decode value with
  | .ok words => some (words.map UInt16.toUInt8)
  | .error _ => none

def readField {α : Type} (codec : Codec α) (name : String) (value : Json) : Option α :=
  (value.field? name).bind fun field => (codec.decode field).toOption

/-- A report in JSON. The field that it has tells what it is about. -/
def ofJson? (value : Json) : Option Report :=
  match value with
  | .object (("bytes", .array pieces) :: _) => (pieces.mapM readBytes).map .collected
  | _ =>
      match readField Codec.word64 "time" value, readField Codec.word16 "status" value,
        readField Codec.boolean "succeeded" value with
      | some milliseconds, _, _ => some (.time milliseconds)
      | none, some status, _ =>
          (readField Codec.text "body" value).map fun body => .answered ⟨status.toNat, body⟩
      | none, none, some succeeded => do
          let output ← (value.field? "output").bind readBytes
          let errorOutput ← (value.field? "errors").bind readBytes
          return .ended ⟨succeeded, output, errorOutput⟩
      | none, none, none => do
          let fault ← (readField Codec.text "fault" value).bind fun name => List.lookup name faults
          let description ← readField Codec.text "description" value
          return .failed fault description

/-- The report for want of one that can be used. -/
def unusable : Report := .failed .otherFault "The companion gave no report"

def ofLine (line : String) : Report :=
  ((Json.ofText? line).bind ofJson?).getD unusable

end Report

end LightningGateway
