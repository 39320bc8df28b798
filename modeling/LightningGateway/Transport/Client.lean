import LightningGateway.Text.Blank
import LightningGateway.Text.Utf8
import LightningGateway.Transport.Error

/-!
# The command line client

What a run of the command line client has printed, and the result or error that this is.
-/

namespace LightningGateway

/-- A run of the command line client. -/
structure ClientRun where
  succeeded : Bool
  output : List UInt8
  errorOutput : List UInt8
  deriving Repr, BEq, DecidableEq

namespace ClientRun

/-- Two texts on lines of their own; an empty one takes no line. -/
def joined (first second : String) : String :=
  if first = "" then second else if second = "" then first else first ++ "\n" ++ second

/-- The output of a run that has succeeded, or everything that was printed as an error. -/
def result (run : ClientRun) : Except TransportError String :=
  let output := Text.utf8Lossy run.output
  if run.succeeded then .ok output
  else .error (.command (joined (Text.trim (Text.utf8Lossy run.errorOutput)) (Text.trim output)))

end ClientRun

end LightningGateway
