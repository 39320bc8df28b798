import LightningGateway.Config.Error
import LightningGateway.Failure
import LightningGateway.Logging

/-!
# Failures of the command line

Why a command ends without success, and the exit status that tells so.
-/

namespace LightningGateway

/-- Why a command ends without success. -/
inductive CommandFailure where
  | config (error : ConfigError)
  | logging (error : LoggingError)
  | node (failure : Failure)
  deriving Repr, BEq, DecidableEq

namespace CommandFailure

def message : CommandFailure → String
  | config error => error.message
  | logging error => error.message
  | node failure => failure.kind.name ++ ": " ++ failure.message

/-- The exit status: problems of the configuration have one of their own. -/
def exitStatus : CommandFailure → Nat
  | config _ => 2
  | logging _ => 1
  | node failure => if failure.kind = .configInvalid then 2 else 1

end CommandFailure

end LightningGateway
