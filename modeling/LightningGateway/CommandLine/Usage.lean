/-!
# Usage

What the arguments of the command line can be besides a command: a request for help, or
one of the mistakes that are told apart.
-/

namespace LightningGateway

/-- Why arguments are not a command. -/
inductive UsageError where
  | displayHelp
  | displayVersion
  /-- Nothing was given at all. -/
  | nothingGiven
  | invalidSubcommand
  | missingSubcommand
  | unknownArgument
  | missingRequiredArgument
  /-- An argument is given twice. -/
  | argumentConflict
  /-- An option is given without its value. -/
  | invalidValue
  /-- The value of an option is not what it has to be. -/
  | valueValidation
  /-- A value is given to an option that has none. -/
  | tooManyValues
  deriving Repr, BEq, DecidableEq

namespace UsageError

def name : UsageError → String
  | displayHelp => "DisplayHelp"
  | displayVersion => "DisplayVersion"
  | nothingGiven => "DisplayHelpOnMissingArgumentOrSubcommand"
  | invalidSubcommand => "InvalidSubcommand"
  | missingSubcommand => "MissingSubcommand"
  | unknownArgument => "UnknownArgument"
  | missingRequiredArgument => "MissingRequiredArgument"
  | argumentConflict => "ArgumentConflict"
  | invalidValue => "InvalidValue"
  | valueValidation => "ValueValidation"
  | tooManyValues => "TooManyValues"

/-- The exit status: help that was asked for is no mistake. -/
def exitStatus : UsageError → Nat
  | displayHelp | displayVersion => 0
  | _ => 2

end UsageError

end LightningGateway
