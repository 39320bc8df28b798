import LightningGateway.Text.Blank
import LightningGateway.Text.Numeral
import LightningGateway.Text.Search

/-!
# Logging

The levels of log events and how a level is named, and the events that operations
report.
-/

namespace LightningGateway

/-- How serious a log event is. -/
inductive LogLevel where
  | error
  | warn
  | info
  | debug
  | trace
  deriving Repr, BEq, DecidableEq

namespace LogLevel

def name : LogLevel → String
  | error => "ERROR"
  | warn => "WARN"
  | info => "INFO"
  | debug => "DEBUG"
  | trace => "TRACE"

/-- All levels, the most serious one first. -/
def all : List LogLevel := [error, warn, info, debug, trace]

/-- The level with a name in any case, or with a position in `all`, counted from one. -/
def ofText? (text : String) : Option LogLevel :=
  let characters := Text.trimmed text.toList
  match Text.word64? characters with
  | some position => if position = 0 then none else all[position.toNat - 1]?
  | none =>
      all.find? fun level =>
        Text.lowerAsciiText level.name == Text.lowerAsciiText (String.ofList characters)

end LogLevel

/-- Why logging cannot begin. -/
inductive LoggingError where
  | invalidLevel (text : String)
  | file (reason : String)
  deriving Repr, BEq, DecidableEq

def LoggingError.message : LoggingError → String
  | .invalidLevel text => "Invalid log level: " ++ text
  | .file reason => "Failed to open log file: " ++ reason

def LogLevel.parse (text : String) : Except LoggingError LogLevel :=
  match LogLevel.ofText? text with
  | some level => .ok level
  | none => .error (.invalidLevel text)

/-- An event that an operation reports to the log. -/
structure LogEvent where
  level : LogLevel
  message : String
  /-- The operation that reports the event. -/
  operation : String
  /-- The kind of failure that the event is about, if it was recognized. -/
  kind : Option String
  deriving Repr, BEq, DecidableEq

end LightningGateway
