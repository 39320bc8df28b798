/-!
# Failures

Every operation of the gateway fails with exactly one failure: a kind, which decides the
status that callers see, and a detail, which is passed on unchanged.
-/

namespace LightningGateway

/-- The kinds of failures. -/
inductive FailureKind where
  /-- The configuration cannot be used; this is noticed before any attempt to connect. -/
  | configInvalid
  /-- The daemon cannot be reached or refuses access. -/
  | unavailable
  /-- The request itself is wrong. -/
  | invalidArgument
  /-- What the request refers to does not exist. -/
  | notFound
  /-- The node is in no state to fulfil the request. -/
  | preconditionFailed
  /-- The request is fine but could not be carried out. -/
  | unprocessable
  /-- A peer did not answer in time. -/
  | timeout
  /-- Anything else. -/
  | internal
  deriving Repr, BEq, DecidableEq

namespace FailureKind

def name : FailureKind → String
  | configInvalid => "CONFIG_INVALID"
  | unavailable => "UNAVAILABLE"
  | invalidArgument => "INVALID_ARGUMENT"
  | notFound => "NOT_FOUND"
  | preconditionFailed => "PRECONDITION_FAILED"
  | unprocessable => "UNPROCESSABLE"
  | timeout => "TIMEOUT"
  | internal => "INTERNAL"

def all : List FailureKind :=
  [configInvalid, unavailable, invalidArgument, notFound, preconditionFailed, unprocessable,
    timeout, internal]

def ofName? (name : String) : Option FailureKind :=
  all.find? fun kind => kind.name == name

def status : FailureKind → Nat
  | invalidArgument => 400
  | notFound => 404
  | preconditionFailed => 412
  | unprocessable => 422
  | timeout => 504
  | unavailable => 503
  | configInvalid | internal => 500

/-- What the message of a failure says before its detail. -/
def introduction : FailureKind → String
  | configInvalid => "Invalid configuration: "
  | unavailable => "Backend unavailable: "
  | notFound => "Not found: "
  | internal => "Internal error: "
  | invalidArgument | preconditionFailed | unprocessable | timeout => ""

end FailureKind

/-- Why an operation failed. -/
structure Failure where
  kind : FailureKind
  detail : String
  deriving Repr, BEq, DecidableEq

def Failure.message (failure : Failure) : String :=
  failure.kind.introduction ++ failure.detail

end LightningGateway
