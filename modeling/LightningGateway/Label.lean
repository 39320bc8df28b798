import LightningGateway.Text.Numeral

/-!
# Labels

Names for new invoices. A label carries the time in milliseconds, moved past the last
label if the clock has not advanced. Several callers may ask at once: each looks at the
last identifier, and takes its own only if the last one is still the same then.
-/

namespace LightningGateway.Label

/-- The identifier that follows the last one at a time. -/
def following (last now : Nat) : Nat := max now (last + 1)

def text (identifier : Nat) : String :=
  "lnfacade-" ++ Text.paddedNumeral 13 identifier

/-- The same in words of 64 bits, in which the largest one is followed by zero. -/
def followingWord (last now : UInt64) : UInt64 := max now (last + 1)

/-- The progress of a caller that wants an identifier, which is a number or a word. -/
inductive Caller (ν : Type) where
  /-- It has read the clock. -/
  | arrived (now : ν)
  /-- It has read the clock and the last identifier. -/
  | looked (now last : ν)
  /-- It has its identifier. -/
  | served (now identifier : ν)
  deriving Repr, BEq, DecidableEq

/-- A step of a caller, given what follows an identifier and the last one. Taking an identifier may
fail for no reason; then, as when another caller was faster, the caller goes on with the last
identifier as it is. -/
def step {ν : Type} [DecidableEq ν] (follows : ν → ν → ν) (last : ν) (spurious : Bool) :
    Caller ν → ν × Caller ν
  | .arrived now => (last, .looked now last)
  | .looked now seen =>
      if seen = last ∧ spurious = false then
        (follows seen now, .served now (follows seen now))
      else
        (last, .looked now last)
  | .served now identifier => (last, .served now identifier)

/-- Serves callers one after another, given the readings of their clocks. -/
def serve (last : Nat) : List Nat → List Nat
  | [] => []
  | now :: rest => following last now :: serve (following last now) rest

end LightningGateway.Label
