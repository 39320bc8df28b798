import LightningGateway.Json.Codec
import LightningGateway.Word

/-!
# Times in daemon replies

Daemons give times in seconds, as integers or with a fraction. The fraction is dropped.
-/

namespace LightningGateway.Timestamp

/-- The whole seconds of a time; a time that is not positive counts as zero. -/
def wholeSeconds (time : Binary64) : UInt64 :=
  if time.isPositive then Word.clamp time.wholePart else 0

def codec : Codec UInt64 where
  read _ document := (Codec.readDouble document).map wholeSeconds
  write := .ofWord
  absent := none

/-- Times in seconds, or `null`. A field that is not there has no default of its own. -/
def optionalCodec : Codec (Option UInt64) where
  read
    | _, .null => .ok none
    | _, document => (Codec.readDouble document).map fun time => some (wholeSeconds time)
  write
    | none => .null
    | some seconds => .ofWord seconds
  absent := none

end LightningGateway.Timestamp
