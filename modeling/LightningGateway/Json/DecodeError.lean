import LightningGateway.Json.Document
import LightningGateway.Json.Writer
import LightningGateway.Text.Quoted
import LightningGateway.Text.Search

/-!
# Why a document does not decode

The causes, and their wording in one function.
-/

namespace LightningGateway

/-- What a decoder met instead of what it expected. -/
inductive Found where
  | null
  | boolean (value : Bool)
  | number (value : JsonNumber)
  | text (value : String)
  | sequence
  | map
  /-- A name of a variant without content. -/
  | unitVariant
  deriving Repr, BEq, DecidableEq

/-- Why a document does not decode. -/
inductive DecodeError where
  /-- The text is not JSON at this place. -/
  | malformed
  | missingField (name : String)
  | duplicateField (name : String)
  | invalidType (found : Found) (expected : String)
  | invalidValue (found : Found) (expected : String)
  | invalidLength (length : Nat) (expected : String)
  | unknownVariant (name : String) (expected : List String)
  /-- None of the alternatives of a type fits. -/
  | noAlternative (typeName : String)
  /-- The content was refused for a reason of its own. -/
  | refused (reason : String)
  deriving Repr, BEq, DecidableEq

/-- What was found, in words. -/
def Found.description : Found → String
  | .null => "null"
  | .boolean true => "boolean `true`"
  | .boolean false => "boolean `false`"
  | .number (.integer value) => "integer `" ++ Text.signedNumeral value ++ "`"
  | .number (.double value) => "floating point `" ++ value.text ++ "`"
  | .text value => "string " ++ Text.quoted value
  | .sequence => "sequence"
  | .map => "map"
  | .unitVariant => "unit variant"

namespace DecodeError

def backquoted (name : String) : String := "`" ++ name ++ "`"

/-- The variants that would have been accepted, in words. -/
def alternatives : List String → String
  | [] => "there are no variants"
  | [only] => "expected " ++ backquoted only
  | [first, second] => "expected " ++ backquoted first ++ " or " ++ backquoted second
  | names => "expected one of " ++ Text.joinWith ", " (names.map backquoted)

def message : DecodeError → String
  | .malformed => "malformed JSON"
  | .missingField name => "missing field " ++ backquoted name
  | .duplicateField name => "duplicate field " ++ backquoted name
  | .invalidType found expected =>
      "invalid type: " ++ found.description ++ ", expected " ++ expected
  | .invalidValue found expected =>
      "invalid value: " ++ found.description ++ ", expected " ++ expected
  | .invalidLength length expected =>
      "invalid length " ++ Text.numeral length ++ ", expected " ++ expected
  | .unknownVariant name expected =>
      "unknown variant " ++ backquoted name ++ ", " ++ alternatives expected
  | .noAlternative typeName => "data did not match any variant of untagged enum " ++ typeName
  | .refused reason => reason

/-- The error for a part of another kind than expected. -/
def mismatch (expected : String) : Document → DecodeError
  | .null => .invalidType .null expected
  | .bool value => .invalidType (.boolean value) expected
  | .number value => .invalidType (.number value) expected
  | .string value => .invalidType (.text value) expected
  | .array _ _ => .invalidType .sequence expected
  | .object _ _ => .invalidType .map expected
  | .unreadable _ => .malformed

end DecodeError

end LightningGateway
