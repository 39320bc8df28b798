import LightningGateway.Binary64.Numeral
import LightningGateway.Json.Document

/-!
# TOML values

The values that a TOML file holds, and the document that a decoder sees. A table
remembers how it came about, because that decides whether it may be extended.
-/

namespace LightningGateway.Toml

/-- How a table came about. -/
inductive TableKind where
  /-- Only as a part of the path of another table. -/
  | implied
  /-- As a part of a dotted key. -/
  | dotted
  /-- By a header. -/
  | headed
  /-- Between braces; such a table is complete. -/
  | inlined
  deriving Repr, BEq, DecidableEq

/-- A TOML value. -/
inductive Value where
  | text (value : String)
  | integer (value : Int)
  | float (value : Binary64.Reading)
  | boolean (value : Bool)
  /-- A date, a time or both, as written. -/
  | moment (written : String)
  /-- An array; headers may add tables to an array that they have begun. -/
  | array (headed : Bool) (items : List Value)
  | table (kind : TableKind) (entries : List (String × Value))
  deriving Repr, Inhabited

namespace Value

mutual

/-- What a decoder sees. A moment is seen as a table that no decoder knows. -/
def toDocument : Value → Document
  | text value => .string value
  | integer value => .number (.integer value)
  | float (.finite value) => .number (.double value)
  | float _ => .unreadable true
  | boolean value => .bool value
  | moment written => .object [(some "$moment", .string written)] true
  | array _ items => .array (itemDocuments items) true
  | table _ entries => .object (entryDocuments entries) true

/-- `toDocument` on every item. -/
def itemDocuments : List Value → List Document
  | [] => []
  | item :: rest => item.toDocument :: itemDocuments rest

/-- `toDocument` on the value of every entry. -/
def entryDocuments : List (String × Value) → List (Option String × Document)
  | [] => []
  | (key, value) :: rest => (some key, value.toDocument) :: entryDocuments rest

end

end Value

end LightningGateway.Toml
