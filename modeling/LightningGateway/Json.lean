import LightningGateway.Binary64

/-!
# JSON values

Values as they travel between the gateway and its collaborators. An object keeps its
fields in the order in which they were written; `Json.sortFields` gives the order of
values that were read without knowing what they mean.
-/

namespace LightningGateway

/-- A JSON number: an integer from `-2 ^ 63` to `2 ^ 64 - 1`, or a floating point number. -/
inductive JsonNumber where
  | integer (value : Int)
  | double (value : Binary64)
  deriving Repr, BEq, DecidableEq, Inhabited

/-- A JSON value. -/
inductive Json where
  | null
  | bool (value : Bool)
  | number (value : JsonNumber)
  | string (value : String)
  | array (items : List Json)
  | object (fields : List (String × Json))
  deriving Repr, BEq, Inhabited

namespace Json

def ofNat (value : Nat) : Json := .number (.integer value)

def ofWord (value : UInt64) : Json := ofNat value.toNat

def ofTexts (texts : List String) : Json := .array (texts.map .string)

/-- The value of the first field with a name, for objects. -/
def field? (name : String) : Json → Option Json
  | .object fields => fields.lookup name
  | _ => none

/-- Order of object keys: by code point. -/
def keyBefore (left right : String) : Bool := decide (left < right)

/-- Puts a field into fields sorted by key; a field with the same key is replaced. -/
def insertField (key : String) (value : Json) : List (String × Json) → List (String × Json)
  | [] => [(key, value)]
  | (other, old) :: rest =>
      if key = other then (key, value) :: rest
      else if keyBefore key other then (key, value) :: (other, old) :: rest
      else (other, old) :: insertField key value rest

/-- Fields sorted by key, the last of several fields with one key kept. -/
def collectFields (fields : List (String × Json)) : List (String × Json) :=
  fields.foldl (fun sorted (key, value) => insertField key value sorted) []

mutual

/-- The same value with the fields of every object sorted by key. -/
def sortFields : Json → Json
  | .null => .null
  | .bool value => .bool value
  | .number value => .number value
  | .string value => .string value
  | .array items => .array (sortItems items)
  | .object fields => .object (collectFields (sortEntries fields))

/-- `sortFields` on every item. -/
def sortItems : List Json → List Json
  | [] => []
  | item :: rest => item.sortFields :: sortItems rest

/-- `sortFields` on the value of every field. -/
def sortEntries : List (String × Json) → List (String × Json)
  | [] => []
  | (key, value) :: rest => (key, value.sortFields) :: sortEntries rest

end

end Json

end LightningGateway
