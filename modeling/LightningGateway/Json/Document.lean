import LightningGateway.Json

/-!
# JSON as a text gives it

A `Document` is what a reader finds in a text, faults included: an array or object that
breaks off keeps the part before the fault, and a part that cannot be used is
`unreadable`. A decoder that walks through a document therefore meets the faults of the
text and the faults of its content in the order of the text, and the first one decides.
-/

namespace LightningGateway

/-- JSON as found in a text. -/
inductive Document where
  | null
  | bool (value : Bool)
  | number (value : JsonNumber)
  | string (value : String)
  /-- The items before the end of the array or before the place where it breaks off. -/
  | array (items : List Document) (complete : Bool)
  /-- The fields before the end of the object or before the place where it breaks off. A key
  that names half of a surrogate pair is `none`. -/
  | object (fields : List (Option String × Document)) (complete : Bool)
  /-- A part that no decoder can use. It is `skippable` if it is well formed and only its value
  does not exist: half of a surrogate pair, a number beyond all floating point numbers, a
  nesting that is too deep. -/
  | unreadable (skippable : Bool)
  deriving Repr, Inhabited

namespace Document

mutual

def ofJson : Json → Document
  | .null => .null
  | .bool value => .bool value
  | .number value => .number value
  | .string value => .string value
  | .array items => .array (ofItems items) true
  | .object fields => .object (ofFields fields) true

def ofItems : List Json → List Document
  | [] => []
  | item :: rest => ofJson item :: ofItems rest

def ofFields : List (String × Json) → List (Option String × Document)
  | [] => []
  | (key, value) :: rest => (some key, ofJson value) :: ofFields rest

end

mutual

/-- Whether a decoder that has no use for this part can pass over it. -/
def isSkippable : Document → Bool
  | .null | .bool _ | .number _ | .string _ => true
  | .array items complete => allSkippable items && complete
  | .object fields complete => allFieldsSkippable fields && complete
  | .unreadable skippable => skippable

/-- `isSkippable` for every item. -/
def allSkippable : List Document → Bool
  | [] => true
  | item :: rest => item.isSkippable && allSkippable rest

/-- `isSkippable` for the value of every field. -/
def allFieldsSkippable : List (Option String × Document) → Bool
  | [] => true
  | (_, value) :: rest => value.isSkippable && allFieldsSkippable rest

end

mutual

/-- Makes every array and object unreadable that is nested in more than `depth` others. -/
def limitDepth : Nat → Document → Document
  | 0, .array items complete => .unreadable (isSkippable (.array items complete))
  | 0, .object fields complete => .unreadable (isSkippable (.object fields complete))
  | depth + 1, .array items complete => .array (limitItems depth items) complete
  | depth + 1, .object fields complete => .object (limitFields depth fields) complete
  | _, .null => .null
  | _, .bool value => .bool value
  | _, .number value => .number value
  | _, .string value => .string value
  | _, .unreadable skippable => .unreadable skippable

/-- `limitDepth` on every item. -/
def limitItems (depth : Nat) : List Document → List Document
  | [] => []
  | item :: rest => limitDepth depth item :: limitItems depth rest

/-- `limitDepth` on the value of every field. -/
def limitFields (depth : Nat) : List (Option String × Document) → List (Option String × Document)
  | [] => []
  | (key, value) :: rest => (key, limitDepth depth value) :: limitFields depth rest

end

mutual

/-- The value of a document without faults, the fields of its objects sorted by key. -/
def toJson? : Document → Option Json
  | .null => some .null
  | .bool value => some (.bool value)
  | .number value => some (.number value)
  | .string value => some (.string value)
  | .array items complete =>
      match toItems? items with
      | some values => if complete then some (.array values) else none
      | none => none
  | .object fields complete =>
      match toFields? fields with
      | some entries => if complete then some (.object (Json.collectFields entries)) else none
      | none => none
  | .unreadable _ => none

def toItems? : List Document → Option (List Json)
  | [] => some []
  | item :: rest =>
      match item.toJson?, toItems? rest with
      | some value, some values => some (value :: values)
      | _, _ => none

def toFields? : List (Option String × Document) → Option (List (String × Json))
  | [] => some []
  | (key, item) :: rest =>
      match key, item.toJson?, toFields? rest with
      | some key, some value, some entries => some ((key, value) :: entries)
      | _, _, _ => none

end

end Document

end LightningGateway
