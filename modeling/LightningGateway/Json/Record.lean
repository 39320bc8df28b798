import LightningGateway.Json.Codec

/-!
# Records

A `Layout` lists the fields of a record in the order of their declaration. It reads a
record from an object, whose fields may come in any order, or from an array that holds
the fields in that order, and it writes the object. Fields that a layout does not know
are passed over.
-/

namespace LightningGateway

/-- The fields of a record. The first index is the type of the row that holds their values, the
second the type of a row in which values may still be missing. -/
inductive Layout : Type → Type → Type 1 where
  | done : Layout Unit Unit
  /-- A field with its name, its codec and the value that stands in when it is left out. -/
  | field {α ρ σ : Type} (name : String) (codec : Codec α) (fallback : Option α)
      (rest : Layout ρ σ) : Layout (α × ρ) (Option α × σ)

namespace Layout

/-- A field that has no value of its own to stand in. -/
def required {α ρ σ : Type} (name : String) (codec : Codec α) (rest : Layout ρ σ) :
    Layout (α × ρ) (Option α × σ) :=
  .field name codec none rest

def defaulted {α ρ σ : Type} (name : String) (codec : Codec α) (value : α) (rest : Layout ρ σ) :
    Layout (α × ρ) (Option α × σ) :=
  .field name codec (some value) rest

def length {ρ σ : Type} : Layout ρ σ → Nat
  | .done => 0
  | .field _ _ _ rest => rest.length + 1

def names {ρ σ : Type} : Layout ρ σ → List String
  | .done => []
  | .field name _ _ rest => name :: rest.names

def noSlots {ρ σ : Type} : Layout ρ σ → σ
  | .done => ()
  | .field _ _ _ rest => (none, rest.noSlots)

/-- Reads the value of one key into its slot; the value of an unknown key is passed over. -/
def fill (origin : Origin) (key : String) (document : Document) {ρ σ : Type} :
    Layout ρ σ → σ → Except DecodeError σ
  | .done, () => if document.isSkippable then .ok () else .error .malformed
  | .field name codec _ rest, (held, others) =>
      if key = name then
        match held with
        | some _ => .error (.duplicateField name)
        | none =>
            match codec.read origin document with
            | .error error => .error error
            | .ok value => .ok (some value, others)
      else
        match fill origin key document rest others with
        | .error error => .error error
        | .ok others => .ok (held, others)

def fillAll (origin : Origin) {ρ σ : Type} (layout : Layout ρ σ) :
    List (Option String × Document) → σ → Except DecodeError σ
  | [], slots => .ok slots
  | (none, _) :: _, _ => .error .malformed
  | (some key, document) :: rest, slots =>
      match layout.fill origin key document slots with
      | .error error => .error error
      | .ok slots => layout.fillAll origin rest slots

/-- The row of the slots. The first field without a value, in the order of declaration, is
missing. -/
def finish {ρ σ : Type} : Layout ρ σ → σ → Except DecodeError ρ
  | .done, () => .ok ()
  | .field name codec fallback rest, (held, others) =>
      match (held <|> fallback <|> codec.absent) with
      | none => .error (.missingField name)
      | some value => (rest.finish others).map fun row => (value, row)

/-- A number of elements, in words. -/
def elements (length : Nat) : String :=
  Text.numeral length ++ (if length = 1 then " element" else " elements")

/-- The description of a record of a given number of fields. -/
def expectation (typeName : String) (length : Nat) : String :=
  "struct " ++ typeName ++ " with " ++ elements length

/-- What is wrong with an array that has more items than there are fields, if anything is. -/
def surplus? (origin : Origin) (length items : Nat) : Option DecodeError :=
  match origin with
  | .text => some .malformed
  | .value => some (.invalidLength items "fewer elements in array")
  | .kept => some (.invalidLength items (elements length ++ " in sequence"))
  | .settings => none

/-- Reads the fields from items in the order of declaration, `position` items having been read.
Returns the items left over. -/
def readPositions (origin : Origin) (complete : Bool) (expected : String) {ρ σ : Type} :
    Layout ρ σ → Nat → List Document → Except DecodeError (ρ × List Document)
  | .done, _, items => .ok ((), items)
  | .field _ codec _ rest, position, item :: items =>
      match codec.read origin item with
      | .error error => .error error
      | .ok value =>
          (readPositions origin complete expected rest (position + 1) items).map
            fun (row, left) => ((value, row), left)
  | .field _ _ fallback rest, position, [] =>
      if complete then
        match fallback with
        | none => .error (.invalidLength position expected)
        | some value =>
            (readPositions origin complete expected rest (position + 1) []).map
              fun (row, left) => ((value, row), left)
      else
        .error .malformed

def read (typeName : String) {ρ σ : Type} (layout : Layout ρ σ) (origin : Origin) :
    Document → Except DecodeError ρ
  | .object fields complete =>
      match layout.fillAll origin fields layout.noSlots with
      | .error error => .error error
      | .ok slots => if complete then layout.finish slots else .error .malformed
  | .array items complete =>
      let expected := expectation typeName layout.length
      match layout.readPositions origin complete expected 0 items with
      | .error error => .error error
      | .ok (row, []) => if complete then .ok row else .error .malformed
      | .ok (row, _ :: _) =>
          match surplus? origin layout.length items.length with
          | some error => .error error
          | none => .ok row
  | document => .error (.mismatch ("struct " ++ typeName) document)

/-- The fields of a row, in the order of declaration. -/
def write {ρ σ : Type} : Layout ρ σ → ρ → List (String × Json)
  | .done, () => []
  | .field name codec _ rest, (value, row) => (name, codec.write value) :: rest.write row

end Layout

/-- The codec of a record type that is the same as the rows of a layout. -/
def Codec.record {α ρ σ : Type} (typeName : String) (layout : Layout ρ σ) (ofRow : ρ → α)
    (toRow : α → ρ) : Codec α where
  read origin document := (layout.read typeName origin document).map ofRow
  write value := .object (layout.write (toRow value))
  absent := none

end LightningGateway
