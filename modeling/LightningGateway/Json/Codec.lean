import LightningGateway.Json.DecodeError
import LightningGateway.Json.Reader

/-!
# Codecs

A `Codec` reads and writes one type of values. Reading walks through a document in
the order in which it was written and stops at the first error.
-/

namespace LightningGateway

/-- Where a document comes from. A value that was read before has no faults of its own left, so
surplus items are an error about its length; in a text they are an error about the text. -/
inductive Origin where
  | text
  | value
  /-- A part that was kept until it was known what it had to be. -/
  | kept
  /-- A file of settings, which has no null and in which surplus items are passed over. -/
  | settings
  deriving Repr, BEq, DecidableEq

/-- How values of a type are read and written. -/
structure Codec (α : Type) where
  read : Origin → Document → Except DecodeError α
  write : α → Json
  /-- The value of a field that is not there. -/
  absent : Option α

namespace Codec

def text : Codec String where
  read
    | _, .string value => .ok value
    | _, document => .error (.mismatch "a string" document)
  write := .string
  absent := none

def boolean : Codec Bool where
  read
    | _, .bool value => .ok value
    | _, document => .error (.mismatch "a boolean" document)
  write := .bool
  absent := none

/-- Reads an integer from `0` to `limit - 1`. -/
def readNatural (limit : Nat) (expected : String) : Document → Except DecodeError Nat
  | .number (.integer value) =>
      if 0 ≤ value ∧ value < limit then .ok value.toNat
      else .error (.invalidValue (.number (.integer value)) expected)
  | document => .error (.mismatch expected document)

def word16 : Codec UInt16 where
  read _ document := (readNatural Bound.word16 "u16" document).map UInt16.ofNat
  write value := .ofNat value.toNat
  absent := none

def word32 : Codec UInt32 where
  read _ document := (readNatural Bound.word32 "u32" document).map UInt32.ofNat
  write value := .ofNat value.toNat
  absent := none

def word64 : Codec UInt64 where
  read _ document := (readNatural Bound.word64 "u64" document).map UInt64.ofNat
  write value := .ofNat value.toNat
  absent := none

/-- Counts and positions, which have the range of integers of 64 bits. -/
def size : Codec UInt64 where
  read _ document := (readNatural Bound.word64 "usize" document).map UInt64.ofNat
  write value := .ofNat value.toNat
  absent := none

def signed64 : Codec Int where
  read
    | _, .number (.integer value) =>
        if value < Bound.signed64 then .ok value
        else .error (.invalidValue (.number (.integer value)) "i64")
    | _, document => .error (.mismatch "i64" document)
  write value := .number (.integer value)
  absent := none

def readDouble : Document → Except DecodeError Binary64
  | .number (.integer value) => .ok (.ofInt value)
  | .number (.double value) => .ok value
  | document => .error (.mismatch "f64" document)

def json : Codec Json where
  read _ document :=
    match document.toJson? with
    | some value => .ok value
    | none => .error .malformed
  write value := value
  absent := none

/-- A value or `null`; a field that is not there counts as `null`. -/
def optional {α : Type} (codec : Codec α) : Codec (Option α) where
  read
    | _, .null => .ok none
    | origin, document => (codec.read origin document).map some
  write
    | none => .null
    | some value => codec.write value
  absent := some none

def readAll {α : Type} (codec : Codec α) (origin : Origin) :
    List Document → Except DecodeError (List α)
  | [] => .ok []
  | item :: rest =>
      match codec.read origin item with
      | .error error => .error error
      | .ok value => (readAll codec origin rest).map (value :: ·)

def list {α : Type} (codec : Codec α) : Codec (List α) where
  read
    | origin, .array items complete =>
        match readAll codec origin items with
        | .error error => .error error
        | .ok values => if complete then .ok values else .error .malformed
    | _, document => .error (.mismatch "a sequence" document)
  write values := .array (values.map codec.write)
  absent := none

def variantNamed {α : Type} (variants : List (String × α)) (name : String) :
    Except DecodeError α :=
  match variants.lookup name with
  | some value => .ok value
  | none => .error (.unknownVariant name (variants.map Prod.fst))

/-- What the content of a variant without content may be: `null`, or in settings, which have no
null, something empty. -/
def readUnit : Origin → Document → Except DecodeError Unit
  | .settings, .array [] true => .ok ()
  | .settings, .object [] true => .ok ()
  | _, .null => .ok ()
  | _, document => .error (.mismatch "unit" document)

/-- The error for a document that is neither a name nor an object with a single key. -/
def notAVariant (origin : Origin) : Document → DecodeError
  | .object _ _ =>
      match origin with
      | .text => .malformed
      | .value | .kept | .settings => .invalidValue .map "map with a single key"
  | document =>
      match origin with
      | .text => .malformed
      | .value | .kept | .settings => .mismatch "string or map" document

/-- Types with finitely many values, each written as its name. A name may also be the only key of
an object that maps it to `null`. -/
def enumeration {α : Type} (variants : List (String × α)) (nameOf : α → String) : Codec α where
  read
    | _, .string name => variantNamed variants name
    | origin, .object [(some name, content)] true =>
        match variantNamed variants name with
        | .error error => .error error
        | .ok value => (readUnit origin content).map fun _ => value
    | origin, document => .error (notAVariant origin document)
  write value := .string (nameOf value)
  absent := none

/-- Reads a value that was read before without knowing what it means. -/
def decode {α : Type} (codec : Codec α) (value : Json) : Except DecodeError α :=
  codec.read .value (.ofJson value)

/-- Reads a text. What follows the value is looked at last. -/
def decodeText {α : Type} (codec : Codec α) (source : String) : Except DecodeError α :=
  match Document.ofText source with
  | (document, clean) =>
      match codec.read .text document with
      | .error error => .error error
      | .ok value => if clean then .ok value else .error .malformed

end Codec

end LightningGateway
