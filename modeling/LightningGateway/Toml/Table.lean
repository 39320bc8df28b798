import LightningGateway.Toml.Value

/-!
# Building tables

A TOML file gives its tables piece by piece: with dotted keys, with headers and with
headers of arrays. No key may get two values, a header may not be repeated, and what was
written between braces or brackets stays as it is.
-/

namespace LightningGateway.Toml

/-- The entries of a table, in the order in which their keys first appear. -/
abbrev Entries := List (String × Value)

/-- A key with the keys of the tables that lead to it. -/
structure KeyPath where
  parents : List String
  key : String
  deriving Repr, BEq, DecidableEq

/-- A key path that is given a value. -/
structure Assignment where
  path : KeyPath
  value : Value
  deriving Repr

/-- A header, with the assignments below it. -/
structure Section where
  /-- Whether the header begins an element of an array of tables. -/
  isElement : Bool
  path : KeyPath
  body : List Assignment
  deriving Repr

namespace Entries

/-- Puts a value in the place of the one with the same key, or at the end. -/
def put (key : String) (value : Value) : Entries → Entries
  | [] => [(key, value)]
  | (other, old) :: rest =>
      if other = key then (key, value) :: rest else (other, old) :: put key value rest

/-- Whether a dotted key may go on through a table; its last table must come from dotted keys. -/
def opensToDots (isLast : Bool) : TableKind → Bool
  | .dotted => true
  | .implied => !isLast
  | .headed | .inlined => false

/-- Gives a key its value, making the tables that lead to it. -/
def assign (key : String) (value : Value) : List String → Entries → Option Entries
  | [], entries => if (entries.lookup key).isSome then none else some (entries ++ [(key, value)])
  | parent :: rest, entries =>
      match entries.lookup parent with
      | none =>
          (assign key value rest []).map fun inner => entries ++ [(parent, .table .dotted inner)]
      | some (.table kind inner) =>
          if opensToDots rest.isEmpty kind then
            (assign key value rest inner).map fun inner => put parent (.table kind inner) entries
          else none
      | some _ => none

def assignAll : List Assignment → Entries → Option Entries
  | [], entries => some entries
  | assignment :: rest, entries =>
      (assign assignment.path.key assignment.value assignment.path.parents entries).bind
        (assignAll rest)

/-- The table that a header makes of what is there already. -/
def headTable (body : List Assignment) : Option Value → Option Value
  | none => (assignAll body []).map (.table .headed)
  | some (.table .implied entries) => (assignAll body entries).map (.table .headed)
  | some _ => none

/-- The array that a header of an element makes of what is there already. -/
def headElement (body : List Assignment) : Option Value → Option Value
  | none => (assignAll body []).map fun entries => .array true [.table .headed entries]
  | some (.array true items) =>
      (assignAll body []).map fun entries => .array true (items ++ [.table .headed entries])
  | some _ => none

def changeLast (change : Entries → Option Entries) : List Value → Option (List Value)
  | [] => none
  | [.table kind entries] => (change entries).map fun entries => [.table kind entries]
  | [_] => none
  | item :: rest => (changeLast change rest).map (item :: ·)

/-- Changes the value at the end of a path, going through tables and the last tables of arrays. -/
def changeAt (key : String) (change : Option Value → Option Value) :
    List String → Entries → Option Entries
  | [], entries => (change (entries.lookup key)).map fun value => put key value entries
  | parent :: rest, entries =>
      match entries.lookup parent with
      | none =>
          (changeAt key change rest []).map fun inner =>
            entries ++ [(parent, .table .implied inner)]
      | some (.table .inlined _) => none
      | some (.table kind inner) =>
          (changeAt key change rest inner).map fun inner => put parent (.table kind inner) entries
      | some (.array true items) =>
          (changeLast (changeAt key change rest) items).map fun items =>
            put parent (.array true items) entries
      | some _ => none

def addSection (part : Section) : Entries → Option Entries :=
  changeAt part.path.key (if part.isElement then headElement part.body else headTable part.body)
    part.path.parents

def addSections : List Section → Entries → Option Entries
  | [], entries => some entries
  | part :: rest, entries => (addSection part entries).bind (addSections rest)

end Entries

end LightningGateway.Toml
