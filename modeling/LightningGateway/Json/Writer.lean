import LightningGateway.Json
import LightningGateway.Binary64.Decimal

/-!
# Writing JSON

The compact form, without any blank, and the form for readers, with two blanks of
indentation for each level. Strings escape quotes, backslashes and control characters;
all other characters stand for themselves.
-/

namespace LightningGateway.Json

def writtenCharacter (character : Char) : List Char :=
  match character with
  | '"' => ['\\', '"']
  | '\\' => ['\\', '\\']
  | '\n' => ['\\', 'n']
  | '\r' => ['\\', 'r']
  | '\t' => ['\\', 't']
  | '\x08' => ['\\', 'b']
  | '\x0c' => ['\\', 'f']
  | _ =>
      if character.toNat < 0x20 then ['\\', 'u'] ++ Text.paddedHex 4 character.toNat
      else [character]

def writtenString (text : String) : List Char :=
  '"' :: text.toList.flatMap writtenCharacter ++ ['"']

/-- A number: integers without a point, floating point numbers always with a point or exponent. -/
def writtenNumber : JsonNumber → List Char
  | .integer value => (Text.signedNumeral value).toList
  | .double value => value.text.toList

mutual

def compactCharacters : Json → List Char
  | .null => "null".toList
  | .bool true => "true".toList
  | .bool false => "false".toList
  | .number value => writtenNumber value
  | .string value => writtenString value
  | .array items => '[' :: compactItems items ++ [']']
  | .object fields => '\x7b' :: compactFields fields ++ ['\x7d']

/-- The items of an array, with commas between them. -/
def compactItems : List Json → List Char
  | [] => []
  | [last] => last.compactCharacters
  | item :: rest => item.compactCharacters ++ ',' :: compactItems rest

/-- The fields of an object, with commas between them. -/
def compactFields : List (String × Json) → List Char
  | [] => []
  | [(key, last)] => writtenString key ++ ':' :: last.compactCharacters
  | (key, value) :: rest =>
      writtenString key ++ ':' :: value.compactCharacters ++ ',' :: compactFields rest

end

def compact (value : Json) : String := String.ofList value.compactCharacters

/-- The compact form with the fields of every object sorted by key. -/
def sortedText (value : Json) : String := value.sortFields.compact

def lineBreak (level : Nat) : List Char := '\n' :: List.replicate (2 * level) ' '

mutual

/-- The characters of the indented form, on a line of the given level. -/
def prettyCharacters (level : Nat) : Json → List Char
  | .null => "null".toList
  | .bool true => "true".toList
  | .bool false => "false".toList
  | .number value => writtenNumber value
  | .string value => writtenString value
  | .array [] => "[]".toList
  | .array items => '[' :: prettyItems (level + 1) items ++ lineBreak level ++ [']']
  | .object [] => ['\x7b', '\x7d']
  | .object fields => '\x7b' :: prettyFields (level + 1) fields ++ lineBreak level ++ ['\x7d']

/-- The items of an array, each on a line of its own. -/
def prettyItems (level : Nat) : List Json → List Char
  | [] => []
  | [last] => lineBreak level ++ last.prettyCharacters level
  | item :: rest =>
      lineBreak level ++ item.prettyCharacters level ++ ',' :: prettyItems level rest

/-- The fields of an object, each on a line of its own. -/
def prettyFields (level : Nat) : List (String × Json) → List Char
  | [] => []
  | [(key, last)] =>
      lineBreak level ++ writtenString key ++ ':' :: ' ' :: last.prettyCharacters level
  | (key, value) :: rest =>
      lineBreak level ++ writtenString key ++ ':' :: ' ' :: value.prettyCharacters level ++
        ',' :: prettyFields level rest

end

def pretty (value : Json) : String := String.ofList (value.prettyCharacters 0)

end LightningGateway.Json
