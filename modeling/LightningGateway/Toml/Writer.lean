import LightningGateway.Json
import LightningGateway.Toml.Quotation

/-!
# Writing TOML

Sections of settings. A text is written in the plainest quotation that holds it: with
double quotes, with single quotes if it needs no escape then, or with escapes. Integers
have at most 64 bits with their sign.
-/

namespace LightningGateway.Toml

def escapedCharacter (character : Char) : List Char :=
  match character with
  | '\x08' => ['\\', 'b']
  | '\t' => ['\\', 't']
  | '\n' => ['\\', 'n']
  | '\x0c' => ['\\', 'f']
  | '\r' => ['\\', 'r']
  | '"' => ['\\', '"']
  | '\\' => ['\\', '\\']
  | _ =>
      if isForbidden character then
        ['\\', 'u'] ++ (Text.paddedHex 4 character.toNat).map Char.toUpper
      else [character]

/-- One character in a quotation with escapes on several lines. -/
def escapedInBlock (character : Char) : List Char :=
  if character == '\n' then ['\n'] else escapedCharacter character

def longestRun (mark : Char) (characters : List Char) : Nat :=
  (characters.foldl
    (fun (current, longest) character =>
      if character == mark then (current + 1, max longest (current + 1)) else (0, longest))
    (0, 0)).2

def quotation (text : String) : List Char :=
  let characters := text.toList
  let hasLines := characters.contains '\n'
  let hasControl := characters.any fun character => isForbidden character && character != '\n'
  let hasEscape := characters.any fun character => character == '\\' || character == '"'
  let opening : List Char := if hasLines then ['\n'] else []
  let double := ['"', '"', '"']
  let single := ['\'', '\'', '\'']
  if !hasLines && !hasControl && !hasEscape then
    '"' :: characters.flatMap escapedCharacter ++ ['"']
  else if !hasLines && !hasControl && !characters.contains '\'' then
    '\'' :: characters ++ ['\'']
  else if !hasControl && !characters.contains '\\' && longestRun '"' characters < 3 then
    double ++ opening ++
      characters.flatMap
        (fun character => if character == '\t' then ['\\', 't'] else [character]) ++
      double
  else if !hasControl && longestRun '\'' characters < 3 then
    single ++ opening ++ characters ++ single
  else if hasLines then
    double ++ opening ++ characters.flatMap escapedInBlock ++ double
  else
    '"' :: characters.flatMap escapedCharacter ++ ['"']

/-- A setting, if it is a text or an integer that fits; a setting that is `null` is left out. -/
def setting? (key : String) : Json → Option (List Char)
  | .null => some []
  | .string text => some (key.toList ++ [' ', '=', ' '] ++ quotation text ++ ['\n'])
  | .number (.integer value) =>
      if -(Bound.signed64 : Int) ≤ value ∧ value < Bound.signed64 then
        some (key.toList ++ [' ', '=', ' '] ++ (Text.signedNumeral value).toList ++ ['\n'])
      else none
  | _ => none

def settings? : List (String × Json) → Option (List Char)
  | [] => some []
  | (key, value) :: rest =>
      (setting? key value).bind fun line => (settings? rest).map (line ++ ·)

/-- A section with its header; one that is `null` is left out. -/
def section? (name : String) : Json → Option (List (List Char))
  | .null => some []
  | .object fields =>
      (settings? fields).map fun lines => [['['] ++ name.toList ++ [']', '\n'] ++ lines]
  | _ => none

def sections? : List (String × Json) → Option (List (List Char))
  | [] => some []
  | (name, value) :: rest =>
      (section? name value).bind fun part => (sections? rest).map (part ++ ·)

/-- A file of sections, with an empty line between neighbours. -/
def write? (settings : Json) : Option String :=
  match settings with
  | .object fields =>
      (sections? fields).map fun parts => String.ofList (List.intercalate ['\n'] parts)
  | _ => none

end LightningGateway.Toml
