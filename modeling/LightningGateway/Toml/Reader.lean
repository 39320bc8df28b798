import LightningGateway.Toml.Quotation
import LightningGateway.Toml.Scalar
import LightningGateway.Toml.Table

/-!
# Reading TOML

From characters to a table. Arrays and tables between braces may go over several lines
and may end with a comma. The recursion is bounded by a number that `read` takes from
the length of the text; values may be nested in up to 80 others.
-/

namespace LightningGateway.Toml

def isKeyCharacter (character : Char) : Bool :=
  ('a' ≤ character && character ≤ 'z') || ('A' ≤ character && character ≤ 'Z') ||
    Text.isDigit character || character == '-' || character == '_'

/-- Drops a comment, up to the end of its line. -/
def afterComment? (characters : List Char) : Option (List Char) :=
  let body := characters.takeWhile (· != '\n')
  let body := if body.getLast? = some '\r' then body.dropLast else body
  if body.any isForbidden then none
  else some (characters.drop body.length)

/-- Drops spaces, line ends and comments. -/
def skipTrivia : Nat → List Char → Option (List Char)
  | 0, _ => none
  | fuel + 1, characters =>
      match skipLines characters with
      | '#' :: rest => (afterComment? rest).bind (skipTrivia fuel)
      | rest => some rest

/-- Reads the rest of a line that holds nothing more than a comment. -/
def finishLine (characters : List Char) : Option (List Char) :=
  match skipSpaces characters with
  | [] => some []
  | '#' :: rest =>
      match afterComment? rest with
      | some [] => some []
      | some rest => afterLineEnd? rest
      | none => none
  | rest => afterLineEnd? rest

def readKeyPart : List Char → Option (String × List Char)
  | head :: rest =>
      if head == '"' || head == '\'' then readQuoted false (head :: rest)
      else
        let part := (head :: rest).takeWhile isKeyCharacter
        if part.isEmpty then none
        else some (String.ofList part, (head :: rest).dropWhile isKeyCharacter)
  | [] => none

/-- Reads a key with all its parts, and the spaces after it. -/
def readKey : Nat → List Char → Option (KeyPath × List Char)
  | 0, _ => none
  | fuel + 1, characters =>
      match readKeyPart characters with
      | none => none
      | some (part, rest) =>
          match skipSpaces rest with
          | '.' :: rest =>
              (readKey fuel (skipSpaces rest)).map fun (path, rest) =>
                (⟨part :: path.parents, path.key⟩, rest)
          | rest => some (⟨[], part⟩, rest)

def depthLimit : Nat := 80

mutual

/-- Reads a value that is nested in `depth` others. -/
def readValue : Nat → Nat → List Char → Option (Value × List Char)
  | 0, _, _ => none
  | fuel + 1, depth, characters =>
      match characters with
      | [] => none
      | head :: rest =>
          if head == '"' || head == '\'' then
            (readQuoted true characters).map fun (text, rest) => (.text text, rest)
          else if head == '[' then
            if depth < depthLimit then
              (readItems fuel (depth + 1) rest).map fun (items, rest) => (.array false items, rest)
            else none
          else if head == '\x7b' then
            if depth < depthLimit then
              match readPairs fuel (depth + 1) rest with
              | some (pairs, rest) =>
                  (Entries.assignAll pairs []).map fun entries => (.table .inlined entries, rest)
              | none => none
            else none
          else
            let (word, rest) := splitWord characters
            (word? word).map fun value => (value, rest)

/-- Reads the items of an array up to its closing bracket. -/
def readItems : Nat → Nat → List Char → Option (List Value × List Char)
  | 0, _, _ => none
  | fuel + 1, depth, characters =>
      match skipTrivia (characters.length + 1) characters with
      | none => none
      | some (']' :: rest) => some ([], rest)
      | some characters =>
          match readValue fuel depth characters with
          | none => none
          | some (item, rest) =>
              match skipTrivia (rest.length + 1) rest with
              | some (']' :: rest) => some ([item], rest)
              | some (',' :: rest) =>
                  (readItems fuel depth rest).map fun (items, rest) => (item :: items, rest)
              | _ => none

/-- Reads the entries of a table up to its closing brace. -/
def readPairs : Nat → Nat → List Char → Option (List Assignment × List Char)
  | 0, _, _ => none
  | fuel + 1, depth, characters =>
      match skipTrivia (characters.length + 1) characters with
      | none => none
      | some ('\x7d' :: rest) => some ([], rest)
      | some characters =>
          match readPair fuel depth characters with
          | none => none
          | some (pair, rest) =>
              match skipTrivia (rest.length + 1) rest with
              | some ('\x7d' :: rest) => some ([pair], rest)
              | some (',' :: rest) =>
                  (readPairs fuel depth rest).map fun (pairs, rest) => (pair :: pairs, rest)
              | _ => none

/-- Reads a key, an equals sign and a value. -/
def readPair : Nat → Nat → List Char → Option (Assignment × List Char)
  | 0, _, _ => none
  | fuel + 1, depth, characters =>
      match readKey (characters.length + 1) characters with
      | some (path, '=' :: rest) =>
          (readValue fuel depth (skipSpaces rest)).map fun (value, rest) => (⟨path, value⟩, rest)
      | _ => none

end

/-- A line of a file. -/
inductive Line where
  | header (isElement : Bool) (path : KeyPath)
  | assignment (assignment : Assignment)
  deriving Repr

/-- Reads the path of a header and its closing brackets. -/
def readHeader (isElement : Bool) (characters : List Char) : Option (Line × List Char) :=
  match readKey (characters.length + 1) (skipSpaces characters) with
  | some (path, rest) =>
      match isElement, rest with
      | false, ']' :: rest => some (.header false path, rest)
      | true, ']' :: ']' :: rest => some (.header true path, rest)
      | _, _ => none
  | none => none

def readLine (fuel : Nat) : List Char → Option (Line × List Char)
  | '[' :: '[' :: rest => readHeader true rest
  | '[' :: rest => readHeader false rest
  | characters =>
      (readPair fuel 0 characters).map fun (assignment, rest) => (.assignment assignment, rest)

def readAllLines : Nat → List Char → Option (List Line)
  | 0, _ => none
  | fuel + 1, characters =>
      match skipTrivia (characters.length + 1) characters with
      | none => none
      | some [] => some []
      | some characters =>
          match readLine fuel characters with
          | none => none
          | some (line, rest) =>
              (finishLine rest).bind fun rest => (readAllLines fuel rest).map (line :: ·)

/-- Groups lines: the assignments before the first header, and the sections. -/
def group : List Line → List Assignment × List Section
  | [] => ([], [])
  | .assignment assignment :: rest =>
      let (assignments, sections) := group rest
      (assignment :: assignments, sections)
  | .header isElement path :: rest =>
      let (assignments, sections) := group rest
      ([], ⟨isElement, path, assignments⟩ :: sections)

/-- The table that a text gives. A mark of the byte order at its beginning is passed over. -/
def read (text : String) : Option Entries :=
  let characters :=
    match text.toList with
    | '\uFEFF' :: rest => rest
    | characters => characters
  (readAllLines (2 * characters.length + 2) characters).bind fun lines =>
    let (assignments, sections) := group lines
    (Entries.assignAll assignments []).bind (Entries.addSections sections)

end LightningGateway.Toml
