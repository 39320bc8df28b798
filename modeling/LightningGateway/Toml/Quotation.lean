import LightningGateway.Text.Numeral

/-!
# Quoted texts in TOML

The four kinds of quoted texts: with and without escapes, on one line and on several.
Reading starts after the opening quotes and returns the text and the characters after
the closing ones.
-/

namespace LightningGateway.Toml

/-- Control characters that may not stand in a file by themselves. -/
def isForbidden (character : Char) : Bool :=
  (character.toNat < 0x20 && character != '\t') || character.toNat == 0x7F

def isSpace (character : Char) : Bool := character == ' ' || character == '\t'

def skipSpaces (characters : List Char) : List Char := characters.dropWhile isSpace

def afterLineEnd? : List Char → Option (List Char)
  | '\n' :: rest => some rest
  | '\r' :: '\n' :: rest => some rest
  | _ => none

def hexValue? : Nat → List Char → Option Nat
  | value, [] => some value
  | value, head :: rest =>
      (Text.hexDigitValue? head).bind fun digit => hexValue? (value * 16 + digit) rest

/-- The character with the code point that stands at the front in some digits. -/
def codePoint? (count : Nat) (characters : List Char) : Option (Char × List Char) :=
  if characters.length < count then none
  else
    (hexValue? 0 (characters.take count)).bind fun point =>
      if point.isValidChar then some (Char.ofNat point, characters.drop count) else none

/-- The character of an escape, after its backslash. -/
def escape? : List Char → Option (Char × List Char)
  | 'b' :: rest => some ('\x08', rest)
  | 't' :: rest => some ('\t', rest)
  | 'n' :: rest => some ('\n', rest)
  | 'f' :: rest => some ('\x0c', rest)
  | 'r' :: rest => some ('\r', rest)
  | 'e' :: rest => some ('\x1b', rest)
  | '"' :: rest => some ('"', rest)
  | '\\' :: rest => some ('\\', rest)
  | 'x' :: rest => codePoint? 2 rest
  | 'u' :: rest => codePoint? 4 rest
  | 'U' :: rest => codePoint? 8 rest
  | _ => none

/-- Reads a text with escapes on one line. The characters so far come in reverse order. -/
def readBasic : Nat → List Char → List Char → Option (String × List Char)
  | 0, _, _ => none
  | _ + 1, _, [] => none
  | fuel + 1, found, head :: rest =>
      if head == '"' then some (String.ofList found.reverse, rest)
      else if head == '\\' then
        match escape? rest with
        | some (character, rest) => readBasic fuel (character :: found) rest
        | none => none
      else if isForbidden head then none
      else readBasic fuel (head :: found) rest

def readLiteral (characters : List Char) : Option (String × List Char) :=
  let body := characters.takeWhile (· != '\'')
  match characters.dropWhile (· != '\'') with
  | _ :: rest => if body.any isForbidden then none else some (String.ofList body, rest)
  | [] => none

def skipLines : List Char → List Char
  | ' ' :: rest => skipLines rest
  | '\t' :: rest => skipLines rest
  | '\n' :: rest => skipLines rest
  | '\r' :: '\n' :: rest => skipLines rest
  | characters => characters

/-- Takes a run of quotes. A run of three to five closes the text and may begin with two quotes
that belong to it; a shorter run belongs to the text. Returns the quotes that belong to the text,
whether the text ends, and the characters after the run. -/
def takeQuotes (quote : Char) (characters : List Char) : List Char × Bool × List Char :=
  let run := (characters.takeWhile (· == quote)).length
  if run < 3 then (List.replicate run quote, false, characters.drop run)
  else
    let taken := min run 5
    (List.replicate (taken - 3) quote, true, characters.drop taken)

/-- Reads a text on several lines, with or without escapes. -/
def readLines (quote : Char) (escapes : Bool) :
    Nat → List Char → List Char → Option (String × List Char)
  | 0, _, _ => none
  | _ + 1, _, [] => none
  | fuel + 1, found, head :: rest =>
      if head == quote then
        match takeQuotes quote (head :: rest) with
        | (quotes, true, rest) => some (String.ofList (quotes ++ found).reverse, rest)
        | (quotes, false, rest) => readLines quote escapes fuel (quotes ++ found) rest
      else if escapes && head == '\\' then
        match afterLineEnd? (skipSpaces rest) with
        | some rest => readLines quote escapes fuel found (skipLines rest)
        | none =>
            match escape? rest with
            | some (character, rest) => readLines quote escapes fuel (character :: found) rest
            | none => none
      else
        match afterLineEnd? (head :: rest) with
        | some rest => readLines quote escapes fuel ('\n' :: found) rest
        | none =>
            if isForbidden head then none
            else readLines quote escapes fuel (head :: found) rest

/-- Reads a text on several lines after its opening quotes; a line end right after them is not
part of the text. -/
def readBlock (quote : Char) (escapes : Bool) (characters : List Char) :
    Option (String × List Char) :=
  readLines quote escapes (characters.length + 1) []
    ((afterLineEnd? characters).getD characters)

/-- Reads a quoted text of any kind, on several lines only where that is allowed. -/
def readQuoted (severalLines : Bool) : List Char → Option (String × List Char)
  | '"' :: '"' :: '"' :: rest => if severalLines then readBlock '"' true rest else none
  | '\'' :: '\'' :: '\'' :: rest => if severalLines then readBlock '\'' false rest else none
  | '"' :: rest => readBasic (rest.length + 1) [] rest
  | '\'' :: rest => readLiteral rest
  | _ => none

end LightningGateway.Toml
