import LightningGateway.Json.Document
import LightningGateway.Binary64.Decimal

/-!
# Reading JSON

From characters to a `Document`. Every reading function returns what it found and, if
the text is well formed so far, the characters after it. The recursion is bounded by a
number that `Document.ofText` takes from the length of the text.
-/

namespace LightningGateway

namespace JsonNumber

/-- Continues a significand with digits as long as it fits into 64 bits. Returns the significand,
the number of digits taken, and the digits left over. -/
def extendSignificand : Nat → List Char → Nat × Nat × List Char
  | significand, [] => (significand, 0, [])
  | significand, head :: rest =>
      let extended := significand * 10 + (Text.digitValue? head).getD 0
      if extended < Bound.word64 then
        let (total, taken, left) := extendSignificand extended rest
        (total, taken + 1, left)
      else
        (significand, 0, head :: rest)

def powerOfTen (power : Nat) : Binary64 :=
  (Binary64.ofQuotient false (Nat.pow 10 power) 1).getD (Binary64.zero false)

/-- Scales a floating point number by a power of ten, dividing in steps of at most 308 places.
`none` is too large. -/
def scale (number : Binary64) : Nat → Int → Option Binary64
  | 0, _ => some number
  | steps + 1, power =>
      if number.mantissa = 0 then some number
      else if 308 < power then none
      else if 0 ≤ power then number.mul (powerOfTen power.toNat)
      else if -308 ≤ power then number.div (powerOfTen (-power).toNat)
      else
        match number.div (powerOfTen 308) with
        | some scaled => scale scaled steps (power + 308)
        | none => none

/-- A floating point number from a significand of 64 bits and a power of ten. The significand is
rounded first and then scaled, so a result may differ from the nearest number in its last bit. -/
def ofParts (negative : Bool) (significand : Nat) (power : Int) : Option Binary64 :=
  (scale (Binary64.ofNat significand) 4 power).map fun number =>
    { number with negative := negative }

def exponentLimit : Nat := Bound.signed32 - 1

/-- The number of a numeral given by its sign, the digits before and after the point, and the
exponent with its sign. An integer keeps its value as long as 64 bits hold it. -/
def ofNumeral (negative : Bool) (whole : List Char) (fraction : Option (List Char))
    (exponent : Option (Bool × List Char)) : Option JsonNumber :=
  let (significand, _, dropped) := extendSignificand 0 whole
  match fraction, exponent, dropped with
  | none, none, [] =>
      if !negative then some (.integer significand)
      else if significand = 0 ∨ Bound.signed64 < significand then
        some (.double { Binary64.ofNat significand with negative := true })
      else some (.integer (-(significand : Int)))
  | _, _, _ =>
      let (significand, taken, _) := extendSignificand significand (fraction.getD [])
      let power : Int := (dropped.length : Int) - taken
      let (negativeExponent, exponentDigits) := exponent.getD (false, [])
      let size := (Text.continueDigits 0 exponentDigits).getD 0
      if exponentLimit < size then
        if significand = 0 ∨ negativeExponent then some (.double (Binary64.zero negative)) else none
      else
        let power := if negativeExponent then power - size else power + size
        (ofParts negative significand power).map .double

end JsonNumber

namespace Document

def isGap (character : Char) : Bool :=
  character == ' ' || character == '\n' || character == '\t' || character == '\r'

def skipGap (characters : List Char) : List Char := characters.dropWhile isGap

/-- Takes `expected` from the front of the characters. -/
def takeWord (expected : List Char) (document : Document) (characters : List Char) :
    Document × Option (List Char) :=
  if expected.isPrefixOf characters then (document, some (characters.drop expected.length))
  else (.unreadable false, none)

/-- The value of four hexadecimal digits, and the characters after them. -/
def readHex : List Char → Option (Nat × List Char)
  | first :: second :: third :: fourth :: rest =>
      match Text.hexDigitValue? first, Text.hexDigitValue? second, Text.hexDigitValue? third,
        Text.hexDigitValue? fourth with
      | some a, some b, some c, some d => some (((a * 16 + b) * 16 + c) * 16 + d, rest)
      | _, _, _, _ => none
  | _ => none

/-- The second half of a surrogate pair, if the characters begin with its escape. -/
def readLowSurrogate : List Char → Option (Nat × List Char)
  | '\\' :: 'u' :: rest =>
      match readHex rest with
      | some (unit, rest) => if 0xDC00 ≤ unit ∧ unit ≤ 0xDFFF then some (unit, rest) else none
      | none => none
  | _ => none

/-- The character that stands after a backslash in a short escape. -/
def shortEscape? : Char → Option Char
  | '"' => some '"'
  | '\\' => some '\\'
  | '/' => some '/'
  | 'b' => some '\x08'
  | 'f' => some '\x0c'
  | 'n' => some '\n'
  | 'r' => some '\r'
  | 't' => some '\t'
  | _ => none

/-- Reads the rest of a string after its opening quote. The characters so far come in reverse
order; they are `none` once half of a surrogate pair was met. -/
def readString : Nat → Option (List Char) → List Char → Option (Option String × List Char)
  | 0, _, _ => none
  | _ + 1, _, [] => none
  | _ + 1, found, '"' :: rest =>
      some (found.map fun reversed => String.ofList reversed.reverse, rest)
  | fuel + 1, found, '\\' :: 'u' :: rest =>
      match readHex rest with
      | none => none
      | some (unit, rest) =>
          if 0xD800 ≤ unit ∧ unit ≤ 0xDBFF then
            match readLowSurrogate rest with
            | some (low, rest) =>
                let point := 0x10000 + (unit - 0xD800) * 0x400 + (low - 0xDC00)
                readString fuel (found.map (Char.ofNat point :: ·)) rest
            | none => readString fuel none rest
          else if 0xDC00 ≤ unit ∧ unit ≤ 0xDFFF then
            readString fuel none rest
          else
            readString fuel (found.map (Char.ofNat unit :: ·)) rest
  | fuel + 1, found, '\\' :: escape :: rest =>
      match shortEscape? escape with
      | some character => readString fuel (found.map (character :: ·)) rest
      | none => none
  | fuel + 1, found, character :: rest =>
      if character.toNat < 0x20 || character == '\\' then none
      else readString fuel (found.map (character :: ·)) rest

/-- The digits at the front and the characters after them. -/
def spanDigits (characters : List Char) : List Char × List Char :=
  (characters.takeWhile Text.isDigit, characters.dropWhile Text.isDigit)

/-- Reads the digits before the point: a lone zero, or digits that do not begin with zero. -/
def readWhole (characters : List Char) : Option (List Char × List Char) :=
  match spanDigits characters with
  | ([], _) => none
  | (['0'], rest) => some (['0'], rest)
  | ('0' :: _, _) => none
  | (whole, rest) => some (whole, rest)

/-- Reads the point and the digits after it, if there is a point. -/
def readFraction : List Char → Option (Option (List Char) × List Char)
  | '.' :: rest =>
      match spanDigits rest with
      | ([], _) => none
      | (fraction, rest) => some (some fraction, rest)
  | rest => some (none, rest)

def readExponentDigits (negative : Bool) (characters : List Char) :
    Option (Option (Bool × List Char) × List Char) :=
  match spanDigits characters with
  | ([], _) => none
  | (exponent, rest) => some (some (negative, exponent), rest)

/-- Reads the exponent, if there is one. -/
def readExponent : List Char → Option (Option (Bool × List Char) × List Char)
  | head :: rest =>
      if head == 'e' || head == 'E' then
        match rest with
        | '+' :: rest => readExponentDigits false rest
        | '-' :: rest => readExponentDigits true rest
        | rest => readExponentDigits false rest
      else
        some (none, head :: rest)
  | [] => some (none, [])

def readNumber (negative : Bool) (characters : List Char) : Document × Option (List Char) :=
  match readWhole characters with
  | none => (.unreadable false, none)
  | some (whole, rest) =>
      match readFraction rest with
      | none => (.unreadable false, none)
      | some (fraction, rest) =>
          match readExponent rest with
          | none => (.unreadable false, none)
          | some (exponent, rest) =>
              match JsonNumber.ofNumeral negative whole fraction exponent with
              | some value => (.number value, some rest)
              | none => (.unreadable true, some rest)

mutual

def readValue : Nat → List Char → Document × Option (List Char)
  | 0, _ => (.unreadable false, none)
  | fuel + 1, characters =>
      match skipGap characters with
      | 'n' :: rest => takeWord "ull".toList .null rest
      | 't' :: rest => takeWord "rue".toList (.bool true) rest
      | 'f' :: rest => takeWord "alse".toList (.bool false) rest
      | '"' :: rest =>
          match readString (rest.length + 1) (some []) rest with
          | some (some text, rest) => (.string text, some rest)
          | some (none, rest) => (.unreadable true, some rest)
          | none => (.unreadable false, none)
      | '[' :: rest =>
          match skipGap rest with
          | ']' :: rest => (.array [] true, some rest)
          | rest =>
              let (items, after) := readItems fuel rest
              (.array items after.isSome, after)
      | '\x7b' :: rest =>
          match skipGap rest with
          | '\x7d' :: rest => (.object [] true, some rest)
          | rest =>
              let (fields, after) := readFields fuel rest
              (.object fields after.isSome, after)
      | '-' :: rest => readNumber true rest
      | characters => readNumber false characters

/-- Reads the items of an array from its first item to its closing bracket. -/
def readItems : Nat → List Char → List Document × Option (List Char)
  | 0, _ => ([], none)
  | fuel + 1, characters =>
      match readValue fuel characters with
      | (item, none) => ([item], none)
      | (item, some rest) =>
          match skipGap rest with
          | ']' :: rest => ([item], some rest)
          | ',' :: rest =>
              match skipGap rest with
              | ']' :: _ => ([item], none)
              | rest =>
                  let (items, after) := readItems fuel rest
                  (item :: items, after)
          | _ => ([item], none)

/-- Reads the fields of an object from its first key to its closing brace. -/
def readFields : Nat → List Char → List (Option String × Document) × Option (List Char)
  | 0, _ => ([], none)
  | fuel + 1, characters =>
      match characters with
      | '"' :: rest =>
          match readString (rest.length + 1) (some []) rest with
          | none => ([], none)
          | some (key, rest) =>
              match skipGap rest with
              | ':' :: rest =>
                  match readValue fuel rest with
                  | (value, none) => ([(key, value)], none)
                  | (value, some rest) =>
                      match skipGap rest with
                      | '\x7d' :: rest => ([(key, value)], some rest)
                      | ',' :: rest =>
                          let (fields, after) := readFields fuel (skipGap rest)
                          ((key, value) :: fields, after)
                      | _ => ([(key, value)], none)
              | _ => ([(key, .unreadable false)], none)
      | _ => ([], none)

end

/-- Arrays and objects may be nested in up to 126 others. -/
def depthLimit : Nat := 127

/-- The document at the front of a text, and whether nothing but blanks follows it. -/
def ofText (text : String) : Document × Bool :=
  let characters := text.toList
  let (document, rest) := readValue (2 * characters.length + 2) characters
  (document.limitDepth depthLimit, rest.any fun rest => (skipGap rest).isEmpty)

end Document

/-- The value of a text, `none` if the text is not JSON. The fields of objects come sorted by
key, the last of several fields with one key kept. -/
def Json.ofText? (text : String) : Option Json :=
  match Document.ofText text with
  | (document, true) => document.toJson?
  | (_, false) => none

end LightningGateway
