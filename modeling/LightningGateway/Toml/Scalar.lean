import LightningGateway.Toml.Value

/-!
# Unquoted TOML values

Numbers, truth values, dates and times: everything that is a single word. A date and a
time may also be two words with a space between them.
-/

namespace LightningGateway.Toml

def isWordCharacter (character : Char) : Bool :=
  ('a' ≤ character && character ≤ 'z') || ('A' ≤ character && character ≤ 'Z') ||
    Text.isDigit character || character == '+' || character == '-' || character == '_' ||
    character == '.' || character == ':'

/-- Removes underscores, each of which has to stand between two digits. -/
def digitsOf? (isDigit : Char → Bool) : List Char → Option (List Char)
  | [] => none
  | [last] => if isDigit last then some [last] else none
  | head :: '_' :: rest =>
      if isDigit head then (digitsOf? isDigit rest).map (head :: ·) else none
  | head :: rest => if isDigit head then (digitsOf? isDigit rest).map (head :: ·) else none

/-- Decimal digits that do not begin with an idle zero. -/
def wholeDigits? (characters : List Char) : Option (List Char) :=
  match digitsOf? Text.isDigit characters with
  | some ('0' :: _ :: _) => none
  | digits => digits

/-- The value of digits in a base, after underscores are removed. -/
def basedValue? (base : Nat) (characters : List Char) : Option Nat :=
  let isDigit (character : Char) : Bool := (Text.hexDigitValue? character).any (· < base)
  (digitsOf? isDigit characters).map fun digits =>
    digits.foldl (fun value digit => value * base + (Text.hexDigitValue? digit).getD 0) 0

def withinRange (value : Int) : Option Value :=
  if -(Bound.signed128 : Int) ≤ value ∧ value < Bound.word128 then some (.integer value) else none

def splitExponent (characters : List Char) : List Char × Option (List Char) :=
  let isMark (character : Char) : Bool := character == 'e' || character == 'E'
  match characters.dropWhile (!isMark ·) with
  | [] => (characters, none)
  | _ :: exponent => (characters.takeWhile (!isMark ·), some exponent)

def splitPoint (characters : List Char) : List Char × Option (List Char) :=
  match characters.dropWhile (· != '.') with
  | [] => (characters, none)
  | _ :: fraction => (characters.takeWhile (· != '.'), some fraction)

def exponent? : List Char → Option Int
  | '-' :: rest => (digitsOf? Text.isDigit rest).bind fun digits =>
      (Text.digitsValue? digits).map fun value => -(value : Int)
  | '+' :: rest => ((digitsOf? Text.isDigit rest).bind Text.digitsValue?).map Int.ofNat
  | rest => ((digitsOf? Text.isDigit rest).bind Text.digitsValue?).map Int.ofNat

/-- A number with a point or an exponent, after its sign. -/
def float? (negative : Bool) (characters : List Char) : Option Value :=
  let (significand, exponent) := splitExponent characters
  let (whole, fraction) := splitPoint significand
  if exponent.isNone && fraction.isNone then none
  else do
    let whole ← wholeDigits? whole
    let fraction ←
      match fraction with
      | some fraction => digitsOf? Text.isDigit fraction
      | none => some []
    let exponent ←
      match exponent with
      | some exponent => exponent? exponent
      | none => some 0
    match ← Binary64.ofDigits negative whole fraction exponent with
    | .finite value => some (.float (.finite value))
    | _ => none

def number? (negative : Bool) (characters : List Char) : Option Value :=
  match wholeDigits? characters with
  | some digits =>
      (Text.digitsValue? digits).bind fun value =>
        withinRange (if negative then -(value : Int) else value)
  | none =>
      if characters = "inf".toList then some (.float .infinite)
      else if characters = "nan".toList then some (.float .notANumber)
      else float? negative characters

/-- The value of a fixed number of digits at the front, if it lies in a range. -/
def fixedDigits? (count low high : Nat) (characters : List Char) : Option (Nat × List Char) :=
  if characters.length < count then none
  else
    (Text.digitsValue? (characters.take count)).bind fun value =>
      if low ≤ value ∧ value ≤ high then some (value, characters.drop count) else none

def daysIn (year month : Nat) : Nat :=
  if month = 2 then
    if year % 4 = 0 ∧ (year % 100 ≠ 0 ∨ year % 400 = 0) then 29 else 28
  else if month = 4 ∨ month = 6 ∨ month = 9 ∨ month = 11 then 30
  else 31

def afterDate? (characters : List Char) : Option (List Char) := do
  let (year, rest) ← fixedDigits? 4 0 9999 characters
  let '-' :: rest := rest | none
  let (month, rest) ← fixedDigits? 2 1 12 rest
  let '-' :: rest := rest | none
  let (_, rest) ← fixedDigits? 2 1 (daysIn year month) rest
  some rest

/-- Reads a fraction of a second, if there is one. -/
def afterFraction? : List Char → Option (List Char)
  | '.' :: rest =>
      if (rest.takeWhile Text.isDigit).isEmpty then none else some (rest.dropWhile Text.isDigit)
  | rest => some rest

/-- Reads a time; its seconds may be left out. -/
def afterTime? (characters : List Char) : Option (List Char) := do
  let (_, rest) ← fixedDigits? 2 0 23 characters
  let ':' :: rest := rest | none
  let (_, rest) ← fixedDigits? 2 0 59 rest
  match rest with
  | ':' :: rest => do
      let (_, rest) ← fixedDigits? 2 0 60 rest
      afterFraction? rest
  | rest => some rest

/-- Whether the rest of a time is the distance to universal time, or nothing. -/
def isOffset : List Char → Bool
  | [] => true
  | ['Z'] => true
  | ['z'] => true
  | sign :: rest =>
      (sign == '+' || sign == '-') &&
        match fixedDigits? 2 0 23 rest with
        | some (_, ':' :: rest) => (fixedDigits? 2 0 59 rest).any fun found => found.2.isEmpty
        | _ => false

/-- Whether a word is a date, a time or both. -/
def isMoment (characters : List Char) : Bool :=
  match afterDate? characters with
  | some [] => true
  | some (separator :: rest) =>
      (separator == 'T' || separator == 't' || separator == ' ') &&
        (afterTime? rest).any isOffset
  | none => (afterTime? characters).any List.isEmpty

def word? (characters : List Char) : Option Value :=
  match characters with
  | ['t', 'r', 'u', 'e'] => some (.boolean true)
  | ['f', 'a', 'l', 's', 'e'] => some (.boolean false)
  | '0' :: 'x' :: rest => (basedValue? 16 rest).bind fun value => withinRange value
  | '0' :: 'o' :: rest => (basedValue? 8 rest).bind fun value => withinRange value
  | '0' :: 'b' :: rest => (basedValue? 2 rest).bind fun value => withinRange value
  | '+' :: rest => number? false rest
  | '-' :: rest => number? true rest
  | _ =>
      if isMoment characters then some (.moment (String.ofList characters))
      else number? false characters

/-- Splits the characters after the first word, or after a date and a time. -/
def splitWord (characters : List Char) : List Char × List Char :=
  let word := characters.takeWhile isWordCharacter
  let rest := characters.dropWhile isWordCharacter
  match afterDate? word, rest with
  | some [], ' ' :: next :: others =>
      if Text.isDigit next then
        (word ++ ' ' :: (next :: others).takeWhile isWordCharacter,
          (next :: others).dropWhile isWordCharacter)
      else (word, rest)
  | _, _ => (word, rest)

end LightningGateway.Toml
