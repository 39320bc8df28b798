import LightningGateway.Bound

/-!
# Decimal numerals

Reading and writing natural numbers in decimal notation, the way amounts,
command line values and log levels are written: digits after an optional plus
sign, leading zeros allowed, and a limit that the value has to stay below.
-/

namespace LightningGateway.Text

def digitValue? (character : Char) : Option Nat :=
  if '0' ≤ character ∧ character ≤ '9' then some (character.toNat - 48) else none

def isDigit (character : Char) : Bool := (digitValue? character).isSome

/-- Continues a decimal value with further digits; any other character refuses the text. -/
def continueDigits : Nat → List Char → Option Nat
  | value, [] => some value
  | value, head :: rest =>
      match digitValue? head with
      | some digit => continueDigits (value * 10 + digit) rest
      | none => none

def digitsValue? : List Char → Option Nat
  | [] => none
  | characters => continueDigits 0 characters

def naturalValue? : List Char → Option Nat
  | '+' :: digits => digitsValue? digits
  | digits => digitsValue? digits

/-- The value of a numeral below `limit`. -/
def boundedValue? (limit : Nat) (characters : List Char) : Option Nat :=
  match naturalValue? characters with
  | some value => if value < limit then some value else none
  | none => none

def word64? (characters : List Char) : Option UInt64 :=
  (boundedValue? Bound.word64 characters).map UInt64.ofNat

/-- The value of a numeral with an optional sign, when 64 bits hold it as a signed number. -/
def signed64? : List Char → Option Int
  | '-' :: digits =>
      match digitsValue? digits with
      | some value => if value ≤ Bound.signed64 then some (-(value : Int)) else none
      | none => none
  | characters => (boundedValue? Bound.signed64 characters).map Int.ofNat

/-- The decimal digits of a natural number, without leading zeros. -/
def digits (value : Nat) : List Char :=
  Nat.toDigits 10 value

def numeral (value : Nat) : String :=
  String.ofList (digits value)

def signedNumeral : Int → String
  | .ofNat value => numeral value
  | .negSucc value => "-" ++ numeral (value + 1)

/-- A numeral filled up with zeros to at least `width` digits. -/
def paddedNumeral (width value : Nat) : String :=
  let written := digits value
  String.ofList (List.replicate (width - written.length) '0' ++ written)

def hexDigitValue? (character : Char) : Option Nat :=
  if '0' ≤ character ∧ character ≤ '9' then some (character.toNat - 48)
  else if 'a' ≤ character ∧ character ≤ 'f' then some (character.toNat - 87)
  else if 'A' ≤ character ∧ character ≤ 'F' then some (character.toNat - 55)
  else none

def hexDigits (value : Nat) : List Char :=
  Nat.toDigits 16 value

/-- Hexadecimal digits filled up with zeros to at least `width` digits. -/
def paddedHex (width value : Nat) : List Char :=
  let written := hexDigits value
  List.replicate (width - written.length) '0' ++ written

end LightningGateway.Text
