import LightningGateway.Binary64.Decimal
import LightningGateway.Text.Search

/-!
# Numerals of floating point numbers

Reading a numeral with an optional sign, point and exponent, where digits may be missing
on one side of the point. The names of infinity and of what is not a number count as
numerals, too.
-/

namespace LightningGateway.Binary64

/-- What a numeral stands for. -/
inductive Reading where
  | finite (value : Binary64)
  | infinite
  | notANumber
  deriving Repr, BEq, DecidableEq

def exponentValue? : List Char → Option Int
  | '-' :: digits => (Text.digitsValue? digits).map fun value => -(value : Int)
  | '+' :: digits => (Text.digitsValue? digits).map Int.ofNat
  | digits => (Text.digitsValue? digits).map Int.ofNat

/-- Reads the exponent of a numeral, if it has one. -/
def optionalExponent? : List Char → Option Int
  | [] => some 0
  | mark :: rest => if mark == 'e' || mark == 'E' then exponentValue? rest else none

/-- The number that whole digits, a fraction and an exponent stand for. -/
def ofDigits (negative : Bool) (whole fraction : List Char) (exponent : Int) : Option Reading :=
  (Text.digitsValue? (whole ++ fraction)).map fun significand =>
    match ofDecimal negative significand (exponent - fraction.length) with
    | some value => .finite value
    | none => .infinite

def readMagnitude? (negative : Bool) (characters : List Char) : Option Reading :=
  let name := Text.lowerAsciiText (String.ofList characters)
  if name = "inf" ∨ name = "infinity" then some .infinite
  else if name = "nan" then some .notANumber
  else
    let whole := characters.takeWhile Text.isDigit
    match characters.dropWhile Text.isDigit with
    | '.' :: rest =>
        (optionalExponent? (rest.dropWhile Text.isDigit)).bind
          (ofDigits negative whole (rest.takeWhile Text.isDigit))
    | rest => (optionalExponent? rest).bind (ofDigits negative whole [])

def readNumeral? : List Char → Option Reading
  | '-' :: rest => readMagnitude? true rest
  | '+' :: rest => readMagnitude? false rest
  | characters => readMagnitude? false characters

end LightningGateway.Binary64
