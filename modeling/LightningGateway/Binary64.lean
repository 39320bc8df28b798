/-!
# Binary floating point numbers of 64 bits

Finite numbers of the binary64 format as exact values `± mantissa * 2 ^ exponent`,
and the operations that the program needs on them: rounding a quotient of natural
numbers to the nearest number of the format, with ties to the even mantissa,
products and quotients rounded the same way, and truncation to whole numbers.
Everything is computed with natural numbers, so every result is decided by the
rounding rule alone.
-/

namespace LightningGateway

/-- A finite number of the binary64 format. A mantissa below `2 ^ 53` and an exponent from
`-1074` to `971` are meant; the mantissa is below `2 ^ 52` only with the least exponent. -/
structure Binary64 where
  /-- The sign bit, also of zero. -/
  negative : Bool
  mantissa : Nat
  exponent : Int
  deriving Repr, BEq, DecidableEq, Inhabited

namespace Binary64

def leastExponent : Int := -1074

def largestExponent : Int := 971

/-- The least mantissa of 53 bits, `2 ^ 52`. -/
def normalMantissa : Nat := 4503599627370496

def zero (negative : Bool) : Binary64 := ⟨negative, 0, leastExponent⟩

/-- Numerator and denominator of `numerator / denominator / 2 ^ exponent`. -/
def scaleDown (numerator denominator : Nat) : Int → Nat × Nat
  | .ofNat power => (numerator, denominator * Nat.pow 2 power)
  | .negSucc power => (numerator * Nat.pow 2 (power + 1), denominator)

/-- The nearest whole number to a quotient; a quotient halfway between two goes to the even one. -/
def roundQuotient (numerator denominator : Nat) : Nat :=
  let whole := numerator / denominator
  let twice := 2 * (numerator % denominator)
  if twice < denominator then whole
  else if denominator < twice then whole + 1
  else if whole % 2 = 0 then whole
  else whole + 1

/-- The exponent that gives a positive quotient a mantissa of 53 bits, if the format has it. -/
def exponentOf (numerator denominator : Nat) : Int :=
  let guess : Int := (numerator.log2 : Int) - (denominator.log2 : Int) - 52
  let (above, below) := scaleDown numerator denominator guess
  let exact := if above < below * normalMantissa then guess - 1 else guess
  max leastExponent exact

/-- The number of the format nearest to a quotient; `none` if it is too large. -/
def ofQuotient (negative : Bool) (numerator denominator : Nat) : Option Binary64 :=
  if numerator = 0 then
    some (zero negative)
  else
    let exponent := exponentOf numerator denominator
    let (above, below) := scaleDown numerator denominator exponent
    let mantissa := roundQuotient above below
    let (mantissa, exponent) :=
      if mantissa = 2 * normalMantissa then (normalMantissa, exponent + 1) else (mantissa, exponent)
    if exponent ≤ largestExponent then some ⟨negative, mantissa, exponent⟩ else none

/-- The number nearest to a natural number of at most 1023 bits. -/
def ofNat (value : Nat) : Binary64 :=
  (ofQuotient false value 1).getD (zero false)

/-- The number nearest to an integer of at most 1023 bits. -/
def ofInt : Int → Binary64
  | .ofNat value => ofNat value
  | .negSucc value => { ofNat (value + 1) with negative := true }

def magnitude (number : Binary64) : Nat × Nat :=
  match number.exponent with
  | .ofNat power => (number.mantissa * Nat.pow 2 power, 1)
  | .negSucc power => (number.mantissa, Nat.pow 2 (power + 1))

/-- The rounded product; `none` if it is too large. -/
def mul (left right : Binary64) : Option Binary64 :=
  let (leftAbove, leftBelow) := left.magnitude
  let (rightAbove, rightBelow) := right.magnitude
  ofQuotient (left.negative != right.negative) (leftAbove * rightAbove) (leftBelow * rightBelow)

/-- The rounded quotient by a number other than zero; `none` if it is too large. -/
def div (left right : Binary64) : Option Binary64 :=
  let (leftAbove, leftBelow) := left.magnitude
  let (rightAbove, rightBelow) := right.magnitude
  ofQuotient (left.negative != right.negative) (leftAbove * rightBelow) (leftBelow * rightAbove)

def isPositive (number : Binary64) : Bool :=
  !number.negative && number.mantissa != 0

def wholePart (number : Binary64) : Nat :=
  let (above, below) := number.magnitude
  above / below

/-- The whole number nearest to a number's absolute value; a half goes up. -/
def roundHalfUp (number : Binary64) : Nat :=
  let (above, below) := number.magnitude
  (2 * above + below) / (2 * below)

end Binary64

end LightningGateway
