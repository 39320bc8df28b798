import LightningGateway.Binary64
import LightningGateway.Text.Numeral

/-!
# Decimal notation of binary64 numbers

Reading a decimal numeral as the nearest number of the format, and writing a
number with the fewest digits that read back as the same number, nearest first.
-/

namespace LightningGateway.Binary64

/-- The value `significand * 10 ^ power`, rounded to the format. Powers beyond what the digits
can bring back into the format are answered without computing them; `none` is too large. -/
def ofDecimal (negative : Bool) (significand : Nat) (power : Int) : Option Binary64 :=
  if significand = 0 then
    some (zero negative)
  else
    let length : Int := (Text.digits significand).length
    if power + length > 400 then none
    else if power + length < -400 then some (zero negative)
    else
      match power with
      | .ofNat exponent => ofQuotient negative (significand * Nat.pow 10 exponent) 1
      | .negSucc exponent => ofQuotient negative significand (Nat.pow 10 (exponent + 1))

/-- The largest `power` with `10 ^ power` at most a positive quotient, near a first guess. -/
def decimalExponent (above below : Nat) : Int :=
  let guess : Int := (((above.log2 : Int) - (below.log2 : Int)) * 30103) / 100000
  let reaches (power : Int) : Bool :=
    match power with
    | .ofNat exponent => below * Nat.pow 10 exponent ≤ above
    | .negSucc exponent => below ≤ above * Nat.pow 10 (exponent + 1)
  if reaches (guess + 1) then guess + 1
  else if reaches guess then guess
  else guess - 1

/-- Digits and power of ten of a positive decimal number. -/
structure DecimalDigits where
  digits : Nat
  power : Int
  deriving Repr, BEq

/-- Twice the bounds of the interval of real numbers that round to a number, in units of a
common denominator, together with that denominator and twice the number itself. -/
structure RoundingInterval where
  low : Nat
  value : Nat
  high : Nat
  denominator : Nat
  inclusive : Bool

/-- The interval of real numbers that round to a positive number. Below a power of two the
numbers of the format are twice as dense, which moves the lower bound. -/
def roundingInterval (number : Binary64) : RoundingInterval :=
  let halvesBelow :=
    if number.mantissa = normalMantissa ∧ leastExponent < number.exponent then 1 else 2
  let (above, below) := Binary64.magnitude ⟨false, 1, number.exponent⟩
  { low := (4 * number.mantissa - halvesBelow) * above
    value := 4 * number.mantissa * above
    high := (4 * number.mantissa + 2) * above
    denominator := 4 * below
    inclusive := number.mantissa % 2 = 0 }

def RoundingInterval.holds (interval : RoundingInterval) (above below : Nat) : Bool :=
  let left := above * interval.denominator
  if interval.inclusive then
    interval.low * below ≤ left && left ≤ interval.high * below
  else
    interval.low * below < left && left < interval.high * below

/-- The best multiple of `10 ^ power` in the interval, if there is one: of the two neighbours of
the value the nearer, and the even one of two equally near. -/
def RoundingInterval.gridPoint? (interval : RoundingInterval) (power : Int) : Option Nat :=
  let (unit, parts) :=
    match power with
    | .ofNat exponent => (Nat.pow 10 exponent, 1)
    | .negSucc exponent => (1, Nat.pow 10 (exponent + 1))
  let numerator := interval.value * parts
  let denominator := interval.denominator * unit
  let below := numerator / denominator
  let rest := numerator % denominator
  let lowerFits := interval.holds (below * unit) parts
  let upperFits := interval.holds ((below + 1) * unit) parts
  if lowerFits && upperFits then
    if 2 * rest < denominator then some below
    else if denominator < 2 * rest then some (below + 1)
    else if below % 2 = 0 then some below
    else some (below + 1)
  else if lowerFits then some below
  else if upperFits then some (below + 1)
  else none

/-- The first grid, from coarse to fine, that has a point in the interval. -/
def RoundingInterval.shortestFrom (interval : RoundingInterval) : Nat → Int → DecimalDigits
  | 0, power => ⟨(interval.gridPoint? power).getD 0, power⟩
  | remaining + 1, power =>
      match interval.gridPoint? power with
      | some digits => ⟨digits, power⟩
      | none => interval.shortestFrom remaining (power - 1)

/-- The shortest digits that read back as a positive number, without zeros at the end. The first
grid is the one of the next power of ten, which the number may round to. -/
def shortest (number : Binary64) : DecimalDigits :=
  let (above, below) := number.magnitude
  number.roundingInterval.shortestFrom 18 (decimalExponent above below + 1)

/-- The notation of finite numbers in JSON: at least one digit on both sides of the point, and an
exponent for magnitudes from `10 ^ 16` on and below `10 ^ -5`. -/
def text (number : Binary64) : String :=
  let sign := if number.negative then "-" else ""
  if number.mantissa = 0 then
    sign ++ "0.0"
  else
    let ⟨digits, power⟩ := number.shortest
    let written := Text.digits digits
    let length := written.length
    let point : Int := power + length
    let body : List Char :=
      if 0 ≤ power ∧ point ≤ 16 then
        written ++ List.replicate power.toNat '0' ++ ['.', '0']
      else if 0 < point ∧ point ≤ 16 then
        written.take point.toNat ++ ['.'] ++ written.drop point.toNat
      else if -5 < point ∧ point ≤ 0 then
        ['0', '.'] ++ List.replicate (-point).toNat '0' ++ written
      else
        let exponent := (Text.signedNumeral (point - 1)).toList
        match written with
        | [single] => [single, 'e'] ++ exponent
        | first :: others => [first, '.'] ++ others ++ ['e'] ++ exponent
        | [] => []
    sign ++ String.ofList body

end LightningGateway.Binary64
