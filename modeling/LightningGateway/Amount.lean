import LightningGateway.Json.Codec
import LightningGateway.Text.Blank
import LightningGateway.Word

/-!
# Amounts

Every amount is a number of millisatoshis in 64 bits. Daemons report amounts as numbers
or as texts with a unit; whole satoshis appear only where a daemon insists on them.
-/

namespace LightningGateway

/-- A number of millisatoshis. -/
abbrev Msat := UInt64

/-- Why something is not an amount. -/
inductive AmountError where
  /-- Not a numeral of 64 bits with an optional unit. -/
  | invalid (text : String)
  /-- More millisatoshis than 64 bits hold. -/
  | overflow (text : String)
  /-- An amount that had to be a whole number of satoshis. -/
  | fractionalSat (amount : Msat)
  deriving Repr, BEq, DecidableEq

def AmountError.message : AmountError → String
  | .invalid text => "Invalid amount: " ++ text
  | .overflow text => "Amount overflow: " ++ text
  | .fractionalSat amount =>
      "Amount " ++ Text.numeral amount.toNat ++ "msat is not a whole number of satoshis"

namespace Amount

def msatPerSat : Nat := 1000

def toSat (amount : Msat) : UInt64 := UInt64.ofNat (amount.toNat / msatPerSat)

def ofSat (sat : UInt64) : Except AmountError Msat :=
  if sat.toNat * msatPerSat < Bound.word64 then .ok (UInt64.ofNat (sat.toNat * msatPerSat))
  else .error (.overflow (Text.numeral sat.toNat ++ "sat"))

/-- The satoshis of an amount that is a whole number of them. -/
def toWholeSat (amount : Msat) : Except AmountError UInt64 :=
  if amount.toNat % msatPerSat = 0 then .ok (toSat amount) else .error (.fractionalSat amount)

/-- Reads a numeral without a unit or with the unit `msat` or `sat`. Blanks around it are passed. -/
def parse (source : String) : Except AmountError Msat :=
  let characters := Text.trimmed source.toList
  let number (digits : List Char) : Except AmountError UInt64 :=
    match Text.word64? digits with
    | some value => .ok value
    | none => .error (.invalid (String.ofList characters))
  match Text.withoutEnding "msat".toList characters with
  | some digits => number digits
  | none =>
      match Text.withoutEnding "sat".toList characters with
      | some digits =>
          match number digits with
          | .ok sat => ofSat sat
          | .error error => .error error
      | none => number characters

/-- Reads an amount as daemons report it: a number, or a text. -/
def read (document : Document) : Except DecodeError Msat :=
  match document.toJson? with
  | none => .error .malformed
  | some _ =>
      match document with
      | .string source =>
          match parse source with
          | .ok amount => .ok amount
          | .error error => .error (.refused error.message)
      | .number (.integer value) =>
          if 0 ≤ value ∧ value < Bound.word64 then .ok (UInt64.ofNat value.toNat)
          else .error (.noAlternative "RawMsat")
      | _ => .error (.noAlternative "RawMsat")

def codec : Codec Msat where
  read _ document := read document
  write amount := .ofWord amount
  absent := none

/-- Amounts that may be `null` or the text `any`, which both mean that there is none. A field that
is not there has no default of its own. -/
def anyCodec : Codec (Option Msat) where
  read
    | _, .null => .ok none
    | _, .string "any" => .ok none
    | _, document => (read document).map some
  write
    | none => .null
    | some amount => .ofWord amount
  absent := none

end Amount

end LightningGateway
