import LightningGateway.FileSystem
import LightningGateway.Transport.Error

/-!
# Certificates

A certificate in a file stands between two lines, in the notation that writes three
bytes as four characters. Its bytes are nested elements, each with a tag and a length.
Only the outline of a certificate is looked at: what is signed, the algorithm, and the
signature.
-/

namespace LightningGateway.Certificate

def opening : String := "-----BEGIN CERTIFICATE-----"

def closing : String := "-----END CERTIFICATE-----"

def sixBits? (character : Char) : Option Nat :=
  if 'A' ≤ character ∧ character ≤ 'Z' then some (character.toNat - 'A'.toNat)
  else if 'a' ≤ character ∧ character ≤ 'z' then some (character.toNat - 'a'.toNat + 26)
  else if '0' ≤ character ∧ character ≤ '9' then some (character.toNat - '0'.toNat + 52)
  else if character == '+' then some 62
  else if character == '/' then some 63
  else none

/-- The bytes of characters in groups of four. Padding stands in the last group only. -/
def bytes? : List Char → Option (List UInt8)
  | [] => some []
  | [first, second, '=', '='] => do
      let value := (← sixBits? first) * 64 + (← sixBits? second)
      return [UInt8.ofNat (value / 16)]
  | [first, second, third, '='] => do
      let value := ((← sixBits? first) * 64 + (← sixBits? second)) * 64 + (← sixBits? third)
      return [UInt8.ofNat (value / 1024), UInt8.ofNat (value / 4)]
  | first :: second :: third :: fourth :: rest => do
      let upper := (← sixBits? first) * 64 + (← sixBits? second)
      let lower := (← sixBits? third) * 64 + (← sixBits? fourth)
      let value := upper * 4096 + lower
      let others ← bytes? rest
      return UInt8.ofNat (value / 65536) :: UInt8.ofNat (value / 256) :: UInt8.ofNat value :: others
  | _ => none

/-- The length of an element and the bytes after it. A length of 128 or more is given by the number
of its bytes and these bytes. -/
def length? : List UInt8 → Option (Nat × List UInt8)
  | [] => none
  | first :: rest =>
      let count := first.toNat - 128
      if first < 128 then some (first.toNat, rest)
      else if count = 0 ∨ rest.length < count then none
      else
        some ((rest.take count).foldl (fun value byte => value * 256 + byte.toNat) 0,
          rest.drop count)

/-- The content of an element with a tag, and the bytes after the element. -/
def element? (tag : UInt8) : List UInt8 → Option (List UInt8 × List UInt8)
  | [] => none
  | found :: rest =>
      match length? rest with
      | some (length, rest) =>
          if found = tag ∧ length ≤ rest.length then some (rest.take length, rest.drop length)
          else none
      | none => none

def sequenceTag : UInt8 := 0x30

def bitStringTag : UInt8 := 0x03

def hasOutline (bytes : List UInt8) : Bool :=
  Option.isSome do
    let (certificate, _) ← element? sequenceTag bytes
    let (_, rest) ← element? sequenceTag certificate
    let (_, rest) ← element? sequenceTag rest
    element? bitStringTag rest

def isIn (text : String) : Bool :=
  match Text.splitOnce text opening with
  | none => false
  | some (_, rest) =>
      match Text.splitOnce rest closing with
      | none => false
      | some (body, _) =>
          let characters := body.toList.filter fun character =>
            !(character == '\n' || character == '\r' || character == ' ' || character == '\t')
          (bytes? characters).any hasOutline

def refusal : String := "Invalid CA certificate: "

def load (files : FileSystem) (path : String) : Except TransportError Unit :=
  match files.read path with
  | .error fault =>
      .error (.permissionDenied
        ("Failed to read CA certificate " ++ path ++ ": " ++ fault.message))
  | .ok content =>
      if isIn (Text.utf8Lossy content) then .ok ()
      else .error (.other (refusal ++ "the file holds no certificate"))

end LightningGateway.Certificate
