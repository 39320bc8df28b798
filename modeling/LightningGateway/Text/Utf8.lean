/-!
# UTF-8

Bytes to text. `utf8?` refuses bytes that are not UTF-8; `utf8Lossy` replaces
each maximal damaged part of a character by `U+FFFD`.
-/

namespace LightningGateway.Text

/-- The text that the bytes encode, if they are UTF-8. -/
def utf8? (bytes : List UInt8) : Option String :=
  String.fromUTF8? ⟨bytes.toArray⟩

/-- The smallest and largest second byte, and the number of bytes after the first one. -/
def continuationBounds (first : UInt8) : Option (UInt8 × UInt8 × Nat) :=
  if 0xC2 ≤ first ∧ first ≤ 0xDF then some (0x80, 0xBF, 1)
  else if first = 0xE0 then some (0xA0, 0xBF, 2)
  else if first = 0xED then some (0x80, 0x9F, 2)
  else if 0xE1 ≤ first ∧ first ≤ 0xEF then some (0x80, 0xBF, 2)
  else if first = 0xF0 then some (0x90, 0xBF, 3)
  else if 0xF1 ≤ first ∧ first ≤ 0xF3 then some (0x80, 0xBF, 3)
  else if first = 0xF4 then some (0x80, 0x8F, 3)
  else none

/-- How many of the next bytes continue a character that still owes `owed` bytes. -/
def continuationLength (low high : UInt8) : Nat → List UInt8 → Nat
  | owed + 1, byte :: rest =>
      if low ≤ byte ∧ byte ≤ high then 1 + continuationLength 0x80 0xBF owed rest else 0
  | _, _ => 0

/-- Decoding while `skip` bytes of the last character are still to be passed. -/
def lossyFrom : Nat → List UInt8 → List Char
  | _, [] => []
  | skip + 1, _ :: rest => lossyFrom skip rest
  | 0, first :: rest =>
      if first < 0x80 then
        Char.ofNat first.toNat :: lossyFrom 0 rest
      else
        match continuationBounds first with
        | none => '\uFFFD' :: lossyFrom 0 rest
        | some (low, high, owed) =>
            let found := continuationLength low high owed rest
            if found = owed then
              let lead := first.toNat % Nat.pow 2 (6 - owed)
              let point :=
                (rest.take owed).foldl (fun value byte => value * 64 + byte.toNat % 64) lead
              Char.ofNat point :: lossyFrom owed rest
            else
              '\uFFFD' :: lossyFrom found rest

/-- The text of the bytes, with `U+FFFD` for what is not UTF-8. -/
def utf8Lossy (bytes : List UInt8) : String :=
  String.ofList (lossyFrom 0 bytes)

end LightningGateway.Text
