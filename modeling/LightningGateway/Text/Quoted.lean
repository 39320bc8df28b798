import LightningGateway.Text.Hidden
import LightningGateway.Text.Numeral

/-!
# Quoted texts in messages

A text that a message repeats stands between double quotes. Quotes and
backslashes get a backslash, the common control characters their short escape,
and every other character without a visible form is given by its code point.
-/

namespace LightningGateway.Text

def quotedCharacter (character : Char) : List Char :=
  match character with
  | '\x00' => ['\\', '0']
  | '\t' => ['\\', 't']
  | '\n' => ['\\', 'n']
  | '\r' => ['\\', 'r']
  | '"' => ['\\', '"']
  | '\\' => ['\\', '\\']
  | _ =>
      if isHidden character then
        ['\\', 'u', '\x7b'] ++ hexDigits character.toNat ++ ['\x7d']
      else
        [character]

/-- A text between double quotes, with everything escaped that would not be visible. -/
def quoted (text : String) : String :=
  String.ofList ('"' :: text.toList.flatMap quotedCharacter ++ ['"'])

end LightningGateway.Text
