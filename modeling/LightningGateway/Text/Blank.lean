/-!
# Blank characters

The characters with the Unicode property `White_Space`, and the removal of the
blank characters around a text. Core's `Char.isWhitespace` knows only the four
ASCII ones that occur most often, so the property has its own definition here.
-/

namespace LightningGateway.Text

/-- Characters with the Unicode property `White_Space`. -/
def isBlank (character : Char) : Bool :=
  let point := character.toNat
  (0x09 ≤ point && point ≤ 0x0D) || point == 0x20 || point == 0x85 || point == 0xA0 ||
    point == 0x1680 || (0x2000 ≤ point && point ≤ 0x200A) || point == 0x2028 ||
    point == 0x2029 || point == 0x202F || point == 0x205F || point == 0x3000

def trimEnd (characters : List Char) : List Char :=
  (characters.reverse.dropWhile isBlank).reverse

def trimmed (characters : List Char) : List Char :=
  trimEnd (characters.dropWhile isBlank)

/-- Drops the blank characters at both ends of a string. -/
def trim (text : String) : String :=
  String.ofList (trimmed text.toList)

def isBlankText (text : String) : Bool :=
  text.toList.all isBlank

end LightningGateway.Text
