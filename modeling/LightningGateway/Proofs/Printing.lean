import LightningGateway.Proofs.Codecs
import LightningGateway.Proofs.Reading

/-!
# Printings of a value

JSON leaves open how a value is printed: where blanks stand, how the characters of a text are
escaped, which numeral stands for a number. A grammar says what the printings of a value are, and
every printing of a value is read as the document of that value.
-/

namespace LightningGateway

namespace Json

/-! ### The grammar -/

/-- Four hexadecimal digits. -/
inductive Hexadecimal : Nat → List Char → Prop where
  | digits {unit : Nat} {first second third fourth : Char} {a b c d : Nat}
      (isFirst : Text.hexDigitValue? first = some a)
      (isSecond : Text.hexDigitValue? second = some b)
      (isThird : Text.hexDigitValue? third = some c)
      (isFourth : Text.hexDigitValue? fourth = some d)
      (value : unit = ((a * 16 + b) * 16 + c) * 16 + d) :
      Hexadecimal unit [first, second, third, fourth]

/-- What may be printed for a character within quotation marks. -/
inductive Spelling : Char → List Char → Prop where
  | itself {character : Char} (printable : 0x20 ≤ character.toNat) (notQuote : character ≠ '"')
      (notBackslash : character ≠ '\\') : Spelling character [character]
  | short {character letter : Char} (escape : Document.shortEscape? letter = some character) :
      Spelling character ['\\', letter]
  | unit {character : Char} {digits : List Char} (hex : Hexadecimal character.toNat digits) :
      Spelling character ('\\' :: 'u' :: digits)
  /-- A character beyond 16 bits, as a surrogate pair. -/
  | pair {character : Char} {high low : Nat} {digits more : List Char}
      (hexHigh : Hexadecimal high digits) (hexLow : Hexadecimal low more)
      (isHigh : 0xD800 ≤ high ∧ high ≤ 0xDBFF) (isLow : 0xDC00 ≤ low ∧ low ≤ 0xDFFF)
      (point : character.toNat = 0x10000 + (high - 0xD800) * 0x400 + (low - 0xDC00)) :
      Spelling character ('\\' :: 'u' :: (digits ++ '\\' :: 'u' :: more))

/-- What may be printed for characters within quotation marks, up to the closing one. -/
inductive Quotation : List Char → List Char → Prop where
  | closed : Quotation [] ['"']
  | spelled {character : Char} {characters written rest : List Char}
      (spelling : Spelling character written) (quotation : Quotation characters rest) :
      Quotation (character :: characters) (written ++ rest)

/-- The digits before the point. -/
def Whole (digits : List Char) : Prop :=
  (∀ digit ∈ digits, Text.isDigit digit = true) ∧ digits ≠ [] ∧
    (digits.head? = some '0' → digits = ['0'])

/-- The point and the digits after it. -/
inductive Fraction : Option (List Char) → List Char → Prop where
  | none : Fraction none []
  | digits {digits : List Char} (all : ∀ digit ∈ digits, Text.isDigit digit = true)
      (some_digit : digits ≠ []) : Fraction (some digits) ('.' :: digits)

/-- The sign of an exponent, negative or not. -/
inductive ExponentSign : Bool → List Char → Prop where
  | absent : ExponentSign false []
  | plus : ExponentSign false ['+']
  | minus : ExponentSign true ['-']

inductive Exponent : Option (Bool × List Char) → List Char → Prop where
  | none : Exponent none []
  | digits {letter : Char} {negative : Bool} {sign digits : List Char}
      (isLetter : letter = 'e' ∨ letter = 'E') (signed : ExponentSign negative sign)
      (all : ∀ digit ∈ digits, Text.isDigit digit = true) (some_digit : digits ≠ []) :
      Exponent (some (negative, digits)) (letter :: (sign ++ digits))

/-- A numeral without its sign, with the number that it stands for together with the sign. -/
inductive Unsigned (negative : Bool) (value : JsonNumber) : List Char → Prop where
  | parts {whole point power : List Char} {fraction : Option (List Char)}
      {exponent : Option (Bool × List Char)} (isWhole : Whole whole)
      (isFraction : Fraction fraction point) (isExponent : Exponent exponent power)
      (denotes : JsonNumber.ofNumeral negative whole fraction exponent = some value) :
      Unsigned negative value (whole ++ (point ++ power))

/-- A blank of the notation. -/
def Blank (character : Char) : Prop :=
  character = ' ' ∨ character = '\n' ∨ character = '\t' ∨ character = '\r'

def Blanks (characters : List Char) : Prop := ∀ character ∈ characters, Blank character

/-- What may be printed for a key, up to the colon. -/
inductive PrintingName : String → List Char → Prop where
  | quoted {key : String} {before written after : List Char} (blanksBefore : Blanks before)
      (quotation : Quotation key.toList written) (blanksAfter : Blanks after) :
      PrintingName key (before ++ '"' :: (written ++ (after ++ [':'])))

mutual

/-- What may be printed for a value. -/
inductive Printing : Json → List Char → Prop where
  | null : Printing .null "null".toList
  | yes : Printing (.bool true) "true".toList
  | no : Printing (.bool false) "false".toList
  | number {value : JsonNumber} {written : List Char} (numeral : Unsigned false value written) :
      Printing (.number value) written
  | negative {value : JsonNumber} {written : List Char} (numeral : Unsigned true value written) :
      Printing (.number value) ('-' :: written)
  | string {text : String} {written : List Char} (quotation : Quotation text.toList written) :
      Printing (.string text) ('"' :: written)
  | noItems {gap : List Char} (blanks : Blanks gap) : Printing (.array []) ('[' :: (gap ++ [']']))
  | items {items : List Json} {written : List Char} (printing : PrintingItems items written) :
      Printing (.array items) ('[' :: (written ++ [']']))
  | noFields {gap : List Char} (blanks : Blanks gap) :
      Printing (.object []) ('\x7b' :: (gap ++ ['\x7d']))
  | fields {fields : List (String × Json)} {written : List Char}
      (printing : PrintingFields fields written) :
      Printing (.object fields) ('\x7b' :: (written ++ ['\x7d']))
  | before {value : Json} {gap : Char} {written : List Char} (blank : Blank gap)
      (printing : Printing value written) : Printing value (gap :: written)
  | behind {value : Json} {gap : Char} {written : List Char} (blank : Blank gap)
      (printing : Printing value written) : Printing value (written ++ [gap])

/-- What may be printed for the items of an array that is not empty. -/
inductive PrintingItems : List Json → List Char → Prop where
  | last {item : Json} {written : List Char} (printing : Printing item written) :
      PrintingItems [item] written
  | more {item : Json} {items : List Json} {written rest : List Char}
      (printing : Printing item written) (others : PrintingItems items rest) :
      PrintingItems (item :: items) (written ++ ',' :: rest)

/-- What may be printed for the fields of an object that is not empty. -/
inductive PrintingFields : List (String × Json) → List Char → Prop where
  | last {key : String} {value : Json} {name written : List Char} (named : PrintingName key name)
      (printing : Printing value written) : PrintingFields [(key, value)] (name ++ written)
  | more {key : String} {value : Json} {fields : List (String × Json)}
      {name written rest : List Char} (named : PrintingName key name)
      (printing : Printing value written) (others : PrintingFields fields rest) :
      PrintingFields ((key, value) :: fields) (name ++ (written ++ ',' :: rest))

end

/-! ### Nesting -/

mutual

/-- How deeply arrays and objects are nested. -/
def nesting : Json → Nat
  | .null | .bool _ | .number _ | .string _ => 0
  | .array items => itemsNesting items + 1
  | .object fields => fieldsNesting fields + 1

def itemsNesting : List Json → Nat
  | [] => 0
  | item :: rest => max item.nesting (itemsNesting rest)

def fieldsNesting : List (String × Json) → Nat
  | [] => 0
  | (_, value) :: rest => max value.nesting (fieldsNesting rest)

end

theorem fieldsNesting_le {fields : List (String × Json)} {depth : Nat}
    (shallow : ∀ field ∈ fields, field.2.nesting ≤ depth) : fieldsNesting fields ≤ depth := by
  induction fields with
  | nil => exact Nat.zero_le depth
  | cons field fields ih =>
      have first := shallow field List.mem_cons_self
      exact Nat.max_le.mpr ⟨first, ih fun later member => shallow later (.tail _ member)⟩

end Json

namespace Document

/-! ### Blanks and texts -/

theorem isGap_of_blank {character : Char} (blank : Json.Blank character) :
    isGap character = true := by
  rcases blank with rfl | rfl | rfl | rfl <;> rfl

theorem skipGap_of_blanks {characters : List Char} (blanks : Json.Blanks characters) :
    skipGap characters = [] :=
  List.dropWhile_eq_nil_iff.mpr fun character member => isGap_of_blank (blanks character member)

theorem stops_of_blank {character : Char} (blank : Json.Blank character) :
    Stops [character] := by
  rcases blank with rfl | rfl | rfl | rfl <;> exact ⟨rfl, by decide, by decide, by decide⟩

theorem readHex_hexadecimal {unit : Nat} {digits : List Char}
    (hex : Json.Hexadecimal unit digits) (rest : List Char) :
    readHex (digits ++ rest) = some (unit, rest) := by
  cases hex with
  | digits isFirst isSecond isThird isFourth value =>
      simp [readHex, isFirst, isSecond, isThird, isFourth, value]

theorem ne_unit_of_shortEscape {letter character : Char}
    (escape : shortEscape? letter = some character) : letter ≠ 'u' := by
  rintro rfl
  cases escape

/-- One character is read from any of its spellings. -/
theorem readString_spelling {character : Char} {written : List Char}
    (spelling : Json.Spelling character written) (fuel : Nat) (reversed rest : List Char) :
    readString (fuel + 1) (some reversed) (written ++ rest) =
      readString fuel (some (character :: reversed)) rest := by
  have valid : character.toNat < 0xD800 ∨ 0xDFFF < character.toNat := by
    rcases character.valid with small | large
    · exact .inl small
    · exact .inr large.1
  cases spelling with
  | itself printable notQuote notBackslash =>
      have kept : ¬ character.toNat < 0x20 := by omega
      rw [List.singleton_append, readString.eq_6 _ _ _ _ notQuote
        (fun _ same _ => notBackslash same) (fun _ _ same _ => notBackslash same)]
      simp [kept, notBackslash]
  | @short letter escape =>
      have other := ne_unit_of_shortEscape escape
      rw [List.cons_append, List.singleton_append,
        readString.eq_5 _ _ _ _ other, escape]
      rfl
  | @unit digits hex =>
      have high : ¬ (0xD800 ≤ character.toNat ∧ character.toNat ≤ 0xDBFF) := by omega
      have low : ¬ (0xDC00 ≤ character.toNat ∧ character.toNat ≤ 0xDFFF) := by omega
      simp only [List.cons_append, readString, readHex_hexadecimal hex, if_neg high, if_neg low,
        Option.map_some, Char.ofNat_toNat]
  | @pair high low digits more hexHigh hexLow isHigh isLow point =>
      have second : readLowSurrogate ('\\' :: 'u' :: (more ++ rest)) = some (low, rest) := by
        simp only [readLowSurrogate, readHex_hexadecimal hexLow, if_pos isLow]
      simp only [List.cons_append, List.append_assoc, readString, readHex_hexadecimal hexHigh,
        if_pos isHigh, second, ← point, Option.map_some, Char.ofNat_toNat]

theorem length_pos_of_spelling {character : Char} {written : List Char}
    (spelling : Json.Spelling character written) : 0 < written.length := by
  cases spelling <;> simp

theorem readString_quotation {characters written : List Char}
    (quotation : Json.Quotation characters written) (fuel : Nat) (reversed rest : List Char) :
    readString (written.length + fuel) (some reversed) (written ++ rest) =
      some (some (String.ofList (reversed.reverse ++ characters)), rest) := by
  induction quotation generalizing fuel reversed with
  | closed =>
      rw [List.length_singleton, Nat.add_comm, List.append_nil]
      rfl
  | @spelled character characters written others spelling quotation ih =>
      have long := length_pos_of_spelling spelling
      have more : (written ++ others).length + fuel =
          (others.length + (written.length - 1 + fuel)) + 1 := by
        rw [List.length_append]
        omega
      rw [more, List.append_assoc, readString_spelling spelling, ih]
      simp

theorem isKey_of_printingName {key : String} {name : List Char}
    (named : Json.PrintingName key name) : IsKey name (some key) := by
  cases named with
  | @quoted before written after blanksBefore quotation blanksAfter =>
      have read := readString_quotation quotation 1 [] []
      rw [List.append_nil, List.reverse_nil, List.nil_append, String.ofList_toList] at read
      exact ⟨before, written, after, rfl, skipGap_of_blanks blanksBefore,
        skipGap_of_blanks blanksAfter, read⟩

/-! ### Numerals -/

theorem spanDigits_digits {digits rest : List Char}
    (all : ∀ digit ∈ digits, Text.isDigit digit = true)
    (ends : ∀ head ∈ rest.head?, Text.isDigit head = false) :
    spanDigits (digits ++ rest) = (digits, rest) := by
  rw [spanDigits, List.takeWhile_append_of_pos all, List.dropWhile_append_of_pos all]
  cases rest with
  | nil => simp
  | cons head tail => simp [ends head rfl]

/-- No digit comes first among these characters. -/
abbrev EndsDigits (characters : List Char) : Prop :=
  ∀ head ∈ characters.head?, Text.isDigit head = false

theorem readExponent_exponent {exponent : Option (Bool × List Char)} {written : List Char}
    (isExponent : Json.Exponent exponent written) :
    readExponent written = some (exponent, []) ∧ EndsDigits written ∧ written.head? ≠ some '.' := by
  cases isExponent with
  | none => exact ⟨rfl, nofun, nofun⟩
  | @digits letter negative sign digits isLetter signed all some_digit =>
      have span := @spanDigits_digits digits [] all nofun
      rw [List.append_nil] at span
      obtain ⟨first, others, begins⟩ := List.exists_cons_of_ne_nil some_digit
      have read : readExponentDigits negative digits = some (some (negative, digits), []) := by
        rw [readExponentDigits, span, begins]
      have isDigit := all first (begins ▸ List.mem_cons_self)
      have afterSign : readSignedDigits (sign ++ digits) = some (some (negative, digits), []) := by
        cases signed with
        | plus => exact read
        | minus => exact read
        | absent =>
            rw [List.nil_append, ← read, begins]
            have plus : first ≠ '+' := by rintro rfl; cases isDigit
            have minus : first ≠ '-' := by rintro rfl; cases isDigit
            simp [readSignedDigits, plus, minus]
      have opened : readExponent (letter :: (sign ++ digits)) =
          readSignedDigits (sign ++ digits) := by
        rcases isLetter with rfl | rfl <;> rfl
      refine ⟨opened.trans afterSign, ?_, ?_⟩
      · rintro _ ⟨⟩
        rcases isLetter with rfl | rfl <;> rfl
      · rintro ⟨⟩
        rcases isLetter with same | same <;> cases same

theorem readFraction_fraction {fraction : Option (List Char)} {point power : List Char}
    (isFraction : Json.Fraction fraction point) (ends : EndsDigits power)
    (noPoint : power.head? ≠ some '.') :
    readFraction (point ++ power) = some (fraction, power) ∧ EndsDigits (point ++ power) := by
  cases isFraction with
  | none =>
      refine ⟨?_, ends⟩
      cases power with
      | nil => rfl
      | cons head tail =>
          have other : head ≠ '.' := fun same => noPoint (congrArg some same)
          simp [readFraction, other]
  | @digits digits all some_digit =>
      obtain ⟨first, others, begins⟩ := List.exists_cons_of_ne_nil some_digit
      have span := spanDigits_digits all ends
      constructor
      · rw [List.cons_append, readFraction, span, begins]
      · rintro _ ⟨⟩
        rfl

theorem readNumber_unsigned {negative : Bool} {value : JsonNumber} {written : List Char}
    (numeral : Json.Unsigned negative value written) :
    readNumber negative written = (.number value, some []) := by
  cases numeral with
  | @parts whole point power fraction exponent isWhole isFraction isExponent denotes =>
      obtain ⟨readPower, ends, noPoint⟩ := readExponent_exponent isExponent
      obtain ⟨readPoint, ends⟩ := readFraction_fraction isFraction ends noPoint
      have span := spanDigits_digits isWhole.1 ends
      have readWhole := readWhole_eq_some_iff.mpr ⟨span, isWhole.2⟩
      simp [readNumber, readWhole, readPoint, readPower, denotes]

theorem exists_digit_of_unsigned {negative : Bool} {value : JsonNumber} {written : List Char}
    (numeral : Json.Unsigned negative value written) :
    ∃ head tail, written = head :: tail ∧ Text.isDigit head = true :=
  exists_digit_of_readNumber (readNumber_unsigned numeral)

theorem skipGap_of_isDigit {head : Char} (digit : Text.isDigit head = true) (tail : List Char) :
    skipGap (head :: tail) = head :: tail := by
  refine List.dropWhile_cons_of_neg fun gap => ?_
  simp only [isGap, Bool.or_eq_true, beq_iff_eq] at gap
  rcases gap with ((rfl | rfl) | rfl) | rfl <;> cases digit

/-! ### Values -/

/-- Some fuel is enough to read a document from characters, with nothing but blanks behind it. -/
def Reads (characters : List Char) (document : Document) : Prop :=
  ∃ fuel rest, readValue fuel characters = (document, some rest) ∧ skipGap rest = []

theorem reads_of_valueStep {characters : List Char} {document : Document} (fuel : Nat)
    (solid : skipGap characters = characters)
    (read : valueStep (readItems fuel) (readFields fuel) characters = (document, some [])) :
    Reads characters document := by
  refine ⟨fuel + 1, [], ?_, rfl⟩
  rw [readValue_succ, solid, read]

theorem Reads.blank {characters : List Char} {document : Document}
    (reads : Reads characters document) {gap : Char} (blank : Json.Blank gap) :
    Reads (gap :: characters) document ∧ Reads (characters ++ [gap]) document := by
  obtain ⟨fuel, rest, read, clean⟩ := reads
  constructor
  · have skipped : skipGap (gap :: characters) = skipGap characters :=
      List.dropWhile_cons_of_pos (isGap_of_blank blank)
    refine ⟨fuel, rest, ?_, clean⟩
    rw [← readValue_skipGap, skipped, readValue_skipGap, read]
  · have longer := ((readers_extend fuel 0).1 _ _ _ read).2 [gap] fun _ => stops_of_blank blank
    refine ⟨fuel, rest ++ [gap], longer, ?_⟩
    rw [skipGap_append_of_eq_nil clean]
    exact skipGap_of_blanks (by simpa [Json.Blanks] using blank)

theorem Reads.opens {characters : List Char} {document : Document}
    (reads : Reads characters document) : Opens ']' characters := by
  obtain ⟨fuel, rest, read, -⟩ := reads
  cases fuel with
  | zero => cases read
  | succ fuel =>
      rw [readValue_succ] at read
      rcases begins : skipGap characters with _ | ⟨head, tail⟩
      · rw [begins] at read
        cases read
      · refine ⟨head, tail, begins, ?_⟩
        rintro rfl
        rw [begins] at read
        cases read

section Entries

variable {α : Type} {closing : Char} {inside : Nat → Reader (List α)} {name written : List Char}
  {entry : Document → α} {document : Document}

/-- Some fuel is enough to read entries from characters, up to the closing character. -/
def Fills (closing : Char) (inside : Nat → Reader (List α)) (characters : List Char)
    (entries : List α) : Prop :=
  Opens closing characters ∧ ∃ fuel, inside fuel (characters ++ [closing]) = (entries, some [])

/-- A reader with more fuel finds what it has found before. -/
def Grows (inside : Nat → Reader (List α)) : Prop :=
  ∀ fuel extra characters entries, inside fuel characters = (entries, some []) →
    inside (fuel + extra) characters = (entries, some [])

theorem Enters.fills_last (enters : Enters closing inside name entry)
    (reads : Reads written document) (opens : Opens closing (name ++ written))
    (stops : Stops [closing]) (solid : isGap closing = false) :
    Fills closing inside (name ++ written) [entry document] := by
  obtain ⟨fuel, rest, read, clean⟩ := reads
  have longer : readValue fuel (written ++ [closing]) = (document, some (rest ++ [closing])) :=
    ((readers_extend fuel 0).1 _ _ _ read).2 [closing] fun _ => stops
  have last : skipGap (rest ++ [closing]) = [closing] := by
    rw [skipGap_append_of_eq_nil clean]
    simp [skipGap, solid]
  refine ⟨opens, fuel + 1, ?_⟩
  rw [List.append_assoc, enters, longer]
  simp [following, last]

theorem Enters.fills_more (enters : Enters closing inside name entry) (skips : Skips inside)
    (grows : Grows inside) (reads : Reads written document)
    (opens : Opens closing (name ++ written)) (comma : closing ≠ ',') {others : List Char}
    {entries : List α} (fills : Fills closing inside others entries) :
    Fills closing inside (name ++ (written ++ ',' :: others)) (entry document :: entries) := by
  obtain ⟨fuel, rest, read, clean⟩ := reads
  obtain ⟨opensOthers, more, found⟩ := fills
  have longer := ((readers_extend fuel more).1 _ _ _ read).2 (',' :: (others ++ [closing]))
    fun _ => ⟨rfl, by decide, by decide, by decide⟩
  have next : skipGap (rest ++ ',' :: (others ++ [closing])) = ',' :: (others ++ [closing]) :=
    skipGap_append_of_eq_nil clean _
  have unclosed := (opensOthers.append [closing]).head?_ne
  have later := grows more fuel _ _ found
  rw [← skips, Nat.add_comm] at later
  constructor
  · rw [← List.append_assoc]
    exact opens.append _
  · refine ⟨fuel + more + 1, ?_⟩
    rw [List.append_assoc, List.append_assoc, List.cons_append, enters, longer]
    simp [following, next, comma.symm, unclosed, later]

theorem Fills.reads_enclosed {wrap : List α → Bool → Document} {characters : List Char}
    {entries : List α} (fills : Fills closing inside characters entries) (skips : Skips inside) :
    ∃ fuel, enclosed closing wrap (inside fuel) (characters ++ [closing]) =
      (wrap entries true, some []) := by
  obtain ⟨opens, fuel, found⟩ := fills
  refine ⟨fuel, ?_⟩
  rw [enclosed_of_opens (opens.append _) skips, found]
  rfl

end Entries

theorem grows_readItems : Grows readItems := by
  intro fuel extra characters items found
  have longer := ((readers_extend fuel extra).2.1 _ _ _ found).2 [] fun _ => trivial
  rwa [List.append_nil] at longer

theorem grows_openedFields : Grows openedFields := by
  intro fuel extra characters fields found
  have longer := ((readers_extend fuel extra).2.2 _ _ _ found).2 [] fun _ => trivial
  rwa [List.append_nil] at longer

theorem enclosed_blanks {α : Type} {closing : Char} {wrap : List α → Bool → Document}
    {inside : Reader (List α)} {gap : List Char} (blanks : Json.Blanks gap)
    (solid : isGap closing = false) :
    enclosed closing wrap inside (gap ++ [closing]) = (wrap [] true, some []) := by
  have only : skipGap (gap ++ [closing]) = [closing] := by
    rw [skipGap_append_of_eq_nil (skipGap_of_blanks blanks)]
    simp [skipGap, solid]
  simp [enclosed, only]

mutual

/-- A printing of a value is read as the document of the value. -/
theorem reads_printing {value : Json} {written : List Char}
    (printing : Json.Printing value written) : Reads written (ofJson value) := by
  match printing with
  | .null => exact reads_of_valueStep 0 rfl rfl
  | .yes => exact reads_of_valueStep 0 rfl rfl
  | .no => exact reads_of_valueStep 0 rfl rfl
  | .number numeral =>
      obtain ⟨head, tail, rfl, digit⟩ := exists_digit_of_unsigned numeral
      refine reads_of_valueStep 0 (skipGap_of_isDigit digit tail) ?_
      rw [valueStep_of_isDigit _ _ digit, readNumber_unsigned numeral, ofJson]
  | .negative numeral =>
      exact reads_of_valueStep 0 rfl (readNumber_unsigned numeral)
  | .string quotation =>
      have read := readString_quotation quotation 1 [] []
      rw [List.append_nil, List.reverse_nil, List.nil_append, String.ofList_toList] at read
      refine reads_of_valueStep 0 rfl ?_
      rw [valueStep, read, ofJson]
  | .noItems blanks => exact reads_of_valueStep 0 rfl (enclosed_blanks blanks rfl)
  | .noFields blanks => exact reads_of_valueStep 0 rfl (enclosed_blanks blanks rfl)
  | .items printing =>
      obtain ⟨fuel, read⟩ := (fills_items printing).reads_enclosed readItems_skipGap
      exact reads_of_valueStep fuel rfl read
  | .fields printing =>
      obtain ⟨fuel, read⟩ := (fills_fields printing).reads_enclosed openedFields_skipGap
      rw [enclosed_openedFields] at read
      exact reads_of_valueStep fuel rfl read
  | .before blank printing => exact ((reads_printing printing).blank blank).1
  | .behind blank printing => exact ((reads_printing printing).blank blank).2

theorem fills_items {items : List Json} {written : List Char}
    (printing : Json.PrintingItems items written) :
    Fills ']' readItems written (ofItems items) := by
  match printing with
  | .last printing =>
      have reads := reads_printing printing
      exact enters_readItems.fills_last reads reads.opens ⟨rfl, by decide, by decide, by decide⟩ rfl
  | .more printing others =>
      have reads := reads_printing printing
      exact enters_readItems.fills_more readItems_skipGap grows_readItems reads reads.opens
        (by decide) (fills_items others)

theorem fills_fields {fields : List (String × Json)} {written : List Char}
    (printing : Json.PrintingFields fields written) :
    Fills '\x7d' openedFields written (ofFields fields) := by
  match printing with
  | .last named printing =>
      have isKey := isKey_of_printingName named
      exact (enters_openedFields isKey).fills_last (reads_printing printing)
        (isKey.opens.append _) ⟨rfl, by decide, by decide, by decide⟩ rfl
  | .more named printing others =>
      have isKey := isKey_of_printingName named
      exact (enters_openedFields isKey).fills_more openedFields_skipGap grows_openedFields
        (reads_printing printing) (isKey.opens.append _) (by decide) (fills_fields others)

end

/-! ### Texts -/

mutual

theorem limitDepth_of_nesting {depth : Nat} (value : Json) (shallow : value.nesting ≤ depth) :
    limitDepth depth (ofJson value) = ofJson value := by
  match value, depth with
  | .null, _ | .bool _, _ | .string _, _ | .number _, _ => simp only [ofJson, limitDepth]
  | .array items, depth + 1 =>
      rw [ofJson, limitDepth, limitItems_of_nesting items (Nat.le_of_succ_le_succ shallow)]
  | .object fields, depth + 1 =>
      rw [ofJson, limitDepth, limitFields_of_nesting fields (Nat.le_of_succ_le_succ shallow)]

theorem limitItems_of_nesting {depth : Nat} (items : List Json)
    (shallow : Json.itemsNesting items ≤ depth) :
    limitItems depth (ofItems items) = ofItems items := by
  match items with
  | [] => rfl
  | item :: rest =>
      obtain ⟨first, others⟩ := Nat.max_le.mp shallow
      rw [ofItems, limitItems, limitDepth_of_nesting item first, limitItems_of_nesting rest others]

theorem limitFields_of_nesting {depth : Nat} (fields : List (String × Json))
    (shallow : Json.fieldsNesting fields ≤ depth) :
    limitFields depth (ofFields fields) = ofFields fields := by
  match fields with
  | [] => rfl
  | (key, value) :: rest =>
      obtain ⟨first, others⟩ := Nat.max_le.mp shallow
      rw [ofFields, limitFields, limitDepth_of_nesting value first,
        limitFields_of_nesting rest others]

end

/-- A text that prints a value is read as the document of the value. -/
theorem ofText_printing {value : Json} {text : String} (printing : value.Printing text.toList)
    (shallow : value.nesting ≤ depthLimit) : ofText text = (ofJson value, true) := by
  obtain ⟨fuel, rest, read, clean⟩ := reads_printing printing
  -- Any fuel that is enough finds the same as the fuel that the length of the text gives.
  have more :=
    ((readers_extend fuel (2 * text.toList.length + 2)).1 _ _ _ read).2 [] fun _ => trivial
  have same := (readers_agree (2 * text.toList.length + 2) fuel).1 text.toList (by omega)
  rw [List.append_nil, List.append_nil, Nat.add_comm, same] at more
  simp only [ofText, more, limitDepth_of_nesting value shallow, Option.any_some, clean,
    List.isEmpty_nil]

mutual

/-- A document without faults has a value. -/
theorem toJson?_ofJson (value : Json) : toJson? (ofJson value) = some value.sortFields := by
  match value with
  | .null | .bool _ | .string _ | .number _ => simp only [ofJson, toJson?, Json.sortFields]
  | .array items => simp [ofJson, toJson?, Json.sortFields, toItems?_ofItems items]
  | .object fields => simp [ofJson, toJson?, Json.sortFields, toFields?_ofFields fields]

theorem toItems?_ofItems (items : List Json) :
    toItems? (ofItems items) = some (Json.sortItems items) := by
  match items with
  | [] => rfl
  | item :: rest =>
      simp [ofItems, toItems?, Json.sortItems, toJson?_ofJson item, toItems?_ofItems rest]

theorem toFields?_ofFields (fields : List (String × Json)) :
    toFields? (ofFields fields) = some (Json.sortEntries fields) := by
  match fields with
  | [] => rfl
  | (key, value) :: rest =>
      simp [ofFields, toFields?, Json.sortEntries, toJson?_ofJson value, toFields?_ofFields rest]

end

end Document

theorem Json.ofText?_printing {value : Json} {text : String} (printing : value.Printing text.toList)
    (shallow : value.nesting ≤ Document.depthLimit) :
    Json.ofText? text = some value.sortFields := by
  rw [ofText?, Document.ofText_printing printing shallow]
  exact Document.toJson?_ofJson value

/-- A codec reads a printing as it reads the value that is printed. -/
theorem Codec.decodeText_printing {α : Type} (codec : Codec α) {value : Json} {text : String}
    (printing : value.Printing text.toList) (shallow : value.nesting ≤ Document.depthLimit) :
    codec.decodeText text = codec.read .text (.ofJson value) := by
  rw [decodeText, Document.ofText_printing printing shallow]
  cases read : codec.read .text (.ofJson value) <;> simp [read]

end LightningGateway
