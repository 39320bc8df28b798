import Mathlib.Tactic.IntervalCases
import LightningGateway.Json.Writer
import LightningGateway.Proofs.Numerals
import LightningGateway.Proofs.Printing

/-!
# Texts that are read back

The compact text of a value is one of its printings, as long as its numbers are integers. So it is
read as the document of that value, unless arrays and objects are nested too deeply, and a faithful
codec also reads the texts that it has written.
-/

namespace LightningGateway

/-! ### Numbers -/

namespace JsonNumber

theorem le_ofDigitChars (start : Nat) (characters : List Char) :
    start ≤ Nat.ofDigitChars 10 characters start := by
  induction characters generalizing start with
  | nil => exact le_rfl
  | cons head rest ih =>
      rw [Nat.ofDigitChars_cons]
      exact le_trans (by omega) (ih _)

/-- All digits are taken if 64 bits hold their value. -/
theorem extendSignificand_digits {characters : List Char}
    (digits : ∀ character ∈ characters, character.isDigit) {start : Nat}
    (small : Nat.ofDigitChars 10 characters start < Bound.word64) :
    extendSignificand start characters =
      (Nat.ofDigitChars 10 characters start, characters.length, []) := by
  induction characters generalizing start with
  | nil => rfl
  | cons head rest ih =>
      have value := Text.digitValue?_of_isDigit (digits head List.mem_cons_self)
      have extended : start * 10 + (head.toNat - 48) = 10 * start + (head.toNat - '0'.toNat) := by
        rw [Nat.mul_comm]
        rfl
      rw [Nat.ofDigitChars_cons, ← extended] at small ⊢
      have below := (le_ofDigitChars _ rest).trans_lt small
      have later := ih (fun character member => digits character (.tail _ member)) small
      simp only [extendSignificand, value, Option.getD_some, if_pos below, later, List.length_cons]

theorem extendSignificand_numeral {value : Nat} (small : value < Bound.word64) :
    extendSignificand 0 (Text.digits value) = (value, (Text.digits value).length, []) := by
  have read : Nat.ofDigitChars 10 (Text.digits value) 0 = value := Nat.ofDigitChars_ten_toDigits
  have taken := extendSignificand_digits (fun _ => Text.isDigit_of_mem_digits) (read ▸ small)
  rwa [read] at taken

end JsonNumber

/-! ### Values -/

namespace Json

mutual

/-- Whether all numbers are integers that 64 bits hold, and at most `depth` arrays and objects
are nested. -/
def Plain : Nat → Json → Prop
  | _, .null | _, .bool _ | _, .string _ => True
  | _, .number (.integer value) => -(Bound.signed64 : Int) ≤ value ∧ value < Bound.word64
  | _, .number (.double _) => False
  | 0, .array _ | 0, .object _ => False
  | depth + 1, .array items => PlainItems depth items
  | depth + 1, .object fields => PlainFields depth fields

def PlainItems (depth : Nat) : List Json → Prop
  | [] => True
  | item :: rest => item.Plain depth ∧ PlainItems depth rest

def PlainFields (depth : Nat) : List (String × Json) → Prop
  | [] => True
  | (_, value) :: rest => value.Plain depth ∧ PlainFields depth rest

end

theorem writtenNumber_ofNat (value : Nat) :
    writtenNumber (.integer (.ofNat value)) = Text.digits value := by
  simp [writtenNumber, Text.signedNumeral, Text.numeral]

theorem writtenNumber_negSucc (value : Nat) :
    writtenNumber (.integer (.negSucc value)) = '-' :: Text.digits (value + 1) := by
  simp [writtenNumber, Text.signedNumeral, Text.numeral]

end Json

/-! ### Printings -/

namespace Json

theorem whole_digits (value : Nat) : Whole (Text.digits value) := by
  refine ⟨fun digit member => ?_, Nat.toDigits_ne_nil, fun zero => ?_⟩
  · exact Text.isDigit_of_char (Text.isDigit_of_mem_digits member)
  · rcases Text.digits_eq_zero_or_cons value with only | ⟨head, rest, begins, nonzero⟩
    · exact only
    · rw [begins] at zero
      exact absurd (Option.some.inj zero) nonzero

theorem unsigned_of_ofNumeral {negative : Bool} {value : Nat} {number : JsonNumber}
    (denotes : JsonNumber.ofNumeral negative (Text.digits value) none none = some number) :
    Unsigned negative number (Text.digits value) := by
  have parts := Unsigned.parts (whole_digits value) .none .none denotes
  rwa [List.append_nil, List.append_nil] at parts

theorem unsigned_digits {value : Nat} (small : value < Bound.word64) :
    Unsigned false (.integer value) (Text.digits value) := by
  refine unsigned_of_ofNumeral ?_
  simp [JsonNumber.ofNumeral, JsonNumber.extendSignificand_numeral small]

theorem unsigned_negative_digits {value : Nat} (positive : 0 < value)
    (small : value ≤ Bound.signed64) : Unsigned true (.integer (-value)) (Text.digits value) := by
  have below : value < Bound.word64 := Nat.lt_of_le_of_lt small (by decide)
  have kept : ¬ (value = 0 ∨ Bound.signed64 < value) := by omega
  refine unsigned_of_ofNumeral ?_
  simp [JsonNumber.ofNumeral, JsonNumber.extendSignificand_numeral below, kept]

theorem hexadecimal_paddedHex {value : Nat} (small : value < 32) :
    Hexadecimal value (Text.paddedHex 4 value) := by
  interval_cases value <;> exact .digits rfl rfl rfl rfl rfl

theorem spelling_writtenCharacter (character : Char) :
    Spelling character (writtenCharacter character) := by
  generalize same : writtenCharacter character = written
  unfold writtenCharacter at same
  split at same
  case h_8 quote backslash _ _ _ _ _ =>
    by_cases control : character.toNat < 0x20
    · rw [if_pos control] at same
      exact same ▸ .unit (hexadecimal_paddedHex control)
    · rw [if_neg control] at same
      exact same ▸ .itself (Nat.le_of_not_lt control) quote backslash
  all_goals exact same ▸ .short rfl

theorem quotation_flatMap (characters : List Char) :
    Quotation characters (characters.flatMap writtenCharacter ++ ['"']) := by
  induction characters with
  | nil => exact .closed
  | cons head tail ih =>
      rw [List.flatMap_cons, List.append_assoc]
      exact .spelled (spelling_writtenCharacter head) ih

theorem printingName_written (key : String) :
    PrintingName key (writtenString key ++ [':']) := by
  have blanks : Blanks [] := nofun
  have quoted := PrintingName.quoted blanks (quotation_flatMap key.toList) blanks
  simpa [writtenString] using quoted

mutual

/-- The compact characters of a plain value are a printing of it. -/
theorem printing_compactCharacters {depth : Nat} (value : Json) (plain : value.Plain depth) :
    Printing value value.compactCharacters := by
  match value, depth with
  | .null, _ => exact .null
  | .bool true, _ => exact .yes
  | .bool false, _ => exact .no
  | .number (.integer (.ofNat value)), _ =>
      rw [compactCharacters, writtenNumber_ofNat]
      exact .number (unsigned_digits (Int.ofNat_lt.mp plain.2))
  | .number (.integer (.negSucc value)), _ =>
      have small : value + 1 ≤ Bound.signed64 := by
        have least := plain.1
        rw [Int.negSucc_eq] at least
        omega
      rw [compactCharacters, writtenNumber_negSucc]
      exact .negative (unsigned_negative_digits (Nat.succ_pos value) small)
  | .string text, _ => exact .string (quotation_flatMap text.toList)
  | .array [], depth + 1 => exact @Printing.noItems [] nofun
  | .array (item :: items), depth + 1 => exact .items (printing_compactItems item items plain)
  | .object [], depth + 1 => exact @Printing.noFields [] nofun
  | .object ((key, value) :: fields), depth + 1 =>
      exact .fields (printing_compactFields key value fields plain)

theorem printing_compactItems {depth : Nat} (item : Json) (items : List Json)
    (plain : PlainItems depth (item :: items)) :
    PrintingItems (item :: items) (compactItems (item :: items)) := by
  match items with
  | [] => exact .last (printing_compactCharacters item plain.1)
  | second :: others =>
      exact .more (printing_compactCharacters item plain.1)
        (printing_compactItems second others plain.2)

theorem printing_compactFields {depth : Nat} (key : String) (value : Json)
    (fields : List (String × Json)) (plain : PlainFields depth ((key, value) :: fields)) :
    PrintingFields ((key, value) :: fields) (compactFields ((key, value) :: fields)) := by
  have named := printingName_written key
  have printing := printing_compactCharacters value plain.1
  match fields with
  | [] =>
      have last := PrintingFields.last named printing
      rwa [List.append_assoc] at last
  | (second, other) :: others =>
      have more := PrintingFields.more named printing
        (printing_compactFields second other others plain.2)
      simpa [compactFields] using more

end

mutual

theorem nesting_le_of_plain {depth : Nat} (value : Json) (plain : value.Plain depth) :
    value.nesting ≤ depth := by
  match value, depth with
  | .null, _ | .bool _, _ | .string _, _ | .number (.integer _), _ => exact Nat.zero_le _
  | .array items, depth + 1 => exact Nat.succ_le_succ (itemsNesting_le_of_plain items plain)
  | .object fields, depth + 1 => exact Nat.succ_le_succ (fieldsNesting_le_of_plain fields plain)

theorem itemsNesting_le_of_plain {depth : Nat} (items : List Json)
    (plain : PlainItems depth items) : itemsNesting items ≤ depth := by
  match items with
  | [] => exact Nat.zero_le _
  | item :: rest =>
      exact Nat.max_le.mpr ⟨nesting_le_of_plain item plain.1, itemsNesting_le_of_plain rest plain.2⟩

theorem fieldsNesting_le_of_plain {depth : Nat} (fields : List (String × Json))
    (plain : PlainFields depth fields) : fieldsNesting fields ≤ depth := by
  match fields with
  | [] => exact Nat.zero_le _
  | (_, value) :: rest =>
      exact Nat.max_le.mpr
        ⟨nesting_le_of_plain value plain.1, fieldsNesting_le_of_plain rest plain.2⟩

end

theorem printing_compact {depth : Nat} {value : Json} (plain : value.Plain depth) :
    value.Printing value.compact.toList := by
  rw [compact, String.toList_ofList]
  exact printing_compactCharacters value plain

end Json

namespace Document

theorem readValue_digits {value : Nat} (small : value < Bound.word64) :
    readValue 1 (Text.digits value) = (.number (.integer value), some []) := by
  have numeral := Json.unsigned_digits small
  have read := readNumber_unsigned numeral
  obtain ⟨head, tail, begins, digit⟩ := exists_digit_of_unsigned numeral
  rw [begins] at read ⊢
  rw [readValue_succ, skipGap_of_isDigit digit, valueStep_of_isDigit _ _ digit, read]

theorem readValue_writtenString (text : String) :
    readValue 1 (Json.writtenString text) = (.string text, some []) := by
  have read := readString_quotation (Json.quotation_flatMap text.toList) 1 [] []
  rw [List.append_nil, List.reverse_nil, List.nil_append, String.ofList_toList] at read
  have solid : skipGap (Json.writtenString text) = Json.writtenString text := rfl
  rw [readValue_succ, solid, Json.writtenString, List.cons_append, valueStep, read]

end Document

/-! ### Codecs -/

namespace Codec

variable {α : Type}

def Plain (depth : Nat) (codec : Codec α) : Prop :=
  ∀ value, (codec.write value).Plain depth

/-- The text that a faithful codec has written is read as the value that was written. -/
theorem Faithful.decodeText_compact {codec : Codec α} (faithful : codec.Faithful)
    (plain : codec.Plain Document.depthLimit) (value : α) :
    codec.decodeText (codec.write value).compact = .ok value := by
  rw [decodeText_printing codec (Json.printing_compact (plain value))
    (Json.nesting_le_of_plain _ (plain value))]
  exact faithful .text value

theorem plain_text (depth : Nat) : text.Plain depth := by
  intro value
  rw [text, Json.Plain]
  trivial

theorem plain_ofNat (depth : Nat) {value : Nat} (small : value < Bound.word64) :
    (Json.ofNat value).Plain depth := by
  rw [Json.ofNat, Json.Plain]
  omega

theorem plain_word64 (depth : Nat) : word64.Plain depth :=
  fun value => plain_ofNat depth (toNat_lt_word64 value)

theorem plain_word32 (depth : Nat) : word32.Plain depth :=
  fun value => plain_ofNat depth (value.toNat_lt.trans (by decide))

theorem Plain.optional {depth : Nat} {codec : Codec α} (plain : codec.Plain depth) :
    (Codec.optional codec).Plain depth := by
  intro value
  cases value with
  | none =>
      rw [Codec.optional, Json.Plain]
      trivial
  | some value => exact plain value

theorem Plain.list {depth : Nat} {codec : Codec α} (plain : codec.Plain depth) :
    (Codec.list codec).Plain (depth + 1) := by
  intro values
  change Json.PlainItems depth (values.map codec.write)
  induction values with
  | nil => trivial
  | cons value rest ih => exact ⟨plain value, ih⟩

end Codec

theorem Amount.plain_codec (depth : Nat) : Amount.codec.Plain depth :=
  Codec.plain_word64 depth

theorem Amount.plain_anyCodec (depth : Nat) : Amount.anyCodec.Plain depth := by
  intro value
  cases value with
  | none =>
      rw [Amount.anyCodec, Json.Plain]
      trivial
  | some amount => exact Amount.plain_codec depth amount

namespace Layout

variable {ρ σ : Type}

def Plain (depth : Nat) : {ρ σ : Type} → Layout ρ σ → Prop
  | _, _, .done => True
  | _, _, .field _ codec _ rest => codec.Plain depth ∧ rest.Plain depth

theorem Plain.write {depth : Nat} {layout : Layout ρ σ} (plain : layout.Plain depth) (row : ρ) :
    Json.PlainFields depth (layout.write row) := by
  induction layout with
  | done => trivial
  | field name codec fallback rest ih =>
      obtain ⟨value, row⟩ := row
      exact ⟨plain.1 value, ih plain.2 row⟩

end Layout

theorem Codec.plain_record {α ρ σ : Type} {typeName : String} {depth : Nat} {layout : Layout ρ σ}
    {ofRow : ρ → α} {toRow : α → ρ} (plain : layout.Plain depth) :
    (Codec.record typeName layout ofRow toRow).Plain (depth + 1) :=
  fun value => plain.write (toRow value)

/-- The text of a record is read as the record. -/
theorem Codec.decodeText_compact_record {α ρ σ : Type} {typeName : String} {layout : Layout ρ σ}
    {ofRow : ρ → α} {toRow : α → ρ} (faithful : layout.Faithful)
    (plain : layout.Plain (Document.depthLimit - 1)) (same : ∀ value, ofRow (toRow value) = value)
    (value : α) :
    (Codec.record typeName layout ofRow toRow).decodeText
        ((Codec.record typeName layout ofRow toRow).write value).compact = .ok value :=
  (Codec.faithful_record faithful same).decodeText_compact (Codec.plain_record plain) value

end LightningGateway
