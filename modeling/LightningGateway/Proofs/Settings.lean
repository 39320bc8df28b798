import LightningGateway.Proofs.Numerals
import LightningGateway.Proofs.Quotations
import LightningGateway.Proofs.Sorting
import LightningGateway.Toml.Reader

/-!
# Settings that are read back

A file of settings is read as the settings that were written, without those that are `null`, as long
as the names need no quotation and differ from each other.
-/

namespace LightningGateway

namespace Json

mutual

/-- A value as it stands in a file, where fields that are `null` are left out. -/
def present : Json → Json
  | .object fields => .object (presentFields fields)
  | value => value

def presentFields : List (String × Json) → List (String × Json)
  | [] => []
  | (_, .null) :: rest => presentFields rest
  | (key, value) :: rest => (key, value.present) :: presentFields rest

end

theorem presentFields_cons {value : Json} (some_value : value ≠ .null) (key : String)
    (rest : List (String × Json)) :
    presentFields ((key, value) :: rest) = (key, value.present) :: presentFields rest := by
  rw [presentFields]
  exact some_value

theorem keys_presentFields (fields : List (String × Json)) :
    ((presentFields fields).map Prod.fst).Sublist (fields.map Prod.fst) := by
  induction fields with
  | nil => exact .slnil
  | cons field rest ih =>
      obtain ⟨key, value⟩ := field
      by_cases null : value = .null
      · subst null
        exact ih.cons key
      · rw [presentFields_cons null]
        exact ih.cons_cons key

end Json

namespace Toml

/-! ### Integers -/

section Integers

variable {characters : List Char}

theorem digitsOf?_digits (digits : ∀ character ∈ characters, character.isDigit)
    (some_digit : characters ≠ []) : digitsOf? Text.isDigit characters = some characters := by
  induction characters with
  | nil => exact absurd rfl some_digit
  | cons head tail ih =>
      have digit := Text.isDigit_of_char (digits head List.mem_cons_self)
      cases tail with
      | nil => simp [digitsOf?, digit]
      | cons next rest =>
          have whole : next ≠ '_' := by
            rintro rfl
            exact absurd (digits '_' (by simp)) (by decide)
          have later := ih (fun character member => digits character (.tail _ member)) (by simp)
          rw [digitsOf?, if_pos digit, later, Option.map_some]
          · exact (nomatch ·)
          · intro others same
            exact whole (List.cons.inj same).1

theorem wholeDigits?_digits (value : Nat) :
    wholeDigits? (Text.digits value) = some (Text.digits value) := by
  have read := digitsOf?_digits (fun _ => @Text.isDigit_of_mem_digits value _) Nat.toDigits_ne_nil
  rw [wholeDigits?, read]
  rcases Text.digits_eq_zero_or_cons value with zero | ⟨head, rest, begins, nonzero⟩
  · rw [zero]
    rfl
  · rw [begins]
    split
    next same => exact absurd (List.cons.inj (Option.some.inj same)).1 nonzero
    next => rfl

theorem number?_digits (negative : Bool) {value : Nat} (small : value ≤ Bound.signed64) :
    number? negative (Text.digits value) =
      some (.integer (if negative then -(value : Int) else value)) := by
  have inRange : -(Bound.signed128 : Int) ≤ (if negative then -(value : Int) else value) ∧
      (if negative then -(value : Int) else value) < Bound.word128 := by
    simp only [Bound.signed64, Bound.signed128, Bound.word128] at *
    split <;> omega
  rw [number?, wholeDigits?_digits]
  simp only [Text.digitsValue?_digits, Option.bind_some, withinRange, if_pos inRange]

theorem fixedDigits?_eq_drop {count low high value : Nat} {rest : List Char}
    (read : fixedDigits? count low high characters = some (value, rest)) :
    rest = characters.drop count := by
  rw [fixedDigits?] at read
  split at read
  · cases read
  · obtain ⟨found, -, read⟩ := Option.bind_eq_some_iff.mp read
    split at read
    · exact (Prod.mk.inj (Option.some.inj read)).2.symm
    · cases read

theorem afterDate?_digits (digits : ∀ character ∈ characters, character.isDigit) :
    afterDate? characters = none := by
  rw [afterDate?]
  cases read : fixedDigits? 4 0 9999 characters with
  | none => rfl
  | some found =>
      obtain ⟨value, rest⟩ := found
      have left := fixedDigits?_eq_drop read
      simp only [Option.bind_eq_bind, Option.bind_some]
      split
      next others =>
        have member : '-' ∈ characters.drop 4 := left ▸ List.mem_cons_self
        exact absurd (digits '-' (List.mem_of_mem_drop member)) (by decide)
      next => rfl

theorem afterTime?_digits (digits : ∀ character ∈ characters, character.isDigit) :
    afterTime? characters = none := by
  rw [afterTime?]
  cases read : fixedDigits? 2 0 23 characters with
  | none => rfl
  | some found =>
      obtain ⟨value, rest⟩ := found
      have left := fixedDigits?_eq_drop read
      simp only [Option.bind_eq_bind, Option.bind_some]
      split
      next others =>
        have member : ':' ∈ characters.drop 2 := left ▸ List.mem_cons_self
        exact absurd (digits ':' (List.mem_of_mem_drop member)) (by decide)
      next => rfl

theorem isMoment_digits (digits : ∀ character ∈ characters, character.isDigit) :
    isMoment characters = false := by
  rw [isMoment, afterDate?_digits digits, afterTime?_digits digits]
  rfl

theorem word?_digits {value : Nat} (small : value ≤ Bound.signed64) :
    word? (Text.digits value) = some (.integer value) := by
  have digits : ∀ character ∈ Text.digits value, character.isDigit :=
    fun _ => Text.isDigit_of_mem_digits
  have unlike {characters : List Char} (mark : Char) (member : mark ∈ characters)
      (other : mark.isDigit = false) : Text.digits value ≠ characters := by
    rintro rfl
    exact absurd (digits mark member) (by simp [other])
  have number := number?_digits false small
  rw [word?, if_neg (by simp [isMoment_digits digits])]
  · exact number
  · exact unlike 't' (by simp) rfl
  · exact unlike 'f' (by simp) rfl
  · exact fun rest => unlike 'x' (by simp) rfl
  · exact fun rest => unlike 'o' (by simp) rfl
  · exact fun rest => unlike 'b' (by simp) rfl
  · exact fun rest => unlike '+' (by simp) rfl
  · exact fun rest => unlike '-' (by simp) rfl

theorem word?_signedNumeral {value : Int} (least : -(Bound.signed64 : Int) ≤ value)
    (most : value < Bound.signed64) :
    word? (Text.signedNumeral value).toList = some (.integer value) := by
  cases value with
  | ofNat value =>
      have small : value ≤ Bound.signed64 := (Int.ofNat_lt.mp most).le
      have read := word?_digits small
      simpa [Text.signedNumeral, Text.numeral] using read
  | negSucc value =>
      have read := @number?_digits true (value + 1) (by omega)
      simpa [Text.signedNumeral, Text.numeral, word?, Int.negSucc_eq] using read

theorem isWordCharacter_of_isDigit {character : Char} (digit : character.isDigit) :
    isWordCharacter character = true := by
  simp [isWordCharacter, Text.isDigit_of_char digit]

theorem isWordCharacter_of_mem_signedNumeral {value : Int} {character : Char}
    (member : character ∈ (Text.signedNumeral value).toList) :
    isWordCharacter character = true := by
  cases value with
  | ofNat value =>
      rw [Text.signedNumeral, Text.numeral, String.toList_ofList] at member
      exact isWordCharacter_of_isDigit (Text.isDigit_of_mem_digits member)
  | negSucc value =>
      rw [Text.signedNumeral, Text.numeral, String.toList_append] at member
      rcases List.mem_append.mp member with sign | digit
      · obtain rfl : character = '-' := by simpa using sign
        rfl
      · rw [String.toList_ofList] at digit
        exact isWordCharacter_of_isDigit (Text.isDigit_of_mem_digits digit)

theorem signedNumeral_ne_nil (value : Int) : (Text.signedNumeral value).toList ≠ [] := by
  cases value with
  | ofNat value =>
      rw [Text.signedNumeral, Text.numeral, String.toList_ofList]
      exact Nat.toDigits_ne_nil
  | negSucc value => simp [Text.signedNumeral]

theorem splitWord_line (word : ∀ character ∈ characters, isWordCharacter character = true)
    (rest : List Char) : splitWord (characters ++ '\n' :: rest) = (characters, '\n' :: rest) := by
  have stops : isWordCharacter '\n' = false := rfl
  simp only [splitWord, List.takeWhile_append_of_pos word, List.dropWhile_append_of_pos word,
    List.takeWhile_cons_of_neg (Bool.not_eq_true _ ▸ stops),
    List.dropWhile_cons_of_neg (Bool.not_eq_true _ ▸ stops), List.append_nil]
  split
  next same => exact absurd (List.cons.inj same).1 (by decide)
  next => rfl

end Integers

/-! ### Values -/

/-- Characters at the end of a line that are read as a value. -/
structure Writes (value : Value) (written : List Char) : Prop where
  begins : ∃ head tail, written = head :: tail ∧ isSpace head = false
  read : ∀ fuel depth rest,
    readValue (fuel + 1) depth (written ++ '\n' :: rest) = some (value, '\n' :: rest)

theorem Quoted.begins {text : String} {written : List Char} (quoted : Quoted text written) :
    ∃ head tail, written = head :: tail ∧ (head = '"' ∨ head = '\'') := by
  cases quoted with
  | basic => exact ⟨_, _, rfl, .inl rfl⟩
  | literal => exact ⟨_, _, rfl, .inr rfl⟩
  | block kind => exact ⟨_, _, rfl, kind.imp And.left And.left⟩

theorem writes_quotation (text : String) : Writes (.text text) (quotation text) := by
  obtain ⟨head, tail, begins, mark⟩ := (quoted_quotation text).begins
  refine ⟨⟨head, tail, begins, by rcases mark with rfl | rfl <;> rfl⟩, fun fuel depth rest => ?_⟩
  have quoted := readQuoted_quotation text rest
  rw [begins, List.cons_append] at quoted ⊢
  have opens : (head == '"' || head == '\'') = true := by simpa using mark
  simp only [readValue, opens, if_true, quoted, Option.map_some]

theorem writes_signedNumeral {value : Int} (least : -(Bound.signed64 : Int) ≤ value)
    (most : value < Bound.signed64) :
    Writes (.integer value) (Text.signedNumeral value).toList := by
  have word := fun character => @isWordCharacter_of_mem_signedNumeral value character
  obtain ⟨head, tail, begins⟩ := List.exists_cons_of_ne_nil (signedNumeral_ne_nil value)
  have first : isWordCharacter head = true := word head (begins ▸ List.mem_cons_self)
  have unlike {mark : Char} (other : isWordCharacter mark = false) : head ≠ mark := by
    rintro rfl
    exact absurd first (by simp [other])
  refine ⟨⟨head, tail, begins, ?_⟩, fun fuel depth rest => ?_⟩
  · simp [isSpace, @unlike ' ' rfl, @unlike '\t' rfl]
  · have split := splitWord_line word rest
    have read := word?_signedNumeral least most
    rw [begins] at split read ⊢
    rw [List.cons_append] at split ⊢
    simp [readValue, @unlike '"' rfl, @unlike '\'' rfl, @unlike '[' rfl, @unlike '\x7b' rfl, split,
      read]

/-! ### Lines -/

/-- A key that stands without quotation. -/
def Bare (key : String) : Prop :=
  key.toList.isEmpty = false ∧ key.toList.all isKeyCharacter = true

instance (key : String) : Decidable (Bare key) :=
  inferInstanceAs (Decidable (_ ∧ _))

theorem Bare.characters {key : String} (bare : Bare key) :
    ∀ character ∈ key.toList, isKeyCharacter character = true :=
  List.all_eq_true.mp bare.2

theorem Bare.exists_cons {key : String} (bare : Bare key) :
    ∃ head tail, key.toList = head :: tail ∧ isKeyCharacter head = true := by
  cases begins : key.toList with
  | nil => simp [Bare, begins] at bare
  | cons head tail => exact ⟨head, tail, rfl, bare.characters head (begins ▸ .head _)⟩

theorem ne_of_isKeyCharacter {head : Char} (first : isKeyCharacter head = true) (mark : Char)
    (other : isKeyCharacter mark = false) : head ≠ mark := by
  rintro rfl
  exact absurd first (by simp [other])

theorem readKeyPart_bare {key : String} (bare : Bare key) {mark : Char}
    (stops : isKeyCharacter mark = false) (rest : List Char) :
    readKeyPart (key.toList ++ mark :: rest) = some (key, mark :: rest) := by
  have stopped : ¬isKeyCharacter mark = true := by simp [stops]
  have taken : (key.toList ++ mark :: rest).takeWhile isKeyCharacter = key.toList := by
    rw [List.takeWhile_append_of_pos bare.characters, List.takeWhile_cons_of_neg stopped,
      List.append_nil]
  have left : (key.toList ++ mark :: rest).dropWhile isKeyCharacter = mark :: rest := by
    rw [List.dropWhile_append_of_pos bare.characters, List.dropWhile_cons_of_neg stopped]
  have named : String.ofList key.toList = key := String.ofList_toList
  obtain ⟨head, tail, begins, first⟩ := bare.exists_cons
  rw [begins] at taken left named ⊢
  rw [List.cons_append] at taken left ⊢
  simp only [readKeyPart, taken, left, named]
  simp [ne_of_isKeyCharacter first '"' rfl, ne_of_isKeyCharacter first '\'' rfl]

theorem readKey_bare {key : String} (bare : Bare key) {mark : Char} {rest others : List Char}
    (after : skipSpaces (mark :: rest) = others) (stops : isKeyCharacter mark = false)
    (single : others.head? ≠ some '.') (fuel : Nat) :
    readKey (fuel + 1) (key.toList ++ mark :: rest) = some (⟨[], key⟩, others) := by
  rw [readKey, readKeyPart_bare bare stops]
  simp only [after]
  split
  next => exact absurd rfl single
  next => rfl

def settingOf (entry : String × Value) : Assignment := ⟨⟨[], entry.1⟩, entry.2⟩

/-- The line that gives a key its value. -/
def settingLine (entry : String × Value) : Line := .assignment (settingOf entry)

theorem skipSpaces_cons {head : Char} (solid : isSpace head = false) (tail : List Char) :
    skipSpaces (head :: tail) = head :: tail :=
  List.dropWhile_cons_of_neg (by simp [solid])

theorem readLine_setting {key : String} (bare : Bare key) {value : Value} {written : List Char}
    (writes : Writes value written) (fuel : Nat) (rest : List Char) :
    readLine (fuel + 2) (key.toList ++ ' ' :: '=' :: ' ' :: (written ++ '\n' :: rest)) =
      some (settingLine (key, value), '\n' :: rest) := by
  have equals : skipSpaces (' ' :: '=' :: ' ' :: (written ++ '\n' :: rest)) =
      '=' :: ' ' :: (written ++ '\n' :: rest) := rfl
  have named := readKey_bare bare equals rfl (by simp)
  have content : skipSpaces (' ' :: (written ++ '\n' :: rest)) = written ++ '\n' :: rest := by
    obtain ⟨first, others, opens, solid⟩ := writes.begins
    rw [opens, List.cons_append]
    exact skipSpaces_cons solid _
  obtain ⟨head, tail, begins, first⟩ := bare.exists_cons
  have unlike := ne_of_isKeyCharacter first '[' rfl
  rw [begins, List.cons_append] at named ⊢
  rw [readLine]
  · simp only [readPair, named, content, writes.read, Option.map_some, settingLine, settingOf]
  · exact fun _ same => unlike (List.cons.inj same).1
  · exact fun _ same => unlike (List.cons.inj same).1

theorem readLine_header {name : String} (bare : Bare name) (fuel : Nat) (rest : List Char) :
    readLine fuel ('[' :: (name.toList ++ ']' :: '\n' :: rest)) =
      some (.header false ⟨[], name⟩, '\n' :: rest) := by
  have closes : skipSpaces (']' :: '\n' :: rest) = ']' :: '\n' :: rest := rfl
  have named := readKey_bare bare closes rfl (by simp)
  obtain ⟨head, tail, begins, first⟩ := bare.exists_cons
  have solid : isSpace head = false := by
    simp [isSpace, ne_of_isKeyCharacter first ' ' rfl, ne_of_isKeyCharacter first '\t' rfl]
  have unlike := ne_of_isKeyCharacter first '[' rfl
  rw [begins, List.cons_append] at named ⊢
  rw [readLine]
  · simp only [readHeader, skipSpaces_cons solid, named]
  · exact fun _ same => unlike (List.cons.inj same).1

/-! ### Readings of several lines -/

/-- Characters that are read as lines. -/
def ReadAs (characters : List Char) (lines : List Line) : Prop :=
  ∀ fuel, characters.length + 3 ≤ fuel → readAllLines fuel characters = some lines

theorem readAs_nil : ReadAs [] [] := by
  intro fuel enough
  obtain ⟨fuel, rfl⟩ : ∃ left, fuel = left + 1 := ⟨fuel - 1, by omega⟩
  rfl

theorem skipTrivia_succ {fuel : Nat} {characters solid : List Char}
    (skipped : skipTrivia fuel characters = some solid) :
    skipTrivia (fuel + 1) characters = some solid := by
  induction fuel generalizing characters with
  | zero => cases skipped
  | succ fuel ih =>
      rw [skipTrivia] at skipped ⊢
      split at skipped
      next rest same =>
        obtain ⟨found, comment, skipped⟩ := Option.bind_eq_some_iff.mp skipped
        rw [comment, Option.bind_some]
        exact ih skipped
      next => exact skipped

/-- An empty line is passed over. -/
theorem ReadAs.blank {characters : List Char} {lines : List Line}
    (reads : ReadAs characters lines) : ReadAs ('\n' :: characters) lines := by
  intro fuel enough
  rw [List.length_cons] at enough
  obtain ⟨fuel, rfl⟩ : ∃ left, fuel = left + 1 := ⟨fuel - 1, by omega⟩
  have read := reads (fuel + 1) (by omega)
  rw [readAllLines] at read ⊢
  cases skipped : skipTrivia (characters.length + 1) characters with
  | none => simp [skipped] at read
  | some solid =>
      have further : skipTrivia (('\n' :: characters).length + 1) ('\n' :: characters) =
          some solid := skipTrivia_succ skipped
      rwa [skipped, ← further] at read

theorem skipTrivia_cons {head : Char} (solid : head ∉ [' ', '\t', '\n', '\r', '#'])
    (fuel : Nat) (tail : List Char) :
    skipTrivia (fuel + 1) (head :: tail) = some (head :: tail) := by
  simp only [List.mem_cons, List.not_mem_nil, or_false, not_or] at solid
  obtain ⟨space, tab, newline, carriage, comment⟩ := solid
  have stays : skipLines (head :: tail) = head :: tail := by
    simp [skipLines, *]
  simp [skipTrivia, stays, comment]

theorem ReadAs.line {head : Char} {tail rest : List Char} {line : Line} {lines : List Line}
    (solid : head ∉ [' ', '\t', '\n', '\r', '#'])
    (read : ∀ fuel,
      readLine (fuel + 2) (head :: (tail ++ '\n' :: rest)) = some (line, '\n' :: rest))
    (later : ReadAs rest lines) : ReadAs (head :: (tail ++ '\n' :: rest)) (line :: lines) := by
  intro fuel enough
  simp only [List.length_cons, List.length_append] at enough
  obtain ⟨fuel, rfl⟩ : ∃ left, fuel = left + 3 := ⟨fuel - 3, by omega⟩
  have finished : finishLine ('\n' :: rest) = some rest := rfl
  have later := later (fuel + 2) (by omega)
  rw [readAllLines, skipTrivia_cons solid]
  simp only [read, finished, Option.bind_some, later, Option.map_some]

theorem Bare.solid {key : String} (bare : Bare key) {head : Char} {tail : List Char}
    (begins : key.toList = head :: tail) : head ∉ [' ', '\t', '\n', '\r', '#'] := by
  have first : isKeyCharacter head = true :=
    bare.characters head (begins ▸ List.mem_cons_self)
  have marks : [' ', '\t', '\n', '\r', '#'].all (fun mark => !isKeyCharacter mark) = true := rfl
  intro member
  have other := List.all_eq_true.mp marks head member
  simp [first] at other

theorem ReadAs.setting {key : String} (bare : Bare key) {value : Value} {written rest : List Char}
    (writes : Writes value written) {lines : List Line} (later : ReadAs rest lines) :
    ReadAs (key.toList ++ ' ' :: '=' :: ' ' :: (written ++ '\n' :: rest))
      (settingLine (key, value) :: lines) := by
  obtain ⟨head, tail, begins, -⟩ := bare.exists_cons
  have read := fun fuel => readLine_setting bare writes fuel rest
  have reads := @ReadAs.line head (tail ++ ' ' :: '=' :: ' ' :: written) rest
    (settingLine (key, value)) lines (bare.solid begins)
  simp only [begins, List.cons_append, List.append_assoc] at read reads ⊢
  exact reads read later

theorem ReadAs.header {name : String} (bare : Bare name) {rest : List Char} {lines : List Line}
    (later : ReadAs rest lines) :
    ReadAs ('[' :: (name.toList ++ ']' :: '\n' :: rest)) (.header false ⟨[], name⟩ :: lines) := by
  have reads := @ReadAs.line '[' (name.toList ++ [']']) rest (.header false ⟨[], name⟩) lines
    (by decide)
  simp only [List.append_assoc, List.cons_append, List.nil_append] at reads
  exact reads (fun fuel => readLine_header bare (fuel + 2) rest) later

/-! ### Settings and sections -/

/-- Keys that stand without quotation and differ from each other. -/
structure Keyed (keys : List String) : Prop where
  bare : ∀ key ∈ keys, Bare key
  nodup : keys.Nodup

instance (keys : List String) : Decidable (Keyed keys) :=
  decidable_of_iff (keys.all (fun key => decide (Bare key)) = true ∧ keys.Nodup) <| by
    simp only [List.all_eq_true, decide_eq_true_eq]
    exact ⟨fun ⟨bare, nodup⟩ => ⟨bare, nodup⟩, fun keyed => ⟨keyed.bare, keyed.nodup⟩⟩

theorem writes_of_setting? {key : String} {json : Json} {line : List Char}
    (written : setting? key json = some line) (some_json : json ≠ .null) :
    ∃ value word, Writes value word ∧ value.toDocument = .ofJson json.present ∧
      line = key.toList ++ ' ' :: '=' :: ' ' :: (word ++ ['\n']) := by
  revert written
  fun_cases setting? key json with
  | case1 => exact absurd rfl some_json
  | case2 text =>
      rintro ⟨⟩
      exact ⟨_, _, writes_quotation text, rfl, by simp⟩
  | case3 value inRange =>
      rintro ⟨⟩
      exact ⟨_, _, writes_signedNumeral inRange.1 inRange.2, rfl, by simp⟩
  | _ => nofun

theorem keys_eq_of_entryDocuments {entries : Entries} {fields : List (String × Json)}
    (same : Value.entryDocuments entries = Document.ofFields fields) :
    entries.map Prod.fst = fields.map Prod.fst := by
  induction entries generalizing fields with
  | nil =>
      cases fields with
      | nil => rfl
      | cons => cases same
  | cons entry entries ih =>
      cases fields with
      | nil => cases same
      | cons field fields =>
          obtain ⟨first, others⟩ := List.cons.inj same
          have key := Option.some.inj (Prod.mk.inj first).1
          rw [List.map_cons, List.map_cons, ih others, key]

/-- The settings of a section are read back, whatever lines follow. -/
theorem exists_of_settings? {fields : List (String × Json)} {written : List Char}
    (encoded : settings? fields = some written)
    (bare : ∀ key ∈ fields.map Prod.fst, Bare key) :
    ∃ entries, Value.entryDocuments entries = Document.ofFields (Json.presentFields fields) ∧
      ∀ rest lines, ReadAs rest lines →
        ReadAs (written ++ rest) (entries.map settingLine ++ lines) := by
  induction fields generalizing written with
  | nil =>
      cases encoded
      exact ⟨[], rfl, fun _ _ reads => reads⟩
  | cons field others ih =>
      obtain ⟨key, json⟩ := field
      obtain ⟨line, first, following⟩ := Option.bind_eq_some_iff.mp encoded
      obtain ⟨later, others, rfl⟩ := Option.map_eq_some_iff.mp following
      obtain ⟨entries, shown, reads⟩ := ih others fun key member => bare key (.tail _ member)
      by_cases null : json = .null
      · subst null
        cases first
        exact ⟨entries, shown, reads⟩
      · obtain ⟨value, word, writes, document, rfl⟩ := writes_of_setting? first null
        refine ⟨(key, value) :: entries, ?_, fun rest lines following => ?_⟩
        · rw [Json.presentFields_cons null, Document.ofFields, Value.entryDocuments, document,
            shown]
        · have setting := (reads rest lines following).setting (bare key (.head _)) writes
          simpa using setting

/-- A table with its name, as a header gives it. -/
def headed (table : String × Entries) : String × Value := (table.1, .table .headed table.2)

def sectionLines (table : String × Entries) : List Line :=
  .header false ⟨[], table.1⟩ :: table.2.map settingLine

theorem intercalate_cons (part : List Char) (parts : List (List Char)) :
    List.intercalate ['\n'] (part :: parts) =
      part ++ if parts = [] then [] else '\n' :: List.intercalate ['\n'] parts := by
  cases parts with
  | nil => simp
  | cons next others => simp

/-- The part of a file with one section is read back, before the sections that are read already. -/
theorem ReadAs.section {name : String} (bare : Bare name) {entries : Entries}
    {body : List Char} {parts : List (List Char)} {lines : List Line}
    (reads : ∀ rest lines, ReadAs rest lines →
      ReadAs (body ++ rest) (entries.map settingLine ++ lines))
    (later : ReadAs (List.intercalate ['\n'] parts) lines) :
    ReadAs (List.intercalate ['\n'] ((['['] ++ name.toList ++ [']', '\n'] ++ body) :: parts))
      (sectionLines (name, entries) ++ lines) := by
  have separated :
      ReadAs (if parts = [] then [] else '\n' :: List.intercalate ['\n'] parts) lines := by
    split
    next last =>
      subst last
      exact later
    next => exact later.blank
  have whole := (reads _ _ separated).header bare
  rw [intercalate_cons]
  simpa [sectionLines] using whole

/-- The entries that are read back from a section differ in their keys. -/
theorem Keyed.nodup_entries {fields : List (String × Json)} (keyed : Keyed (fields.map Prod.fst))
    {entries : Entries}
    (same : Value.entryDocuments entries = Document.ofFields (Json.presentFields fields)) :
    (entries.map Prod.fst).Nodup := by
  rw [keys_eq_of_entryDocuments same]
  exact keyed.nodup.sublist (Json.keys_presentFields fields)

/-- Sections are read back in their order. -/
theorem exists_of_sections? {fields : List (String × Json)} {parts : List (List Char)}
    (encoded : sections? fields = some parts)
    (bare : ∀ name ∈ fields.map Prod.fst, Bare name)
    (keyed : ∀ field ∈ fields, ∀ settings, field.2 = .object settings →
      Keyed (settings.map Prod.fst)) :
    ∃ tables : List (String × Entries),
      Value.entryDocuments (tables.map headed) = Document.ofFields (Json.presentFields fields) ∧
      (∀ table ∈ tables, (table.2.map Prod.fst).Nodup) ∧
      ReadAs (List.intercalate ['\n'] parts) (tables.flatMap sectionLines) := by
  induction fields generalizing parts with
  | nil =>
      cases encoded
      exact ⟨[], rfl, nofun, readAs_nil⟩
  | cons field others ih =>
      obtain ⟨name, json⟩ := field
      obtain ⟨part, first, following⟩ := Option.bind_eq_some_iff.mp encoded
      obtain ⟨later, others, rfl⟩ := Option.map_eq_some_iff.mp following
      obtain ⟨tables, shown, distinct, reads⟩ := ih others
        (fun name member => bare name (.tail _ member))
        fun field member => keyed field (.tail _ member)
      cases json with
      | null =>
          cases first
          exact ⟨tables, shown, distinct, reads⟩
      | object settings =>
          obtain ⟨body, written, rfl⟩ := Option.map_eq_some_iff.mp first
          have some_section : Json.object settings ≠ .null := nofun
          have keys := keyed _ (.head _) settings rfl
          obtain ⟨entries, document, read⟩ := exists_of_settings? written keys.bare
          refine ⟨(name, entries) :: tables, ?_, ?_, reads.section (bare name (.head _)) read⟩
          · rw [Json.presentFields_cons some_section, List.map_cons, headed, Value.entryDocuments,
              shown, Value.toDocument, document]
            rfl
          · intro table member
            rcases List.mem_cons.mp member with rfl | member
            · exact keys.nodup_entries document
            · exact distinct table member
      | bool | number | string | array => cases first

/-! ### Files -/

theorem group_settings (entries : Entries) (lines : List Line) :
    group (entries.map settingLine ++ lines) =
      (entries.map settingOf ++ (group lines).1, (group lines).2) := by
  induction entries with
  | nil => rfl
  | cons entry entries ih => simp [settingLine, group, ih]

theorem group_sections (tables : List (String × Entries)) :
    group (tables.flatMap sectionLines) =
      ([], tables.map fun table => ⟨false, ⟨[], table.1⟩, table.2.map settingOf⟩) := by
  induction tables with
  | nil => rfl
  | cons table tables ih =>
      rw [List.flatMap_cons, sectionLines, List.cons_append, group, group_settings, ih]
      simp

theorem notMem_of_nodup {before entries : Entries} {entry : String × Value}
    (nodup : ((before ++ entry :: entries).map Prod.fst).Nodup) :
    entry.1 ∉ before.map Prod.fst := by
  rw [List.map_append, List.nodup_append] at nodup
  exact fun member => nodup.2.2 _ member _ (List.mem_map_of_mem (.head _)) rfl

theorem assignAll_settings (entries before : Entries)
    (nodup : ((before ++ entries).map Prod.fst).Nodup) :
    Entries.assignAll (entries.map settingOf) before = some (before ++ entries) := by
  induction entries generalizing before with
  | nil => rw [List.append_nil]; rfl
  | cons entry entries ih =>
      have fresh := lookup_eq_none_iff_notMem.mpr (notMem_of_nodup nodup)
      rw [List.append_cons] at nodup ⊢
      simp [Entries.assignAll, settingOf, Entries.assign, fresh, ih (before ++ [entry]) nodup]

theorem put_of_notMem {key : String} {entries : Entries} (fresh : key ∉ entries.map Prod.fst)
    (value : Value) : Entries.put key value entries = entries ++ [(key, value)] := by
  induction entries with
  | nil => rfl
  | cons entry entries ih =>
      rw [List.map_cons, List.mem_cons, not_or] at fresh
      rw [Entries.put, if_neg (Ne.symm fresh.1), ih fresh.2, List.cons_append]

theorem addSections_tables (tables : List (String × Entries)) (before : Entries)
    (nodup : ((before ++ tables.map headed).map Prod.fst).Nodup)
    (distinct : ∀ table ∈ tables, (table.2.map Prod.fst).Nodup) :
    Entries.addSections (tables.map fun table => ⟨false, ⟨[], table.1⟩, table.2.map settingOf⟩)
      before = some (before ++ tables.map headed) := by
  induction tables generalizing before with
  | nil => rw [List.map_nil, List.map_nil, List.append_nil]; rfl
  | cons table tables ih =>
      have fresh := notMem_of_nodup nodup
      have body := assignAll_settings table.2 [] (distinct table (.head _))
      have added : Entries.addSection ⟨false, ⟨[], table.1⟩, table.2.map settingOf⟩ before =
          some (before ++ [headed table]) := by
        have absent : before.lookup table.1 = none := lookup_eq_none_iff_notMem.mpr fresh
        have put : Entries.put table.1 (.table .headed table.2) before = before ++ [headed table] :=
          put_of_notMem fresh _
        simp [Entries.addSection, Entries.changeAt, Entries.headTable, absent, body, put]
      rw [List.map_cons, List.append_cons] at nodup
      have later := ih _ nodup fun table member => distinct table (.tail _ member)
      rw [List.map_cons, List.map_cons, Entries.addSections, added, Option.bind_some, later]
      simp

theorem head?_intercalate {fields : List (String × Json)} {parts : List (List Char)}
    (encoded : sections? fields = some parts) :
    ∀ head ∈ (List.intercalate ['\n'] parts).head?, head = '[' := by
  induction fields generalizing parts with
  | nil =>
      cases encoded
      nofun
  | cons field others ih =>
      obtain ⟨name, json⟩ := field
      obtain ⟨part, first, following⟩ := Option.bind_eq_some_iff.mp encoded
      obtain ⟨later, others, rfl⟩ := Option.map_eq_some_iff.mp following
      cases json with
      | null =>
          cases first
          exact ih others
      | object settings =>
          obtain ⟨body, -, rfl⟩ := Option.map_eq_some_iff.mp first
          rw [List.singleton_append, intercalate_cons]
          rintro _ ⟨⟩
          rfl
      | bool | number | string | array => cases first

theorem read_ofList {characters : List Char} {lines : List Line}
    (reads : ReadAs characters lines) (unmarked : characters.head? ≠ some '\uFEFF') :
    read (String.ofList characters) =
      (Entries.assignAll (group lines).1 []).bind (Entries.addSections (group lines).2) := by
  have enough : readAllLines (2 * characters.length + 2) characters = some lines := by
    cases characters with
    | nil => exact reads 3 le_rfl
    | cons head tail =>
        apply reads
        simp only [List.length_cons]
        omega
  rw [read, String.toList_ofList]
  split
  next => exact absurd rfl unmarked
  next => rw [enough, Option.bind_some]

/-- A written file is read as its sections, without what is `null`. -/
theorem exists_of_write? {fields : List (String × Json)} {text : String}
    (encoded : write? (.object fields) = some text) (sections : Keyed (fields.map Prod.fst))
    (keyed : ∀ field ∈ fields, ∀ settings, field.2 = .object settings →
      Keyed (settings.map Prod.fst)) :
    ∃ entries, read text = some entries ∧
      (Value.table .headed entries).toDocument = .ofJson (Json.object fields).present := by
  obtain ⟨parts, written, rfl⟩ := Option.map_eq_some_iff.mp encoded
  obtain ⟨tables, shown, distinct, reads⟩ := exists_of_sections? written sections.bare keyed
  have nodup := sections.nodup_entries shown
  have unmarked : (List.intercalate ['\n'] parts).head? ≠ some '\uFEFF' := by
    intro marked
    exact absurd (head?_intercalate written _ marked) (by decide)
  have added := addSections_tables tables [] nodup distinct
  refine ⟨tables.map headed, ?_, ?_⟩
  · rw [read_ofList reads unmarked, group_sections]
    exact added
  · rw [Value.toDocument, shown]
    rfl

end Toml

end LightningGateway
