import Mathlib.Data.List.Chain
import LightningGateway.Daemon.Payments
import LightningGateway.Proofs.Reading
import LightningGateway.Proofs.Spellings

/-!
# Respelling an amount within a text

A text in which one amount is written with quotation marks is read as the document in which that
amount is a text. What stands in front of the amount is read as before. What follows it may have
any faults; they are found as before.
-/

namespace LightningGateway

namespace Document

/-! ### Parts of a text -/

/-- Characters that are read as a value with nothing but blanks behind it. -/
def IsValue (characters : List Char) : Prop :=
  ∃ document rest, readValue (2 * characters.length + 1) characters = (document, some rest) ∧
    skipGap rest = []

/-- Characters that are read as a key and its value. -/
def IsField (characters : List Char) : Prop :=
  ∃ name key value, characters = name ++ value ∧ IsKey name key ∧ IsValue value

/-- Parts of an array or an object, with a comma behind each of them. -/
def separated (parts : List (List Char)) : List Char := parts.flatMap (· ++ [','])

/-- One amount is written as a text instead of a number. -/
inductive Rewritten : Shape → List Char → List Char → Prop where
  | amount {amount : Msat} {text : String} {after : List Char}
      (spelling : Amount.Spelling amount text) (stops : Stops after) :
      Rewritten .amount (Text.digits amount.toNat ++ after)
        ('"' :: (text.toList ++ ['"']) ++ after)
  | blank {shape : Shape} {gap : Char} {first second : List Char} (blank : isGap gap = true)
      (rewritten : Rewritten shape first second) :
      Rewritten shape (gap :: first) (gap :: second)
  | item {shape inner : Shape} {earlier : List (List Char)} {first second : List Char}
      (values : ∀ part ∈ earlier, IsValue part)
      (placed : shape.item earlier.length = some inner)
      (rewritten : Rewritten inner first second) :
      Rewritten shape ('[' :: (separated earlier ++ first)) ('[' :: (separated earlier ++ second))
  | field {shape inner : Shape} {earlier : List (List Char)} {name : List Char} {key : String}
      {first second : List Char} (fields : ∀ part ∈ earlier, IsField part)
      (isKey : IsKey name (some key)) (named : shape.member key = some inner)
      (rewritten : Rewritten inner first second) :
      Rewritten shape ('\x7b' :: (separated earlier ++ (name ++ first)))
        ('\x7b' :: (separated earlier ++ (name ++ second)))

/-! ### What is enclosed -/

theorem IsValue.opens {characters : List Char} (isValue : IsValue characters) :
    Opens ']' characters := by
  obtain ⟨document, rest, found, -⟩ := isValue
  rw [readValue_succ] at found
  rcases begins : skipGap characters with _ | ⟨head, tail⟩
  · rw [begins] at found
    cases found
  · refine ⟨head, tail, begins, ?_⟩
    rintro rfl
    rw [begins] at found
    cases found

section Entries

variable {α : Type} {closing : Char} {inside : Nat → Reader (List α)} {name : List Char}
  {entry : Document → α}

/-- A part is read as an entry in the same way whatever follows the comma behind it. -/
def Leads (closing : Char) (inside : Nat → Reader (List α)) (part : List Char) : Prop :=
  Opens closing part ∧ ∃ entry : α, ∀ fuel more, 2 * part.length + 1 ≤ fuel → Opens closing more →
    inside (fuel + 1) (part ++ ',' :: more) = (entry :: (inside fuel more).1, (inside fuel more).2)

/-- Fuel beyond the length of the characters changes nothing. -/
def Settles (inside : Nat → Reader (List α)) : Prop :=
  ∀ fuel extra characters, 2 * characters.length + 2 ≤ fuel →
    inside (fuel + extra) characters = inside fuel characters

theorem Settles.agree (settles : Settles inside) {fuel other : Nat} {characters : List Char}
    (enough : 2 * characters.length + 2 ≤ fuel) (enoughOther : 2 * characters.length + 2 ≤ other) :
    inside fuel characters = inside other characters := by
  obtain ⟨extra, rfl⟩ := Nat.exists_eq_add_of_le enough
  obtain ⟨another, rfl⟩ := Nat.exists_eq_add_of_le enoughOther
  rw [settles _ extra _ le_rfl, settles _ another _ le_rfl]

theorem settles_readItems : Settles readItems :=
  fun fuel extra characters enough => (readers_agree fuel extra).2.1 characters enough

theorem settles_openedFields : Settles openedFields := by
  intro fuel extra characters enough
  have fewer := length_skipGap characters
  exact (readers_agree fuel extra).2.2 (skipGap characters) (by omega)

/-- What follows an entry does not depend on the entry. -/
theorem exists_following {one other : Reader (List α)} {characters : List Char}
    (same : AgreeBelow characters.length one other) :
    ∃ entries left, ∀ entry : α,
      following closing one entry characters = (entry :: entries, left) ∧
        following closing other entry characters = (entry :: entries, left) := by
  have shared : ∃ entries left, ∀ entry : α,
      following closing one entry characters = (entry :: entries, left) := by
    unfold following
    rcases skipGap characters with _ | ⟨head, tail⟩
    · exact ⟨[], none, fun _ => rfl⟩
    · dsimp only
      split
      · exact ⟨[], some tail, fun _ => rfl⟩
      · split
        · exact ⟨_, _, fun _ => rfl⟩
        · exact ⟨[], none, fun _ => rfl⟩
  obtain ⟨entries, left, found⟩ := shared
  refine ⟨entries, left, fun entry => ⟨found entry, ?_⟩⟩
  rw [← following_congr entry characters same]
  exact found entry

theorem Enters.leads (enters : Enters closing inside name entry) (skips : Skips inside)
    {value : List Char} (isValue : IsValue value) (comma : closing ≠ ',')
    (opens : Opens closing (name ++ value)) : Leads closing inside (name ++ value) := by
  obtain ⟨document, rest, found, blank⟩ := isValue
  refine ⟨opens, entry document, fun fuel more enough opens => ?_⟩
  rw [List.length_append] at enough
  obtain ⟨extra, rfl⟩ : ∃ extra, fuel = 2 * value.length + 1 + extra :=
    Nat.exists_eq_add_of_le (by omega)
  have read := ((readers_extend _ extra).1 _ _ _ found).2 (',' :: more)
    fun _ => ⟨rfl, by decide, by decide, by decide⟩
  have gap : skipGap (rest ++ ',' :: more) = ',' :: more := skipGap_append_of_eq_nil blank _
  have later := skips (2 * value.length + 1 + extra) more
  rw [List.append_assoc, enters, read]
  simp [following, gap, comma.symm, opens.head?_ne, later]

/-- Entries are read in the same way whatever follows the comma behind the last of them. -/
theorem exists_entries {parts : List (List Char)}
    (leads : ∀ part ∈ parts, Leads closing inside part) :
    ∃ entries : List α, entries.length = parts.length ∧
      ∀ fuel more, 2 * (separated parts ++ more).length + 2 ≤ fuel → Opens closing more →
        Opens closing (separated parts ++ more) ∧
          ∃ less, 2 * more.length + 2 ≤ less ∧
            inside fuel (separated parts ++ more) =
              (entries ++ (inside less more).1, (inside less more).2) := by
  induction parts with
  | nil => exact ⟨[], rfl, fun fuel more enough opens => ⟨opens, fuel, enough, rfl⟩⟩
  | cons part parts ih =>
      obtain ⟨entries, long, later⟩ := ih fun part member => leads part (.tail _ member)
      obtain ⟨begins, entry, read⟩ := leads part List.mem_cons_self
      refine ⟨entry :: entries, congrArg Nat.succ long, fun fuel more enough opens => ?_⟩
      have split :
          separated (part :: parts) ++ more = part ++ ',' :: (separated parts ++ more) := by
        simp [separated]
      rw [split] at enough ⊢
      rw [List.length_append, List.length_cons] at enough
      obtain ⟨fuel, rfl⟩ : ∃ before, fuel = before + 1 := ⟨fuel - 1, by omega⟩
      obtain ⟨inner, less, fits, found⟩ := later fuel more (by omega) opens
      refine ⟨begins.append _, less, fits, ?_⟩
      rw [read fuel _ (by omega) inner, found]
      rfl

/-- Two texts are read as documents that differ in the spelling of an amount. -/
def ReadsRespelled (shape : Shape) (first second : List Char) : Prop :=
  ∀ fuel other, 2 * first.length + 1 ≤ fuel → 2 * second.length + 1 ≤ other →
    ∃ document respelled left, readValue fuel first = (document, left) ∧
      readValue other second = (respelled, left) ∧ Respelled shape document respelled

theorem Enters.respelled (enters : Enters closing inside name entry) (settles : Settles inside)
    {shape : Shape} {first second : List Char} (reads : ReadsRespelled shape first second)
    {fuel other : Nat} (enough : 2 * (name ++ first).length + 2 ≤ fuel)
    (enoughOther : 2 * (name ++ second).length + 2 ≤ other) :
    ∃ document respelled entries left, Respelled shape document respelled ∧
      inside fuel (name ++ first) = (entry document :: entries, left) ∧
        inside other (name ++ second) = (entry respelled :: entries, left) := by
  rw [List.length_append] at enough enoughOther
  obtain ⟨fuel, rfl⟩ : ∃ before, fuel = before + 1 := ⟨fuel - 1, by omega⟩
  obtain ⟨other, rfl⟩ : ∃ before, other = before + 1 := ⟨other - 1, by omega⟩
  obtain ⟨document, respelled, left, read, readOther, differ⟩ :=
    reads fuel other (by omega) (by omega)
  rw [enters, enters, read, readOther]
  cases left with
  | none => exact ⟨document, respelled, [], none, differ, rfl, rfl⟩
  | some rest =>
      have shorter := (readers_extend fuel 0).1.shortens _ _ _ read
      have shorterOther := (readers_extend other 0).1.shortens _ _ _ readOther
      have same : AgreeBelow rest.length (inside fuel) (inside other) := fun characters short =>
        settles.agree (by omega) (by omega)
      obtain ⟨entries, left, found⟩ := @exists_following _ closing _ _ _ same
      exact ⟨document, respelled, entries, left, differ, (found _).1, (found _).2⟩

/-- An entry behind others is read in two ways, and all that is around it in one. -/
theorem Enters.enclosed_respelled (enters : Enters closing inside name entry)
    (skips : Skips inside) (settles : Settles inside) {parts : List (List Char)}
    (leads : ∀ part ∈ parts, Leads closing inside part) {shape : Shape} {first second : List Char}
    (reads : ReadsRespelled shape first second) (opens : Opens closing (name ++ first))
    (opensOther : Opens closing (name ++ second)) (wrap : List α → Bool → Document)
    {fuel other : Nat} (enough : 2 * (separated parts ++ (name ++ first)).length + 2 ≤ fuel)
    (enoughOther : 2 * (separated parts ++ (name ++ second)).length + 2 ≤ other) :
    ∃ before document respelled after left, before.length = parts.length ∧
      Respelled shape document respelled ∧
        enclosed closing wrap (inside fuel) (separated parts ++ (name ++ first)) =
          (wrap (before ++ entry document :: after) (Option.isSome left), left) ∧
        enclosed closing wrap (inside other) (separated parts ++ (name ++ second)) =
          (wrap (before ++ entry respelled :: after) left.isSome, left) := by
  obtain ⟨before, long, read⟩ := exists_entries leads
  obtain ⟨begins, less, fits, found⟩ := read fuel _ enough opens
  obtain ⟨beginsOther, lessOther, fitsOther, foundOther⟩ := read other _ enoughOther opensOther
  obtain ⟨document, respelled, after, left, differ, one, another⟩ :=
    enters.respelled settles reads fits fitsOther
  refine ⟨before, document, respelled, after, left, long, differ, ?_, ?_⟩
  · rw [enclosed_of_opens begins skips, found, one]
  · rw [enclosed_of_opens beginsOther skips, foundOther, another]

end Entries

theorem IsValue.leads {part : List Char} (isValue : IsValue part) : Leads ']' readItems part :=
  enters_readItems.leads readItems_skipGap isValue (by decide) isValue.opens

theorem IsField.leads {part : List Char} (isField : IsField part) :
    Leads '\x7d' openedFields part := by
  obtain ⟨name, key, value, rfl, isKey, isValue⟩ := isField
  exact (enters_openedFields isKey).leads openedFields_skipGap isValue (by decide)
    (isKey.opens.append value)

/-! ### What is read -/

theorem Rewritten.opens {shape : Shape} {first second : List Char}
    (rewritten : Rewritten shape first second) : Opens ']' first ∧ Opens ']' second := by
  induction rewritten with
  | @amount amount text after spelling stops =>
      obtain ⟨head, tail, written, digit⟩ := Text.exists_digits_cons amount.toNat
      have other : head ≠ ']' := by
        rintro rfl
        cases digit
      refine ⟨⟨head, tail ++ after, ?_, other⟩, ⟨'"', _, rfl, by decide⟩⟩
      rw [written]
      exact skipGap_of_isDigit (Text.isDigit_of_char digit) (tail ++ after)
  | blank blank rewritten ih =>
      have skipped (rest : List Char) : skipGap (_ :: rest) = skipGap rest :=
        List.dropWhile_cons_of_pos blank
      unfold Opens at ih ⊢
      rwa [skipped, skipped]
  | item => exact ⟨⟨'[', _, rfl, by decide⟩, ⟨'[', _, rfl, by decide⟩⟩
  | field => exact ⟨⟨'\x7b', _, rfl, by decide⟩, ⟨'\x7b', _, rfl, by decide⟩⟩

theorem writtenCharacter_of_isDigit {character : Char} (digit : character.isDigit) :
    Json.writtenCharacter character = [character] := by
  have printed : ¬ character.toNat < 0x20 := by
    simp only [Char.isDigit, Bool.and_eq_true, decide_eq_true_eq, ge_iff_le,
      UInt32.le_iff_toNat_le] at digit
    change 48 ≤ character.toNat ∧ character.toNat ≤ 57 at digit
    omega
  unfold Json.writtenCharacter
  split
  case h_8 => exact if_neg printed
  all_goals cases digit

theorem readValue_spelling {amount : Msat} {text : String}
    (spelling : Amount.Spelling amount text) :
    readValue 1 ('"' :: (text.toList ++ ['"'])) = (.string text, some []) := by
  have plain : text.toList.flatMap Json.writtenCharacter = text.toList := by
    have unit : "msat".toList.all (fun letter => Json.writtenCharacter letter == [letter]) = true :=
      rfl
    have kept : ∀ character ∈ text.toList, Json.writtenCharacter character = [character] :=
      fun character member => (Amount.isDigit_or_mem_of_spelling spelling member).elim
        writtenCharacter_of_isDigit fun letter =>
          eq_of_beq (List.all_eq_true.mp unit character letter)
    rw [List.flatMap_congr kept, List.flatMap_singleton']
  have read := readValue_writtenString text
  rwa [Json.writtenString, plain] at read

theorem readsRespelled_amount {amount : Msat} {text : String}
    (spelling : Amount.Spelling amount text) {after : List Char} (stops : Stops after) :
    ReadsRespelled .amount (Text.digits amount.toNat ++ after)
      ('"' :: (text.toList ++ ['"']) ++ after) := by
  intro fuel other enough enoughOther
  obtain ⟨extra, rfl⟩ : ∃ extra, fuel = 1 + extra := Nat.exists_eq_add_of_le (by omega)
  obtain ⟨another, rfl⟩ : ∃ another, other = 1 + another := Nat.exists_eq_add_of_le (by omega)
  have number := readValue_digits amount.toNat_lt
  have string := readValue_spelling spelling
  refine ⟨_, _, after, ?_, ?_, .amount spelling⟩
  · exact ((readers_extend 1 extra).1 _ _ _ number).2 after fun _ => stops
  · exact ((readers_extend 1 another).1 _ _ _ string).2 after fun _ => stops

theorem Rewritten.reads {shape : Shape} {first second : List Char}
    (rewritten : Rewritten shape first second) : ReadsRespelled shape first second := by
  induction rewritten with
  | amount spelling stops => exact readsRespelled_amount spelling stops
  | @blank shape gap first second blank rewritten ih =>
      intro fuel other enough enoughOther
      rw [List.length_cons] at enough enoughOther
      have skipped (rest : List Char) : skipGap (gap :: rest) = skipGap rest :=
        List.dropWhile_cons_of_pos blank
      rw [← readValue_skipGap, ← readValue_skipGap other, skipped, skipped, readValue_skipGap,
        readValue_skipGap]
      exact ih fuel other (by omega) (by omega)
  | @item shape inner earlier first second values placed rewritten ih =>
      intro fuel other enough enoughOther
      rw [List.length_cons] at enough enoughOther
      obtain ⟨fuel, rfl⟩ : ∃ before, fuel = before + 1 := ⟨fuel - 1, by omega⟩
      obtain ⟨other, rfl⟩ : ∃ before, other = before + 1 := ⟨other - 1, by omega⟩
      have opened (fuel : Nat) (rest : List Char) :
          readValue (fuel + 1) ('[' :: rest) = enclosed ']' .array (readItems fuel) rest := by
        rw [readValue_succ]
        rfl
      obtain ⟨opens, opensOther⟩ := rewritten.opens
      obtain ⟨before, document, respelled, after, left, long, differ, read, readOther⟩ :=
        @Enters.enclosed_respelled _ _ _ _ _ enters_readItems readItems_skipGap settles_readItems
          earlier (fun part member => (values part member).leads) _ first second ih opens
          opensOther .array fuel other (by rw [List.nil_append]; omega)
          (by rw [List.nil_append]; omega)
      rw [← long] at placed
      refine ⟨.array (before ++ document :: after) left.isSome,
        .array (before ++ respelled :: after) left.isSome, left, ?_, ?_, .item placed differ⟩
      · rw [opened]
        exact read
      · rw [opened]
        exact readOther
  | @field shape inner earlier name key first second fields isKey named rewritten ih =>
      intro fuel other enough enoughOther
      rw [List.length_cons] at enough enoughOther
      obtain ⟨fuel, rfl⟩ : ∃ before, fuel = before + 1 := ⟨fuel - 1, by omega⟩
      obtain ⟨other, rfl⟩ : ∃ before, other = before + 1 := ⟨other - 1, by omega⟩
      have opened (fuel : Nat) (rest : List Char) : readValue (fuel + 1) ('\x7b' :: rest) =
          enclosed '\x7d' .object (openedFields fuel) rest := by
        rw [readValue_succ, enclosed_openedFields]
        rfl
      obtain ⟨before, document, respelled, after, left, long, differ, read, readOther⟩ :=
        @Enters.enclosed_respelled _ _ _ _ _ (enters_openedFields isKey) openedFields_skipGap
          settles_openedFields earlier (fun part member => (fields part member).leads) _ first
          second ih (isKey.opens.append first) (isKey.opens.append second) .object fuel other
          (by omega) (by omega)
      refine ⟨.object (before ++ (some key, document) :: after) left.isSome,
        .object (before ++ (some key, respelled) :: after) left.isSome, left, ?_, ?_,
        .field named differ⟩
      · rw [opened]
        exact read
      · rw [opened]
        exact readOther

theorem Rewritten.ofText {shape : Shape} {first second : String}
    (rewritten : Rewritten shape first.toList second.toList) :
    ∃ document respelled clean, Document.ofText first = (document, clean) ∧
      Document.ofText second = (respelled, clean) ∧
        (document = respelled ∨ Respelled shape document respelled) := by
  obtain ⟨document, respelled, left, read, readOther, differ⟩ :=
    rewritten.reads (2 * first.toList.length + 2) (2 * second.toList.length + 2) (by omega)
      (by omega)
  refine ⟨_, _, left.any fun rest => (skipGap rest).isEmpty, ?_, ?_, differ.limitDepth depthLimit⟩
  · rw [Document.ofText, read]
  · rw [Document.ofText, readOther]

end Document

theorem Codec.Indifferent.decodeText_eq {α : Type} {codec : Codec α} {shape : Shape}
    (indifferent : codec.Indifferent shape) {first second : String}
    (rewritten : Document.Rewritten shape first.toList second.toList) :
    codec.decodeText first = codec.decodeText second := by
  obtain ⟨document, respelled, clean, read, readOther, differ⟩ := rewritten.ofText
  have same : codec.read .text document = codec.read .text respelled := by
    rcases differ with rfl | differ
    · rfl
    · exact indifferent .text document respelled differ
  rw [decodeText, decodeText, read, readOther]
  dsimp only
  rw [same]

/-! ### Refusals of the command line client -/

namespace Document

/-- A character behind which a value may stand. -/
def precedesValue (character : Char) : Bool :=
  isGap character || character == '[' || character == ',' || character == ':'

/-- A value may stand behind these characters. -/
def LeadsTo (characters : List Char) : Prop :=
  ∀ last ∈ characters.getLast?, precedesValue last = true

theorem LeadsTo.append {first second : List Char} (leads : LeadsTo first)
    (leadsOn : LeadsTo second) : LeadsTo (first ++ second) := by
  intro last found
  rw [List.getLast?_append, Option.mem_def, Option.or_eq_some_iff] at found
  rcases found with found | ⟨-, found⟩
  · exact leadsOn last found
  · exact leads last found

theorem leadsTo_append_singleton (characters : List Char) {last : Char}
    (precedes : precedesValue last = true) : LeadsTo (characters ++ [last]) := by
  intro other found
  rw [List.getLast?_concat] at found
  obtain rfl := Option.some.inj found
  exact precedes

theorem leadsTo_separated (parts : List (List Char)) : LeadsTo (separated parts) := by
  induction parts with
  | nil => exact nofun
  | cons part parts ih =>
      rw [separated, List.flatMap_cons]
      exact (leadsTo_append_singleton part (by decide)).append ih

theorem IsKey.leadsTo {characters : List Char} {key : Option String}
    (isKey : IsKey characters key) (front : List Char) : LeadsTo (front ++ characters) := by
  obtain ⟨before, written, after, rfl, -⟩ := isKey
  have split : front ++ (before ++ '"' :: (written ++ (after ++ [':']))) =
      (front ++ before ++ '"' :: (written ++ after)) ++ [':'] := by simp
  rw [split]
  exact leadsTo_append_singleton _ (by decide)

/-- Rewriting changes an amount that stands where a value may stand, and nothing else. -/
theorem Rewritten.exists_parts {shape : Shape} {first second : List Char}
    (rewritten : Rewritten shape first second) :
    ∃ before after, ∃ (amount : Msat) (text : String), LeadsTo before ∧
      Amount.Spelling amount text ∧ first = before ++ (Text.digits amount.toNat ++ after) ∧
        second = before ++ '"' :: (text.toList ++ '"' :: after) := by
  induction rewritten with
  | @amount amount text after spelling stops =>
      exact ⟨[], after, amount, text, nofun, spelling, rfl, by simp⟩
  | @blank shape gap first second blank rewritten ih =>
      obtain ⟨before, after, amount, text, leads, spelling, rfl, rfl⟩ := ih
      have opens : LeadsTo [gap] := leadsTo_append_singleton [] (by simp [precedesValue, blank])
      exact ⟨[gap] ++ before, after, amount, text, opens.append leads, spelling, rfl, rfl⟩
  | @item shape inner earlier first second values placed rewritten ih =>
      obtain ⟨before, after, amount, text, leads, spelling, rfl, rfl⟩ := ih
      have opens : LeadsTo ['['] := leadsTo_append_singleton [] (by decide)
      exact ⟨['['] ++ separated earlier ++ before, after, amount, text,
        (opens.append (leadsTo_separated earlier)).append leads, spelling, by simp, by simp⟩
  | @field shape inner earlier name key first second fields isKey named rewritten ih =>
      obtain ⟨before, after, amount, text, leads, spelling, rfl, rfl⟩ := ih
      exact ⟨'\x7b' :: separated earlier ++ name ++ before, after, amount, text,
        (isKey.leadsTo _).append leads, spelling, by simp, by simp⟩

end Document

namespace Text

/-- A word that lies across no boundary lies on one side of it. -/
theorem infix_append_iff_of_not_across {word first second : List Char}
    (across : ∀ front back, word = front ++ back → front ≠ [] → back ≠ [] → front <:+ first →
      ¬ back <+: second) :
    word <:+: first ++ second ↔ word <:+: first ∨ word <:+: second := by
  constructor
  · intro inside
    rcases List.infix_append_iff.mp inside with left | right | ⟨front, back, split, ends, begins⟩
    · exact .inl left
    · exact .inr right
    · by_cases noFront : front = []
      · rw [noFront, List.nil_append] at split
        exact .inr (split ▸ begins.isInfix)
      · by_cases noBack : back = []
        · rw [noBack, List.append_nil] at split
          exact .inl (split ▸ ends.isInfix)
        · exact absurd begins (across front back split noFront noBack ends)
  · rintro (left | right)
    · exact left.trans (List.prefix_append first second).isInfix
    · exact right.trans (List.suffix_append first second).isInfix

/-- A word is not found where its first character does not stand. -/
theorem infix_append_iff_of_not_mem {head : Char} {tail first second : List Char}
    (absent : head ∉ first) : head :: tail <:+: first ++ second ↔ head :: tail <:+: second := by
  have outside : ¬ head :: tail <:+: first :=
    fun inside => absent (inside.subset List.mem_cons_self)
  rw [infix_append_iff_of_not_across, or_iff_right outside]
  intro front back split noFront _ ends
  obtain ⟨other, others, rfl⟩ := List.exists_cons_of_ne_nil noFront
  obtain ⟨rfl, -⟩ := List.cons.inj split
  exact absurd (ends.subset List.mem_cons_self) absent

/-- A word lies on one side of a character that it does not have. -/
theorem infix_append_cons_iff {word first second : List Char} {mark : Char} (nonempty : word ≠ [])
    (absent : mark ∉ word) :
    word <:+: first ++ mark :: second ↔ word <:+: first ∨ word <:+: second := by
  have notHere {part : List Char} (nonempty : part ≠ []) (absent : mark ∉ part) :
      ¬ part <+: mark :: second := by
    obtain ⟨head, tail, rfl⟩ := List.exists_cons_of_ne_nil nonempty
    intro begins
    obtain ⟨rfl, -⟩ := List.cons_prefix_cons.mp begins
    exact absent List.mem_cons_self
  rw [infix_append_iff_of_not_across, List.infix_cons_iff, or_iff_right (notHere nonempty absent)]
  rintro front back rfl _ noBack _
  exact notHere noBack fun member => absent (List.mem_append_right front member)

end Text

namespace Daemon.DecodedRequest

open Document (precedesValue LeadsTo Rewritten)

/-- The refusal does not reach from what stands in front of a value into a number. -/
theorem not_across_refusal {before digits front back : List Char} (leads : LeadsTo before)
    (begins : ∀ head ∈ digits.head?, head.isDigit) (split : refusal.toList = front ++ back)
    (noFront : front ≠ []) (noBack : back ≠ []) (ends : front <:+ before) : ¬ back <+: digits := by
  rintro ⟨rest, rfl⟩
  obtain ⟨start, rfl⟩ := ends
  obtain ⟨head, tail, rfl⟩ := List.exists_cons_of_ne_nil noBack
  obtain ⟨most, last, rfl⟩ := (List.eq_nil_or_concat' front).resolve_left noFront
  have apart : refusal.toList.IsChain
      fun first second => ¬ (precedesValue first = true ∧ second.isDigit = true) := by decide
  rw [split, List.append_assoc, List.singleton_append] at apart
  have precedes : precedesValue last = true := leads last (by simp)
  have digit : head.isDigit = true := begins head rfl
  exact (List.isChain_append_cons_cons.mp apart).2.1 ⟨precedes, digit⟩

theorem refusal_infix_iff {before after : List Char} {amount : Msat} {text : String}
    (leads : LeadsTo before) (spelling : Amount.Spelling amount text) :
    refusal.toList <:+: before ++ (Text.digits amount.toNat ++ after) ↔
      refusal.toList <:+: before ++ '"' :: (text.toList ++ '"' :: after) := by
  have noQuote : '"' ∉ refusal.toList := by decide
  have across := fun front back split noFront noBack ends =>
    @not_across_refusal before (Text.digits amount.toNat ++ after) front back leads (by
      obtain ⟨head, tail, written, digit⟩ := Text.exists_digits_cons amount.toNat
      rw [written]
      rintro _ ⟨⟩
      exact digit) split noFront noBack ends
  obtain ⟨tail, begins⟩ : ∃ tail, refusal.toList = 'I' :: tail := ⟨_, rfl⟩
  rw [begins] at noQuote across ⊢
  have noDigit : 'I' ∉ Text.digits amount.toNat := by
    intro member
    cases Text.isDigit_of_mem_digits member
  have noSpelling : 'I' ∉ text.toList := Amount.not_mem_spelling spelling rfl (by decide)
  have closed : 'I' :: tail <:+: '"' :: after ↔ 'I' :: tail <:+: after := by
    have sides := @Text.infix_append_cons_iff _ [] after '"' (List.cons_ne_nil _ _) noQuote
    simpa using sides
  calc
    'I' :: tail <:+: before ++ (Text.digits amount.toNat ++ after)
    _ ↔ 'I' :: tail <:+: before ∨ 'I' :: tail <:+: after := by
        rw [Text.infix_append_iff_of_not_across across, Text.infix_append_iff_of_not_mem noDigit]
    _ ↔ 'I' :: tail <:+: before ++ '"' :: (text.toList ++ '"' :: after) := by
        rw [Text.infix_append_cons_iff (List.cons_ne_nil _ _) noQuote,
          Text.infix_append_iff_of_not_mem noSpelling, closed]

/-- An amount is never a part of a refusal. -/
theorem contains_refusal_eq {shape : Shape} {first second : String}
    (rewritten : Rewritten shape first.toList second.toList) :
    Text.contains first refusal = Text.contains second refusal := by
  obtain ⟨before, after, amount, text, leads, spelling, written, rewrittenAs⟩ :=
    rewritten.exists_parts
  rw [Bool.eq_iff_iff, Text.contains_iff_infix, Text.contains_iff_infix, written, rewrittenAs]
  exact refusal_infix_iff leads spelling

end Daemon.DecodedRequest

end LightningGateway
