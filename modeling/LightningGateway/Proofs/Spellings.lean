import LightningGateway.Proofs.Texts

/-!
# Spellings of amounts

A daemon may report an amount as a number or as a text, without a unit or in millisatoshis or
satoshis. The shape of a reply tells where amounts stand in it. A codec is indifferent to a shape
if documents that differ only in how an amount is written there are read alike, faults included.
-/

namespace LightningGateway

/-! ### Amounts as texts -/

namespace Text

/-- The numeral of a word is read as the word. -/
theorem word64?_digits {value : Nat} (small : value < Bound.word64) :
    word64? (digits value) = some (UInt64.ofNat value) := by
  obtain ⟨head, tail, written, digit⟩ := exists_digits_cons value
  have read := digitsValue?_digits value
  have unsigned : head ≠ '+' := by
    rintro rfl
    cases digit
  rw [written] at read ⊢
  simp [word64?, boundedValue?, naturalValue?, unsigned, read, small]

theorem trimmed_of_solid {characters : List Char}
    (solid : ∀ character ∈ characters, isBlank character = false) :
    trimmed characters = characters := by
  have kept {characters : List Char} (solid : ∀ character ∈ characters, isBlank character = false) :
      characters.dropWhile isBlank = characters := by
    cases characters with
    | nil => rfl
    | cons head tail => exact List.dropWhile_cons_of_neg (by simp [solid head])
  rw [trimmed, trimEnd, kept solid, kept (by simpa using solid), List.reverse_reverse]

theorem isBlank_of_isDigit {character : Char} (digit : character.isDigit) :
    isBlank character = false := by
  have between := between_of_isDigit digit
  simp only [isBlank, Bool.or_eq_false_iff, Bool.and_eq_false_iff, decide_eq_false_iff_not,
    beq_eq_false_iff_ne]
  omega

theorem withoutEnding_append (characters ending : List Char) :
    withoutEnding ending (characters ++ ending) = some characters := by
  have ends := List.isSuffixOf_iff_suffix.mpr (List.suffix_append characters ending)
  rw [withoutEnding, if_pos ends]
  simp

theorem withoutEnding_of_not_suffix {ending characters : List Char}
    (other : ¬ ending <:+ characters) : withoutEnding ending characters = none := by
  rw [withoutEnding, if_neg]
  rwa [List.isSuffixOf_iff_suffix]

/-- Characters without a letter do not end with it, whatever comes after both. -/
theorem not_suffix_append {letter : Char} {characters : List Char} (absent : letter ∉ characters)
    (ending : List Char) : ¬ letter :: ending <:+ characters ++ ending := by
  rintro ⟨before, whole⟩
  have last : before ++ [letter] = characters := by
    rw [← List.append_cancel_right_eq _ ending, List.append_assoc]
    exact whole
  rw [← last] at absent
  exact absent (List.mem_append_right _ (List.mem_singleton_self letter))

theorem not_mem_digits {letter : Char} (notDigit : letter.isDigit = false) (value : Nat) :
    letter ∉ digits value := by
  intro member
  have digit := isDigit_of_mem_digits member
  rw [notDigit] at digit
  cases digit

end Text

namespace Amount

/-- The texts by which a daemon may report an amount. -/
inductive Spelling (amount : Msat) : String → Prop where
  | plain : Spelling amount (Text.numeral amount.toNat)
  | msat : Spelling amount (Text.numeral amount.toNat ++ "msat")
  | sat {sat : Nat} (whole : amount.toNat = sat * msatPerSat) :
      Spelling amount (Text.numeral sat ++ "sat")

/-- The digits of an amount and its unit are not blank. -/
theorem trimmed_digits_append {unit : String}
    (solid : unit.toList.all (!Text.isBlank ·) = true) (value : Nat) :
    Text.trimmed (Text.numeral value ++ unit).toList = Text.digits value ++ unit.toList := by
  rw [String.toList_append, Text.numeral, String.toList_ofList]
  apply Text.trimmed_of_solid
  intro character member
  rcases List.mem_append.mp member with digit | letter
  · exact Text.isBlank_of_isDigit (Text.isDigit_of_mem_digits digit)
  · have kept := List.all_eq_true.mp solid character letter
    rwa [Bool.not_eq_true'] at kept

/-- A spelling is read as the amount that it spells. -/
theorem parse_of_spelling {amount : Msat} {text : String} (spelling : Spelling amount text) :
    parse text = .ok amount := by
  have number := Text.word64?_digits amount.toNat_lt
  rw [UInt64.ofNat_toNat] at number
  cases spelling with
  | plain =>
      have trimmed := @trimmed_digits_append "" rfl amount.toNat
      have noLetter (ending : List Char) : ¬ ending ++ ['t'] <:+ Text.digits amount.toNat := by
        intro ends
        apply Text.not_suffix_append (@Text.not_mem_digits 't' rfl amount.toNat) []
        rw [List.append_nil]
        exact (List.suffix_append ending ['t']).trans ends
      have noMsat := Text.withoutEnding_of_not_suffix (noLetter "msa".toList)
      have noSat := Text.withoutEnding_of_not_suffix (noLetter "sa".toList)
      rw [String.append_empty, String.toList_empty, List.append_nil] at trimmed
      change Text.withoutEnding "msat".toList _ = none at noMsat
      change Text.withoutEnding "sat".toList _ = none at noSat
      simp only [parse, trimmed, noMsat, noSat, number]
  | msat =>
      have trimmed := @trimmed_digits_append "msat" rfl amount.toNat
      have unit := Text.withoutEnding_append (Text.digits amount.toNat) "msat".toList
      simp only [parse, trimmed, unit, number]
  | @sat sat whole =>
      have trimmed := @trimmed_digits_append "sat" rfl sat
      have noMsat := Text.withoutEnding_of_not_suffix
        (Text.not_suffix_append (@Text.not_mem_digits 'm' rfl sat) "sat".toList)
      have unit := Text.withoutEnding_append (Text.digits sat) "sat".toList
      have small : sat * msatPerSat < Bound.word64 := whole ▸ amount.toNat_lt
      have smaller : sat < Bound.word64 :=
        (Nat.le_mul_of_pos_right sat (by decide)).trans_lt small
      have number := Text.word64?_digits smaller
      have kept : (UInt64.ofNat sat).toNat = sat := UInt64.toNat_ofNat_of_lt' smaller
      change Text.withoutEnding "msat".toList _ = none at noMsat
      simp only [parse, trimmed, noMsat, unit, number, ofSat, kept, if_pos small]
      rw [← whole, UInt64.ofNat_toNat]

/-- A spelling consists of digits and the letters of its unit. -/
theorem isDigit_or_mem_of_spelling {amount : Msat} {text : String}
    (spelling : Spelling amount text) {character : Char} (member : character ∈ text.toList) :
    character.isDigit ∨ character ∈ "msat".toList := by
  have written {value : Nat} {unit : String}
      (member : character ∈ (Text.numeral value ++ unit).toList) :
      character.isDigit ∨ character ∈ unit.toList := by
    rw [String.toList_append, Text.numeral, String.toList_ofList] at member
    exact (List.mem_append.mp member).imp_left Text.isDigit_of_mem_digits
  cases spelling with
  | plain =>
      rw [← @String.append_empty (Text.numeral amount.toNat)] at member
      exact (written member).imp_right fun never => absurd never List.not_mem_nil
  | msat => exact written member
  | sat whole => exact (written member).imp_right fun letter => .tail _ letter

theorem not_mem_spelling {amount : Msat} {text : String} (spelling : Spelling amount text)
    {other : Char} (noDigit : other.isDigit = false) (noLetter : other ∉ "msat".toList) :
    other ∉ text.toList := by
  intro member
  rcases isDigit_or_mem_of_spelling spelling member with digit | letter
  · rw [noDigit] at digit
    cases digit
  · exact noLetter letter

/-- The text for no amount at all is not a spelling. -/
theorem ne_any_of_spelling {amount : Msat} {text : String} (spelling : Spelling amount text) :
    text ≠ "any" := by
  rintro rfl
  have read := parse_of_spelling spelling
  cases read

theorem read_of_spelling {amount : Msat} {text : String} (spelling : Spelling amount text) :
    read (.string text) = .ok amount := by
  rw [read, Document.toJson?]
  dsimp only
  rw [parse_of_spelling spelling]

end Amount

/-! ### Where amounts stand -/

/-- Where amounts stand in a document. -/
inductive Shape where
  /-- There are none. -/
  | plain
  | amount
  | list (item : Shape)
  /-- The fields are in the order of their declaration. -/
  | record (fields : List (String × Shape))

namespace Shape

/-- The shape of the item at a position. -/
def item : Shape → Nat → Option Shape
  | list shape, _ => some shape
  | record fields, position => fields[position]?.map Prod.snd
  | plain, _ | amount, _ => none

/-- The shape of the value of a key. -/
def member : Shape → String → Option Shape
  | record fields, key => fields.lookup key
  | plain, _ | amount, _ | list _, _ => none

/-- The shape of a field, if only some fields are marked. -/
def marking (marked : List (String × Shape)) (name : String) : Shape :=
  (marked.lookup name).getD .plain

@[simp]
theorem marking_nil (name : String) : marking [] name = .plain := rfl

@[simp]
theorem marking_cons (other : String) (shape : Shape) (marked : List (String × Shape))
    (name : String) :
    marking ((other, shape) :: marked) name =
      if name = other then shape else marking marked name := by
  unfold marking
  by_cases same : name = other
  · rw [if_pos same, List.lookup_cons, beq_iff_eq.mpr same]
    rfl
  · rw [if_neg same, List.lookup_cons, beq_eq_false_iff_ne.mpr same]

end Shape

namespace Document

/-- One amount is given as a text instead of a number. -/
inductive Respelled : Shape → Document → Document → Prop where
  | amount {amount : Msat} {text : String} (spelling : Amount.Spelling amount text) :
      Respelled .amount (.number (.integer amount.toNat)) (.string text)
  | item {shape inner : Shape} {before after : List Document} {first second : Document}
      {complete : Bool} (placed : shape.item before.length = some inner)
      (respelled : Respelled inner first second) :
      Respelled shape (.array (before ++ first :: after) complete)
        (.array (before ++ second :: after) complete)
  | field {shape inner : Shape} {before after : List (Option String × Document)} {key : String}
      {first second : Document} {complete : Bool} (named : shape.member key = some inner)
      (respelled : Respelled inner first second) :
      Respelled shape (.object (before ++ (some key, first) :: after) complete)
        (.object (before ++ (some key, second) :: after) complete)

theorem allSkippable_append (first second : List Document) :
    allSkippable (first ++ second) = (allSkippable first && allSkippable second) := by
  induction first with
  | nil => rfl
  | cons head tail ih => simp [allSkippable, ih, Bool.and_assoc]

theorem allFieldsSkippable_append (first second : List (Option String × Document)) :
    allFieldsSkippable (first ++ second) =
      (allFieldsSkippable first && allFieldsSkippable second) := by
  induction first with
  | nil => rfl
  | cons head tail ih => simp [allFieldsSkippable, ih, Bool.and_assoc]

theorem Respelled.isSkippable_eq {shape : Shape} {first second : Document}
    (respelled : Respelled shape first second) : first.isSkippable = second.isSkippable := by
  induction respelled with
  | amount => rfl
  | item placed respelled ih => simp only [isSkippable, allSkippable_append, allSkippable, ih]
  | field named respelled ih =>
      simp only [isSkippable, allFieldsSkippable_append, allFieldsSkippable, ih]

theorem limitItems_eq_map (depth : Nat) (items : List Document) :
    limitItems depth items = items.map (limitDepth depth) := by
  induction items with
  | nil => rfl
  | cons item rest ih => rw [limitItems, ih, List.map_cons]

theorem limitFields_eq_map (depth : Nat) (fields : List (Option String × Document)) :
    limitFields depth fields =
      fields.map fun (key, value) => (key, limitDepth depth value) := by
  induction fields with
  | nil => rfl
  | cons field rest ih => rw [limitFields, ih, List.map_cons]

/-- What is nested too deep is cut off, together with the amount if it stands there. -/
theorem Respelled.limitDepth {shape : Shape} {first second : Document}
    (respelled : Respelled shape first second) (depth : Nat) :
    first.limitDepth depth = second.limitDepth depth ∨
      Respelled shape (first.limitDepth depth) (second.limitDepth depth) := by
  induction respelled generalizing depth with
  | amount spelling =>
      right
      cases depth <;> exact .amount spelling
  | @item shape inner before after first second complete placed respelled ih =>
      cases depth with
      | zero =>
          left
          have same := (@Respelled.item shape inner before after first second complete placed
            respelled).isSkippable_eq
          rw [Document.limitDepth, Document.limitDepth, same]
      | succ depth =>
          simp only [Document.limitDepth, limitItems_eq_map, List.map_append, List.map_cons]
          rcases ih depth with same | respelled
          · left
            rw [same]
          · right
            exact .item (by rwa [List.length_map]) respelled
  | @field shape inner before after key first second complete named respelled ih =>
      cases depth with
      | zero =>
          left
          have same := (@Respelled.field shape inner before after key first second complete named
            respelled).isSkippable_eq
          rw [Document.limitDepth, Document.limitDepth, same]
      | succ depth =>
          simp only [Document.limitDepth, limitFields_eq_map, List.map_append, List.map_cons]
          rcases ih depth with same | respelled
          · left
            rw [same]
          · right
            exact .field named respelled

end Document

/-! ### Codecs that do not tell spellings apart -/

open Document (Respelled)

variable {α : Type}

namespace Codec

/-- A codec reads all spellings of an amount alike, faults elsewhere included. -/
def Indifferent (codec : Codec α) (shape : Shape) : Prop :=
  ∀ origin first second, Respelled shape first second →
    codec.read origin first = codec.read origin second

@[simp]
theorem indifferent_plain (codec : Codec α) : codec.Indifferent .plain := by
  intro origin first second respelled
  cases respelled with
  | item placed => cases placed
  | field named => cases named

theorem readAll_respelled {codec : Codec α} {origin : Origin} {first second : Document}
    (same : codec.read origin first = codec.read origin second) (before after : List Document) :
    readAll codec origin (before ++ first :: after) =
      readAll codec origin (before ++ second :: after) := by
  induction before with
  | nil => rw [List.nil_append, List.nil_append, readAll, readAll, same]
  | cons head tail ih => rw [List.cons_append, List.cons_append, readAll, readAll, ih]

theorem Indifferent.list {codec : Codec α} {shape : Shape} (indifferent : codec.Indifferent shape) :
    (Codec.list codec).Indifferent (.list shape) := by
  intro origin first second respelled
  cases respelled with
  | @item _ inner before after first second complete placed respelled =>
      obtain rfl : shape = inner := Option.some.inj placed
      have same := indifferent origin first second respelled
      simp only [Codec.list, readAll_respelled same]
  | field named => cases named

end Codec

namespace Amount

@[simp]
theorem indifferent_codec : codec.Indifferent .amount := by
  intro origin first second respelled
  cases respelled with
  | amount spelling =>
      rw [codec_read, codec_read, read_written, read_of_spelling spelling]
  | item placed => cases placed
  | field named => cases named

theorem anyCodec_read_string (origin : Origin) {text : String} (given : text ≠ "any") :
    anyCodec.read origin (.string text) = (read (.string text)).map some := by
  unfold anyCodec
  dsimp only
  split
  · next same => cases same
  · next same =>
      cases same
      exact absurd rfl given
  · rfl

@[simp]
theorem indifferent_anyCodec : anyCodec.Indifferent .amount := by
  intro origin first second respelled
  cases respelled with
  | amount spelling =>
      rw [anyCodec_read_number, anyCodec_read_string origin (ne_any_of_spelling spelling),
        read_written, read_of_spelling spelling]
  | item placed => cases placed
  | field named => cases named

end Amount

namespace Layout

variable {ρ σ : Type}

/-- The codec of every field is indifferent to what the field is marked as. -/
def Indifferent (marked : List (String × Shape)) : {ρ σ : Type} → Layout ρ σ → Prop
  | _, _, .done => True
  | _, _, .field name codec _ rest =>
      codec.Indifferent (.marking marked name) ∧ rest.Indifferent marked

@[simp]
theorem indifferent_done (marked : List (String × Shape)) : Layout.done.Indifferent marked :=
  trivial

@[simp]
theorem indifferent_required {marked : List (String × Shape)} {name : String} {codec : Codec α}
    {rest : Layout ρ σ} :
    (Layout.required name codec rest).Indifferent marked ↔
      codec.Indifferent (.marking marked name) ∧ rest.Indifferent marked :=
  Iff.rfl

@[simp]
theorem indifferent_defaulted {marked : List (String × Shape)} {name : String} {codec : Codec α}
    {value : α} {rest : Layout ρ σ} :
    (Layout.defaulted name codec value rest).Indifferent marked ↔
      codec.Indifferent (.marking marked name) ∧ rest.Indifferent marked :=
  Iff.rfl

/-- The shape of a record some of whose fields are marked. -/
def shape (marked : List (String × Shape)) (layout : Layout ρ σ) : Shape :=
  .record (layout.names.map fun name => (name, .marking marked name))

theorem marking_of_member {marked : List (String × Shape)} {layout : Layout ρ σ} {key : String}
    {inner : Shape} (named : (layout.shape marked).member key = some inner) :
    Shape.marking marked key = inner := by
  have found {names : List String}
      (named : (names.map fun name => (name, Shape.marking marked name)).lookup key = some inner) :
      Shape.marking marked key = inner := by
    induction names with
    | nil => cases named
    | cons name rest ih =>
        rw [List.map_cons, List.lookup_cons] at named
        split at named
        · next same =>
            rw [eq_of_beq same]
            exact Option.some.inj named
        · exact ih named
  exact found named

theorem fill_respelled {marked : List (String × Shape)} {layout : Layout ρ σ}
    (indifferent : layout.Indifferent marked) (origin : Origin) {key : String}
    {first second : Document} (respelled : Respelled (.marking marked key) first second)
    (slots : σ) : layout.fill origin key first slots = layout.fill origin key second slots := by
  induction layout with
  | done => rw [fill, fill, respelled.isSkippable_eq]
  | field name codec fallback rest ih =>
      obtain ⟨held, others⟩ := slots
      obtain ⟨readsAlike, indifferent⟩ := indifferent
      simp only [fill]
      by_cases same : key = name
      · subst same
        rw [readsAlike origin first second respelled, if_pos rfl, if_pos rfl]
      · rw [if_neg same, if_neg same, ih indifferent]

theorem fillAll_respelled {origin : Origin} {layout : Layout ρ σ} {key : String}
    {first second : Document}
    (same : ∀ slots, layout.fill origin key first slots = layout.fill origin key second slots)
    (before after : List (Option String × Document)) (slots : σ) :
    layout.fillAll origin (before ++ (some key, first) :: after) slots =
      layout.fillAll origin (before ++ (some key, second) :: after) slots := by
  induction before generalizing slots with
  | nil => rw [List.nil_append, List.nil_append, fillAll, fillAll, same]
  | cons head tail ih =>
      obtain ⟨_ | name, document⟩ := head
      · rfl
      · simp only [List.cons_append, fillAll, ih]

theorem readPositions_respelled {marked : List (String × Shape)} {layout : Layout ρ σ}
    (indifferent : layout.Indifferent marked) (origin : Origin) (complete : Bool)
    (expected : String) {inner : Shape} {before : List Document}
    (placed : (layout.shape marked).item before.length = some inner) {first second : Document}
    (respelled : Respelled inner first second) (after : List Document) (position : Nat) :
    layout.readPositions origin complete expected position (before ++ first :: after) =
      layout.readPositions origin complete expected position (before ++ second :: after) := by
  induction layout generalizing before position with
  | done => cases placed
  | field name codec fallback rest ih =>
      obtain ⟨readsAlike, indifferent⟩ := indifferent
      cases before with
      | nil =>
          obtain rfl : Shape.marking marked name = inner := Option.some.inj placed
          have same := readsAlike origin first second respelled
          rw [List.nil_append, List.nil_append, readPositions, readPositions, same]
      | cons head tail =>
          have later := ih indifferent placed (position + 1)
          rw [List.cons_append, List.cons_append, readPositions, readPositions, later]

end Layout

/-- Records may come as objects or as arrays. -/
theorem Codec.indifferent_record {ρ σ : Type} {typeName : String} {layout : Layout ρ σ}
    {ofRow : ρ → α} {toRow : α → ρ} {marked : List (String × Shape)}
    (indifferent : layout.Indifferent marked) :
    (Codec.record typeName layout ofRow toRow).Indifferent (layout.shape marked) := by
  intro origin first second respelled
  change (layout.read typeName origin first).map ofRow =
    (layout.read typeName origin second).map ofRow
  cases respelled with
  | @item _ inner before after first second complete placed respelled =>
      have same := Layout.readPositions_respelled indifferent origin complete
        (Layout.expectation typeName layout.length) placed respelled after 0
      have long : (before ++ first :: after).length = (before ++ second :: after).length := by
        rw [List.length_append, List.length_append, List.length_cons, List.length_cons]
      simp only [Layout.read, same, long]
  | @field _ inner before after key first second complete named respelled =>
      rw [← Layout.marking_of_member named] at respelled
      have same := Layout.fillAll_respelled
        (Layout.fill_respelled indifferent origin respelled) before after
      simp only [Layout.read, same]

end LightningGateway
