import LightningGateway.Amount
import LightningGateway.Json.Record

/-!
# Faithful codecs

A codec is faithful if it reads what it has written as the value that it was. Records whose
fields have faithful codecs and names of their own are faithful.
-/

namespace LightningGateway

variable {α β : Type}

theorem Document.ofJson_ne_null {value : Json} (present : value ≠ .null) :
    Document.ofJson value ≠ .null := by
  cases value with
  | null => exact absurd rfl present
  | _ =>
      rw [Document.ofJson]
      nofun

theorem Document.ofFields_eq_map (fields : List (String × Json)) :
    Document.ofFields fields = fields.map fun field => (some field.1, .ofJson field.2) := by
  induction fields with
  | nil => rfl
  | cons field fields ih => rw [ofFields, ih, List.map_cons]

namespace Codec

/-- What is written is read as the value that was written. -/
def Faithful (codec : Codec α) : Prop :=
  ∀ origin value, codec.read origin (.ofJson (codec.write value)) = .ok value

theorem Faithful.decode_write {codec : Codec α} (faithful : codec.Faithful) (value : α) :
    codec.decode (codec.write value) = .ok value :=
  faithful .value value

theorem faithful_text : text.Faithful := fun _ _ => rfl

theorem readNatural_ofNat {limit value : Nat} (expected : String) (small : value < limit) :
    readNatural limit expected (.ofJson (.ofNat value)) = .ok value := by
  rw [Json.ofNat, Document.ofJson, readNatural,
    if_pos ⟨Int.natCast_nonneg value, Int.ofNat_lt.mpr small⟩, Int.toNat_natCast]

theorem toNat_lt_word64 (value : UInt64) : value.toNat < Bound.word64 :=
  Nat.lt_of_lt_of_eq value.toNat_lt (by decide)

theorem read_word64 (origin : Origin) (document : Document) :
    word64.read origin document = (readNatural Bound.word64 "u64" document).map UInt64.ofNat :=
  rfl

theorem faithful_word64 : word64.Faithful := by
  intro origin value
  have read := readNatural_ofNat "u64" (toNat_lt_word64 value)
  rw [read_word64, show word64.write value = .ofNat value.toNat from rfl, read]
  exact congrArg Except.ok UInt64.ofNat_toNat

theorem read_word32 (origin : Origin) (document : Document) :
    word32.read origin document = (readNatural Bound.word32 "u32" document).map UInt32.ofNat :=
  rfl

theorem faithful_word32 : word32.Faithful := by
  intro origin value
  have small : value.toNat < Bound.word32 := Nat.lt_of_lt_of_eq value.toNat_lt (by decide)
  have read := readNatural_ofNat "u32" small
  rw [read_word32, show word32.write value = .ofNat value.toNat from rfl, read]
  exact congrArg Except.ok UInt32.ofNat_toNat

theorem read_optional {codec : Codec α} {origin : Origin} {document : Document}
    (present : document ≠ .null) :
    (Codec.optional codec).read origin document = (codec.read origin document).map some := by
  cases document with
  | null => exact absurd rfl present
  | _ => rfl

/-- An optional value can be told from its absence if no value is written as `null`. -/
theorem Faithful.optional {codec : Codec α} (faithful : codec.Faithful)
    (present : ∀ value, codec.write value ≠ .null) : (Codec.optional codec).Faithful := by
  intro origin value
  cases value with
  | none => rfl
  | some value =>
      have written := Document.ofJson_ne_null (present value)
      exact (read_optional written).trans (congrArg (Except.map some) (faithful origin value))

theorem readAll_ofItems {codec : Codec α} (faithful : codec.Faithful) (origin : Origin)
    (values : List α) :
    readAll codec origin (Document.ofItems (values.map codec.write)) = .ok values := by
  induction values with
  | nil => rfl
  | cons value rest ih =>
      rw [List.map_cons, Document.ofItems, readAll, faithful origin value]
      exact congrArg (Except.map (value :: ·)) ih

theorem Faithful.list {codec : Codec α} (faithful : codec.Faithful) :
    (Codec.list codec).Faithful := by
  intro origin values
  simp only [Codec.list, Document.ofJson, readAll_ofItems faithful origin values, if_true]

theorem faithful_enumeration {variants : List (String × α)} {nameOf : α → String}
    (named : ∀ value, variants.lookup (nameOf value) = some value) :
    (enumeration variants nameOf).Faithful := by
  intro origin value
  change variantNamed variants (nameOf value) = _
  rw [variantNamed, named]

end Codec

namespace Amount

theorem read_integer (value : Int) :
    Amount.read (.number (.integer value)) =
      if 0 ≤ value ∧ value < Bound.word64 then .ok (UInt64.ofNat value.toNat)
      else .error (.noAlternative "RawMsat") := by
  rw [Amount.read, Document.toJson?]

theorem read_written (amount : Msat) :
    Amount.read (.number (.integer amount.toNat)) = .ok amount := by
  have within : (0 : Int) ≤ amount.toNat ∧ (amount.toNat : Int) < Bound.word64 :=
    ⟨Int.natCast_nonneg _, Int.ofNat_lt.mpr (Codec.toNat_lt_word64 amount)⟩
  rw [read_integer, if_pos within, Int.toNat_natCast, UInt64.ofNat_toNat]

theorem codec_read (origin : Origin) (document : Document) :
    codec.read origin document = Amount.read document :=
  rfl

theorem faithful_codec : codec.Faithful := by
  intro origin amount
  rw [show codec.write amount = .number (.integer amount.toNat) from rfl, Document.ofJson,
    codec_read, read_written]

theorem anyCodec_read_number (origin : Origin) (value : JsonNumber) :
    anyCodec.read origin (.number value) = (Amount.read (.number value)).map some :=
  rfl

theorem faithful_anyCodec : anyCodec.Faithful := by
  intro origin value
  cases value with
  | none => rfl
  | some amount =>
      rw [show anyCodec.write (some amount) = .number (.integer amount.toNat) from rfl,
        Document.ofJson, anyCodec_read_number, read_written]
      rfl

end Amount

/-! ### Records -/

namespace Layout

variable {ρ σ : Type}

/-- The codecs of the fields are faithful, and no two fields have the same name. -/
def Faithful : {ρ σ : Type} → Layout ρ σ → Prop
  | _, _, .done => True
  | _, _, .field name codec _ rest => codec.Faithful ∧ name ∉ rest.names ∧ rest.Faithful

/-- A row in which no value is missing. -/
def filled : {ρ σ : Type} → Layout ρ σ → ρ → σ
  | _, _, .done, () => ()
  | _, _, .field _ _ _ rest, (value, row) => (some value, rest.filled row)

theorem finish_filled (layout : Layout ρ σ) (row : ρ) :
    layout.finish (layout.filled row) = .ok row := by
  induction layout with
  | done => rfl
  | field name codec fallback rest ih =>
      obtain ⟨value, row⟩ := row
      change (rest.finish (rest.filled row)).map (fun row => (value, row)) = _
      rw [ih, Except.map]

@[simp]
theorem names_done : done.names = [] := rfl

@[simp]
theorem names_required (name : String) (codec : Codec α) (rest : Layout ρ σ) :
    (required name codec rest).names = name :: rest.names :=
  rfl

@[simp]
theorem names_defaulted (name : String) (codec : Codec α) (value : α) (rest : Layout ρ σ) :
    (defaulted name codec value rest).names = name :: rest.names :=
  rfl

/-- The names under which a row is written are those of the fields. -/
theorem map_fst_write (layout : Layout ρ σ) (row : ρ) :
    (layout.write row).map Prod.fst = layout.names := by
  induction layout with
  | done => rfl
  | field name codec fallback rest ih =>
      obtain ⟨value, row⟩ := row
      exact congrArg (name :: ·) (ih row)

/-- A field is left alone by values that go under other names. -/
theorem fillAll_field {origin : Origin} {name : String} {codec : Codec α} {fallback : Option α}
    {rest : Layout ρ σ} {fields : List (Option String × Document)} {held : Option α}
    {slots full : σ} (others : some name ∉ fields.map Prod.fst)
    (filling : rest.fillAll origin fields slots = .ok full) :
    (Layout.field name codec fallback rest).fillAll origin fields (held, slots) =
      .ok (held, full) := by
  induction fields generalizing slots with
  | nil =>
      cases filling
      rfl
  | cons field fields ih =>
      obtain ⟨_ | key, content⟩ := field
      · cases filling
      rw [List.map_cons, List.mem_cons, not_or] at others
      obtain ⟨other, others⟩ := others
      have different : key ≠ name := fun same => other (congrArg some same.symm)
      rw [fillAll] at filling
      simp only [fillAll, fill, if_neg different]
      cases placed : rest.fill origin key content slots with
      | error error =>
          rw [placed] at filling
          cases filling
      | ok next =>
          rw [placed] at filling
          exact ih others filling

/-- Written fields fill all slots. -/
theorem Faithful.fillAll_write {layout : Layout ρ σ} (faithful : layout.Faithful)
    (origin : Origin) (row : ρ) :
    layout.fillAll origin (Document.ofFields (layout.write row)) layout.noSlots =
      .ok (layout.filled row) := by
  induction layout with
  | done => rfl
  | field name codec fallback rest ih =>
      obtain ⟨value, row⟩ := row
      obtain ⟨readable, fresh, faithful⟩ := faithful
      have others : some name ∉ (Document.ofFields (rest.write row)).map Prod.fst := by
        rw [← map_fst_write rest row] at fresh
        simpa [Document.ofFields_eq_map] using fresh
      simp only [write, noSlots, Document.ofFields, fillAll, fill, if_pos, readable origin value]
      exact fillAll_field others (ih faithful row)

end Layout

/-- A record is faithful if it can be restored from its row and its layout is faithful. -/
theorem Codec.faithful_record {ρ σ : Type} {typeName : String} {layout : Layout ρ σ}
    {ofRow : ρ → α} {toRow : α → ρ} (faithful : layout.Faithful)
    (restored : ∀ value, ofRow (toRow value) = value) :
    (Codec.record typeName layout ofRow toRow).Faithful := by
  intro origin value
  change (layout.read typeName origin
    (.object (Document.ofFields (layout.write (toRow value))) true)).map ofRow = _
  rw [Layout.read, faithful.fillAll_write origin (toRow value)]
  change ((layout.finish (layout.filled (toRow value))).map ofRow) = _
  rw [Layout.finish_filled, Except.map, restored]

end LightningGateway
