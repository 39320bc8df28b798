import LightningGateway.Proofs.Codecs
import LightningGateway.Proofs.Sorting

/-!
# Records in any form

A record is read from an object by its names alone: the order of the fields, fields that the record
does not know, and fields that are left out although something stands in for them make no
difference. From an array it is read by position.
-/

namespace LightningGateway

/-! ### Parts that are passed over -/

namespace Document

mutual

theorem isSkippable_ofJson (value : Json) : (ofJson value).isSkippable = true := by
  match value with
  | .null | .bool _ | .number _ | .string _ => simp only [ofJson, isSkippable]
  | .array items => simp [ofJson, isSkippable, allSkippable_ofItems items]
  | .object fields => simp [ofJson, isSkippable, allFieldsSkippable_ofFields fields]

theorem allSkippable_ofItems (items : List Json) : allSkippable (ofItems items) = true := by
  match items with
  | [] => rfl
  | item :: rest =>
      simp [ofItems, allSkippable, isSkippable_ofJson item, allSkippable_ofItems rest]

theorem allFieldsSkippable_ofFields (fields : List (String × Json)) :
    allFieldsSkippable (ofFields fields) = true := by
  match fields with
  | [] => rfl
  | (key, value) :: rest =>
      simp [ofFields, allFieldsSkippable, isSkippable_ofJson value,
        allFieldsSkippable_ofFields rest]

end

/-- Fields of which any record can be read that knows some of them: all have keys, no key comes
twice, and each can be passed over. -/
structure SoundFields (fields : List (Option String × Document)) : Prop where
  named : ∀ field ∈ fields, field.1.isSome
  distinct : (fields.map Prod.fst).Nodup
  skippable : ∀ field ∈ fields, field.2.isSkippable

theorem SoundFields.of_cons {field : Option String × Document}
    {fields : List (Option String × Document)} (sound : SoundFields (field :: fields)) :
    field.1 ∉ fields.map Prod.fst ∧ field.2.isSkippable ∧ SoundFields fields := by
  obtain ⟨named, distinct, skippable⟩ := sound
  obtain ⟨fresh, distinct⟩ := List.nodup_cons.mp distinct
  exact ⟨fresh, skippable _ (.head _), fun field member => named field (.tail _ member), distinct,
    fun field member => skippable field (.tail _ member)⟩

section Keyed

variable {β : Type} {view : β → Document} {entries : List (String × β)}

theorem lookup_keyed (name : String) :
    (entries.map fun entry => (some entry.1, view entry.2)).lookup (some name) =
      (entries.lookup name).map view := by
  induction entries with
  | nil => rfl
  | cons entry entries ih =>
      rw [List.map_cons]
      by_cases same : name = entry.1
      · subst same
        rw [List.lookup_cons_self, List.lookup_cons_self, Option.map_some]
      · have passed : (some name == some entry.1) = false := by simpa using same
        rw [List.lookup_cons, passed, List.lookup_cons, beq_false_of_ne same, ih]

theorem soundFields_keyed (distinct : (entries.map Prod.fst).Nodup)
    (skippable : ∀ entry ∈ entries, (view entry.2).isSkippable) :
    SoundFields (entries.map fun entry => (some entry.1, view entry.2)) where
  named := List.forall_mem_map.mpr fun _ _ => rfl
  distinct := by
    rw [List.map_map]
    exact List.pairwise_map.mpr ((List.pairwise_map.mp distinct).imp
      fun different same => different (Option.some.inj same))
  skippable := List.forall_mem_map.mpr skippable

end Keyed

end Document

namespace Layout

variable {α ρ σ : Type}

/-- No two fields have the same name. -/
def Distinct {ρ σ : Type} (layout : Layout ρ σ) : Prop := layout.names.Nodup

instance (layout : Layout ρ σ) : Decidable layout.Distinct :=
  inferInstanceAs (Decidable layout.names.Nodup)

theorem fill_of_unknown {origin : Origin} {key : String} {content : Document}
    (skippable : content.isSkippable) (layout : Layout ρ σ) (unknown : key ∉ layout.names)
    (slots : σ) : layout.fill origin key content slots = .ok slots := by
  induction layout with
  | done => simp [fill, skippable]
  | field name codec fallback rest ih =>
      obtain ⟨held, others⟩ := slots
      rw [names, List.mem_cons, not_or] at unknown
      obtain ⟨other, unknown⟩ := unknown
      simp only [fill, if_neg other, ih unknown others]

/-! ### Objects -/

/-- A row holds the values of the fields: what is read from the field of each name, or what stands
in for it if there is no such field. -/
def Holds (origin : Origin) (fields : List (String × Json)) :
    {ρ σ : Type} → Layout ρ σ → ρ → Prop
  | _, _, .done, () => True
  | _, _, .field name codec fallback rest, (value, row) =>
      (match fields.lookup name with
        | some content => codec.read origin (.ofJson content) = .ok value
        | none => (fallback <|> codec.absent) = some value) ∧ rest.Holds origin fields row

/-- The value of one field: what is read from the field of its name, or what stands in for it. -/
def ProvidesField (origin : Origin) (fields : List (Option String × Document)) (name : String)
    (codec : Codec α) (fallback : Option α) (value : α) : Prop :=
  match fields.lookup (some name) with
  | some content => codec.read origin content = .ok value
  | none => (fallback <|> codec.absent) = some value

/-- Like `Holds`, for fields as a reader finds them. -/
def Provides (origin : Origin) (fields : List (Option String × Document)) :
    {ρ σ : Type} → Layout ρ σ → ρ → Prop
  | _, _, .done, () => True
  | _, _, .field name codec fallback rest, (value, row) =>
      ProvidesField origin fields name codec fallback value ∧ rest.Provides origin fields row

theorem fillAll_of_lookup {origin : Origin} {name : String} {codec : Codec α}
    {fallback : Option α} {rest : Layout ρ σ} (fresh : name ∉ rest.names)
    {fields : List (Option String × Document)} (sound : Document.SoundFields fields)
    {slots full : σ} (filling : rest.fillAll origin fields slots = .ok full) {held : Option α}
    (found : match fields.lookup (some name) with
      | some content => ∃ value, codec.read origin content = .ok value ∧ held = some value
      | none => held = none) :
    (Layout.field name codec fallback rest).fillAll origin fields (none, slots) =
      .ok (held, full) := by
  induction fields generalizing slots with
  | nil =>
      cases filling
      cases found
      rfl
  | cons field fields ih =>
      obtain ⟨_ | key, content⟩ := field
      · cases filling
      obtain ⟨others, skippable, sound⟩ := sound.of_cons
      by_cases same : key = name
      · subst same
        rw [List.lookup_cons_self] at found
        obtain ⟨value, read, rfl⟩ := found
        rw [fillAll, fill_of_unknown skippable rest fresh] at filling
        simp only [fillAll, fill, if_pos, read]
        exact fillAll_field others filling
      · have passed : (some name == some key) = false := by simpa using Ne.symm same
        rw [List.lookup_cons, passed] at found
        rw [fillAll] at filling
        simp only [fillAll, fill, if_neg same]
        cases placed : rest.fill origin key content slots with
        | error error =>
            rw [placed] at filling
            cases filling
        | ok next =>
            rw [placed] at filling
            exact ih sound filling found

theorem fillAll_done {origin : Origin} {fields : List (Option String × Document)}
    (sound : Document.SoundFields fields) : done.fillAll origin fields () = .ok () := by
  induction fields with
  | nil => rfl
  | cons field fields ih =>
      obtain ⟨_ | key, content⟩ := field
      · exact absurd (sound.named (none, content) (.head _)) Bool.false_ne_true
      obtain ⟨-, skippable, sound⟩ := sound.of_cons
      rw [fillAll, fill_of_unknown skippable .done List.not_mem_nil]
      exact ih sound

theorem Provides.fillAll {origin : Origin} {fields : List (Option String × Document)}
    {layout : Layout ρ σ} {row : ρ} (provides : layout.Provides origin fields row)
    (different : layout.Distinct) (sound : Document.SoundFields fields) :
    ∃ slots, layout.fillAll origin fields layout.noSlots = .ok slots ∧
      layout.finish slots = .ok row := by
  induction layout with
  | done => exact ⟨(), fillAll_done sound, rfl⟩
  | field name codec fallback rest ih =>
      obtain ⟨value, row⟩ := row
      obtain ⟨here, later⟩ := provides
      obtain ⟨fresh, different⟩ := List.nodup_cons.mp different
      obtain ⟨slots, filling, finished⟩ := ih later different
      rw [ProvidesField] at here
      cases found : fields.lookup (some name) with
      | none =>
          rw [found] at here
          refine ⟨(none, slots), fillAll_of_lookup fresh sound filling (by rw [found]), ?_⟩
          have stands : (none <|> fallback <|> codec.absent) = some value := here
          simp only [finish, stands, finished, Except.map]
      | some content =>
          rw [found] at here
          have lookup : ∃ read, codec.read origin content = .ok read ∧ some value = some read :=
            ⟨value, here, rfl⟩
          refine ⟨(some value, slots), fillAll_of_lookup fresh sound filling (by rwa [found]), ?_⟩
          have stands : (some value <|> fallback <|> codec.absent) = some value := rfl
          simp only [finish, stands, finished, Except.map]

/-- An object is read as the row that its fields provide. -/
theorem Provides.read_object {origin : Origin} {fields : List (Option String × Document)}
    {layout : Layout ρ σ} {row : ρ} (provides : layout.Provides origin fields row)
    (different : layout.Distinct) (sound : Document.SoundFields fields) (typeName : String) :
    layout.read typeName origin (.object fields true) = .ok row := by
  obtain ⟨slots, filling, finished⟩ := provides.fillAll different sound
  simp only [read, filling, if_true, finished]

theorem Holds.provides {origin : Origin} {fields : List (String × Json)} {layout : Layout ρ σ}
    {row : ρ} (holds : layout.Holds origin fields row) :
    layout.Provides origin (Document.ofFields fields) row := by
  induction layout with
  | done => trivial
  | field name codec fallback rest ih =>
      obtain ⟨value, row⟩ := row
      obtain ⟨here, later⟩ := holds
      refine ⟨?_, ih later⟩
      rw [ProvidesField, Document.ofFields_eq_map, Document.lookup_keyed]
      cases found : fields.lookup name <;> rwa [found] at here

/-- An object without repeated keys is read as the row that holds its values. -/
theorem Holds.read_object {origin : Origin} {fields : List (String × Json)} {layout : Layout ρ σ}
    {row : ρ} (holds : layout.Holds origin fields row) (different : layout.Distinct)
    (distinct : (fields.map Prod.fst).Nodup) (typeName : String) :
    layout.read typeName origin (.ofJson (.object fields)) = .ok row := by
  have sound : Document.SoundFields (Document.ofFields fields) := by
    rw [Document.ofFields_eq_map]
    exact Document.soundFields_keyed distinct fun _ _ => Document.isSkippable_ofJson _
  rw [Document.ofJson]
  exact holds.provides.read_object different sound typeName

/-! ### What keeps a record from being read -/

/-- The field of a name, if there is one, can be read from a document. -/
def Readable (origin : Origin) (key : String) (content : Document) :
    {ρ σ : Type} → Layout ρ σ → Prop
  | _, _, .done => True
  | _, _, .field name codec _ rest =>
      if key = name then ∃ value, codec.read origin content = .ok value
      else rest.Readable origin key content

theorem readable_of_fill {origin : Origin} {key : String} {content : Document}
    {layout : Layout ρ σ} {slots full : σ}
    (filling : layout.fill origin key content slots = .ok full) :
    layout.Readable origin key content := by
  induction layout with
  | done => trivial
  | field name codec fallback rest ih =>
      obtain ⟨held, slots⟩ := slots
      rw [Readable]
      simp only [fill] at filling
      split_ifs at filling ⊢ with same
      · cases held with
        | some value => cases filling
        | none =>
            cases read : codec.read origin content with
            | error error => simp [read] at filling
            | ok value => exact ⟨value, rfl⟩
      · cases placed : rest.fill origin key content slots with
        | error error => simp [placed] at filling
        | ok next => exact ih placed

theorem readable_of_fillAll {origin : Origin} {key : String} {content : Document}
    {fields : List (Option String × Document)} {layout : Layout ρ σ} {slots full : σ}
    (member : (some key, content) ∈ fields)
    (filling : layout.fillAll origin fields slots = .ok full) :
    layout.Readable origin key content := by
  induction fields generalizing slots with
  | nil => cases member
  | cons field fields ih =>
      obtain ⟨_ | name, document⟩ := field
      · cases filling
      rw [fillAll] at filling
      cases placed : layout.fill origin name document slots with
      | error error => simp [placed] at filling
      | ok next =>
          rw [placed] at filling
          rcases List.mem_cons.mp member with same | later
          · cases same
            exact readable_of_fill placed
          · exact ih later filling

theorem readable_of_read_object {origin : Origin} {key typeName : String} {content : Document}
    {fields : List (Option String × Document)} {complete : Bool} {layout : Layout ρ σ} {row : ρ}
    (member : (some key, content) ∈ fields)
    (read : layout.read typeName origin (.object fields complete) = .ok row) :
    layout.Readable origin key content := by
  rw [Layout.read] at read
  cases filling : layout.fillAll origin fields layout.noSlots with
  | error error => simp [filling] at read
  | ok full => exact readable_of_fillAll member filling

/-- A slot stays as it is if no field has its name. -/
theorem fst_of_fillAll {origin : Origin} {name : String} {codec : Codec α} {fallback : Option α}
    {rest : Layout ρ σ} {fields : List (Option String × Document)} {slots full : Option α × σ}
    (unnamed : some name ∉ fields.map Prod.fst)
    (filling : (Layout.field name codec fallback rest).fillAll origin fields slots = .ok full) :
    full.1 = slots.1 := by
  induction fields generalizing slots with
  | nil =>
      cases filling
      rfl
  | cons field fields ih =>
      obtain ⟨_ | key, content⟩ := field
      · cases filling
      rw [List.map_cons, List.mem_cons, not_or] at unnamed
      obtain ⟨other, unnamed⟩ := unnamed
      have different : key ≠ name := fun same => other (congrArg some same.symm)
      obtain ⟨held, slots⟩ := slots
      simp only [fillAll, fill, if_neg different] at filling
      cases placed : rest.fill origin key content slots with
      | error error => simp [placed] at filling
      | ok next =>
          rw [placed] at filling
          have kept := ih unnamed filling
          exact kept

/-- A record without a field that nothing can stand in for cannot be read. -/
theorem exists_error_of_missing {origin : Origin} {name typeName : String} {codec : Codec α}
    {rest : Layout ρ σ} {fields : List (Option String × Document)} (needed : codec.absent = none)
    (unnamed : some name ∉ fields.map Prod.fst) (complete : Bool) :
    ∃ error, (required name codec rest).read typeName origin (.object fields complete) =
      .error error := by
  rw [read]
  cases filling : (required name codec rest).fillAll origin fields
      (required name codec rest).noSlots with
  | error error => exact ⟨error, rfl⟩
  | ok full =>
      have free : full.1 = none := fst_of_fillAll unnamed filling
      obtain ⟨held, full⟩ := full
      obtain rfl : held = none := free
      cases complete
      · exact ⟨.malformed, rfl⟩
      · refine ⟨.missingField name, ?_⟩
        simp [required, finish, needed]

/-! ### What was read -/

/-- The slots that fields fill: content goes into a free slot of its name, and a slot without
content stays as it was. -/
def Placed (origin : Origin) (fields : List (String × Json)) :
    {ρ σ : Type} → Layout ρ σ → σ → σ → Prop
  | _, _, .done, (), () => True
  | _, _, .field name codec _ rest, (held, slots), (filled, full) =>
      (match fields.lookup name with
        | some content =>
            held = none ∧ ∃ value, codec.read origin (.ofJson content) = .ok value ∧
              filled = some value
        | none => filled = held) ∧ rest.Placed origin fields slots full

theorem placed_of_unknown {origin : Origin} {fields : List (String × Json)} {layout : Layout ρ σ}
    (unknown : ∀ name ∈ layout.names, fields.lookup name = none) (slots : σ) :
    layout.Placed origin fields slots slots := by
  induction layout with
  | done => trivial
  | field name codec fallback rest ih =>
      obtain ⟨held, slots⟩ := slots
      obtain ⟨here, later⟩ := List.forall_mem_cons.mp unknown
      refine ⟨?_, ih later slots⟩
      rw [here]

theorem placed_of_fill {origin : Origin} {key : String} {content : Json} {layout : Layout ρ σ}
    (different : layout.Distinct) {slots full : σ}
    (filling : layout.fill origin key (.ofJson content) slots = .ok full) :
    layout.Placed origin [(key, content)] slots full := by
  induction layout with
  | done => trivial
  | field name codec fallback rest ih =>
      obtain ⟨held, slots⟩ := slots
      obtain ⟨fresh, different⟩ := List.nodup_cons.mp different
      by_cases same : key = name
      · subst same
        simp only [fill, if_true] at filling
        cases held with
        | some value => cases filling
        | none =>
            cases read : codec.read origin (.ofJson content) with
            | error error =>
                rw [read] at filling
                cases filling
            | ok value =>
                rw [read] at filling
                cases filling
                refine ⟨?_, placed_of_unknown (fun name member => ?_) slots⟩
                · rw [List.lookup_cons_self]
                  exact ⟨rfl, value, read, rfl⟩
                · have other : name ≠ key := fun same => fresh (same ▸ member)
                  rw [Json.lookup_cons_eq_ite, if_neg other, List.lookup_nil]
      · simp only [fill, if_neg same] at filling
        cases placed : rest.fill origin key (.ofJson content) slots with
        | error error =>
            rw [placed] at filling
            cases filling
        | ok others =>
            rw [placed] at filling
            cases filling
            refine ⟨?_, ih different placed⟩
            rw [Json.lookup_cons_eq_ite, if_neg (Ne.symm same), List.lookup_nil]

theorem Placed.cons {origin : Origin} {field : String × Json} {fields : List (String × Json)}
    {layout : Layout ρ σ} {slots next full : σ} (first : layout.Placed origin [field] slots next)
    (others : layout.Placed origin fields next full) :
    layout.Placed origin (field :: fields) slots full := by
  induction layout with
  | done => trivial
  | field name codec fallback rest ih =>
      obtain ⟨held, slots⟩ := slots
      obtain ⟨middle, next⟩ := next
      obtain ⟨filled, full⟩ := full
      obtain ⟨here, first⟩ := first
      obtain ⟨there, others⟩ := others
      refine ⟨?_, ih first others⟩
      by_cases same : name = field.1
      · rw [Json.lookup_cons_eq_ite, if_pos same] at here ⊢
        obtain ⟨free, value, read, rfl⟩ := here
        refine ⟨free, value, read, ?_⟩
        -- The slot is not free any more, so there is no second content.
        cases found : fields.lookup name with
        | none => rwa [found] at there
        | some content =>
            rw [found] at there
            cases there.1
      · rw [Json.lookup_cons_eq_ite, if_neg same] at here ⊢
        obtain rfl : middle = held := here
        exact there

theorem placed_of_fillAll {origin : Origin} {fields : List (String × Json)} {layout : Layout ρ σ}
    (different : layout.Distinct) {slots full : σ}
    (filling : layout.fillAll origin (Document.ofFields fields) slots = .ok full) :
    layout.Placed origin fields slots full := by
  induction fields generalizing slots with
  | nil =>
      cases filling
      exact placed_of_unknown (fun _ _ => List.lookup_nil) _
  | cons field fields ih =>
      rw [Document.ofFields, fillAll] at filling
      cases placed : layout.fill origin field.1 (.ofJson field.2) slots with
      | error error =>
          rw [placed] at filling
          cases filling
      | ok next =>
          rw [placed] at filling
          exact (placed_of_fill different placed).cons (ih filling)

theorem holds_of_finish {origin : Origin} {fields : List (String × Json)} {layout : Layout ρ σ}
    {full : σ} {row : ρ} (placed : layout.Placed origin fields layout.noSlots full)
    (finished : layout.finish full = .ok row) : layout.Holds origin fields row := by
  induction layout with
  | done => trivial
  | field name codec fallback rest ih =>
      obtain ⟨held, full⟩ := full
      obtain ⟨here, later⟩ := placed
      rw [finish] at finished
      cases stands : (held <|> fallback <|> codec.absent) with
      | none =>
          rw [stands] at finished
          cases finished
      | some value =>
          rw [stands] at finished
          cases others : rest.finish full with
          | error error =>
              rw [others] at finished
              cases finished
          | ok tail =>
              rw [others] at finished
              cases finished
              refine ⟨?_, ih later others⟩
              cases found : fields.lookup name with
              | none =>
                  rw [found] at here
                  obtain rfl : held = none := here
                  exact stands
              | some content =>
                  rw [found] at here
                  obtain ⟨-, read, readable, rfl⟩ := here
                  cases stands
                  exact readable

/-- An object that was read says what the row holds. -/
theorem holds_of_read_object {origin : Origin} {fields : List (String × Json)}
    {layout : Layout ρ σ} {row : ρ} {typeName : String} (different : layout.Distinct)
    (read : layout.read typeName origin (.ofJson (.object fields)) = .ok row) :
    layout.Holds origin fields row := by
  rw [Document.ofJson, Layout.read] at read
  cases filling : layout.fillAll origin (Document.ofFields fields) layout.noSlots with
  | error error =>
      rw [filling] at read
      cases read
  | ok full =>
      rw [filling] at read
      exact holds_of_finish (placed_of_fillAll different filling) read

/-! ### Arrays -/

/-- A row has the values of items in the order of declaration. Something stands in for every field
at the end that has no item. -/
def InOrder (origin : Origin) : {ρ σ : Type} → Layout ρ σ → List Json → ρ → Prop
  | _, _, .done, items, () => items = []
  | _, _, .field _ codec _ rest, item :: items, (value, row) =>
      codec.read origin (.ofJson item) = .ok value ∧ rest.InOrder origin items row
  | _, _, .field _ _ fallback rest, [], (value, row) =>
      fallback = some value ∧ rest.InOrder origin [] row

theorem InOrder.readPositions {origin : Origin} {layout : Layout ρ σ} {items : List Json} {row : ρ}
    (ordered : layout.InOrder origin items row) (expected : String) (position : Nat) :
    layout.readPositions origin true expected position (Document.ofItems items) =
      .ok (row, []) := by
  induction layout generalizing items position with
  | done =>
      obtain rfl : items = [] := ordered
      rfl
  | field name codec fallback rest ih =>
      obtain ⟨value, row⟩ := row
      cases items with
      | nil =>
          obtain ⟨rfl, ordered⟩ := ordered
          have later := ih ordered (position + 1)
          rw [Document.ofItems] at later ⊢
          simp only [Layout.readPositions, if_true, later, Except.map]
      | cons item items =>
          obtain ⟨read, ordered⟩ := ordered
          rw [Document.ofItems, Layout.readPositions, read]
          simp only [ih ordered, Except.map]

theorem InOrder.read_array {origin : Origin} {layout : Layout ρ σ} {items : List Json} {row : ρ}
    (ordered : layout.InOrder origin items row) (typeName : String) :
    layout.read typeName origin (.ofJson (.array items)) = .ok row := by
  simp only [Document.ofJson, read, ordered.readPositions, if_true]

end Layout

/-- Every field of a record that was read can be read by itself. -/
theorem Codec.readable_of_read {α ρ σ : Type} {typeName : String} {layout : Layout ρ σ}
    {ofRow : ρ → α} {toRow : α → ρ} {origin : Origin} {key : String} {content : Document}
    {fields : List (Option String × Document)} {complete : Bool} {value : α}
    (member : (some key, content) ∈ fields)
    (read : (Codec.record typeName layout ofRow toRow).read origin (.object fields complete) =
      .ok value) : layout.Readable origin key content := by
  change (layout.read typeName origin (.object fields complete)).map ofRow = .ok value at read
  cases found : layout.read typeName origin (.object fields complete) with
  | error error =>
      rw [found] at read
      cases read
  | ok row => exact Layout.readable_of_read_object member found

/-- A record that was read from an object has a row that holds the values of the fields. -/
theorem Codec.exists_holds_of_decode {α ρ σ : Type} {typeName : String} {layout : Layout ρ σ}
    {ofRow : ρ → α} {toRow : α → ρ} {fields : List (String × Json)} {value : α}
    (different : layout.Distinct)
    (read : (Codec.record typeName layout ofRow toRow).decode (.object fields) = .ok value) :
    ∃ row, layout.Holds .value fields row ∧ value = ofRow row := by
  change (layout.read typeName .value (.ofJson (.object fields))).map ofRow = .ok value at read
  cases found : layout.read typeName .value (.ofJson (.object fields)) with
  | error error =>
      rw [found] at read
      cases read
  | ok row =>
      rw [found] at read
      cases read
      exact ⟨row, Layout.holds_of_read_object different found, rfl⟩

end LightningGateway
