import LightningGateway.Config.File
import LightningGateway.Proofs.Published
import LightningGateway.Proofs.Settings

/-!
# Saved configurations

A configuration that can be saved is what is read from its file, whatever texts it holds and
whatever parts of it are missing. A configuration that has no form as a file leaves all files as
they are.
-/

namespace LightningGateway

/-! ### Files that are written -/

namespace FileSystem

variable {files written : FileSystem} {path : String} {place other : List String}
  {content : List UInt8}

/-- The files with a file in place of what was there. -/
def put (files : FileSystem) (place : List String) (content : List UInt8) : FileSystem :=
  { files with
    entries := (place, .file content) :: files.entries.filter fun entry => entry.1 ≠ place }

theorem write_eq_ok_iff :
    files.write path content = .ok written ↔
      ∃ place, files.placeFor path = .ok place ∧ written = files.put place content := by
  rw [write]
  cases files.placeFor path with
  | error fault => simp [Except.map]
  | ok place => simp [Except.map, put, eq_comm]

theorem lookup_put_self (files : FileSystem) (place : List String) (content : List UInt8) :
    (files.put place content).lookup place = some (.file content) := by
  simp [lookup, put]

theorem lookup_filter_of_ne (entries : List (List String × FileEntry)) (different : other ≠ place) :
    List.lookup other (entries.filter fun entry => entry.1 ≠ place) = entries.lookup other := by
  induction entries with
  | nil => rfl
  | cons entry entries ih =>
      by_cases same : entry.1 = place
      · have passed : (other == entry.1) = false := by simpa [same] using different
        rw [List.filter_cons_of_neg (by simpa using same), ih, List.lookup_cons, passed]
      · rw [List.filter_cons_of_pos (by simpa using same), List.lookup_cons, List.lookup_cons, ih]

/-- Directories stay where a file is written in another place. -/
theorem lookup_put_of_directory (directory : files.lookup other = some .directory)
    (different : other ≠ place) : (files.put place content).lookup other = some .directory := by
  have passed : (other == place) = false := by simpa using different
  have listed : (files.put place content).entries.lookup other = files.entries.lookup other := by
    rw [put, List.lookup_cons, passed]
    exact lookup_filter_of_ne files.entries different
  rw [lookup] at directory ⊢
  rw [listed]
  cases found : files.entries.lookup other with
  | some entry => rwa [found] at directory
  | none =>
      simp only [found, ite_eq_left_iff, reduceCtorEq, imp_false, not_not] at directory ⊢
      refine directory.imp id fun above => ?_
      obtain ⟨entry, member, isAbove⟩ := List.any_eq_true.mp above
      by_cases same : entry.1 = place
      · exact List.any_eq_true.mpr ⟨(place, .file content), .head _, same ▸ isAbove⟩
      · have kept : entry ∈ files.entries.filter fun entry => entry.1 ≠ place :=
          List.mem_filter.mpr ⟨member, by simpa using same⟩
        exact List.any_eq_true.mpr ⟨entry, .tail _ kept, isAbove⟩

/-- The way to a place that is not a directory only leads through other places. -/
theorem follow_put {start : List String} {components : List String}
    (reached : files.follow start components = .ok place)
    (replaceable : files.lookup place ≠ some .directory) (content : List UInt8) :
    (files.put place content).follow start components = .ok place := by
  induction components generalizing start with
  | nil => exact reached
  | cons component rest ih =>
      rw [follow] at reached ⊢
      cases found : files.lookup start with
      | none => simp [found] at reached
      | some entry =>
          cases entry with
          | file | locked => simp [found] at reached
          | directory =>
              have different : start ≠ place := by
                rintro rfl
                exact replaceable found
              rw [lookup_put_of_directory found different]
              simp only [found] at reached ⊢
              split_ifs at reached ⊢
              all_goals exact ih reached

theorem placeFor_eq_ok_iff :
    files.placeFor path = .ok place ↔
      files.resolve path = .ok place ∧ files.lookup place ≠ some .directory ∧
        files.lookup place ≠ some .locked := by
  rw [placeFor]
  cases files.resolve path with
  | error fault => simp
  | ok reached =>
      simp only [Except.ok.injEq]
      constructor
      · intro found
        split at found
        next => cases found
        next => cases found
        next directory locked =>
          cases found
          exact ⟨rfl, directory, locked⟩
      · rintro ⟨rfl, directory, locked⟩
        split
        next same => exact absurd same directory
        next same => exact absurd same locked
        next => rfl

theorem resolve_put (found : files.placeFor path = .ok place) (content : List UInt8) :
    (files.put place content).resolve path = .ok place := by
  obtain ⟨resolved, replaceable, -⟩ := placeFor_eq_ok_iff.mp found
  rw [resolve] at resolved ⊢
  split_ifs at resolved ⊢
  · exact follow_put resolved replaceable content
  · exact follow_put resolved replaceable content

theorem placeFor_put (found : files.placeFor path = .ok place) (content : List UInt8) :
    (files.put place content).placeFor path = .ok place := by
  refine placeFor_eq_ok_iff.mpr ⟨resolve_put found content, ?_, ?_⟩
  · rw [lookup_put_self]
    nofun
  · rw [lookup_put_self]
    nofun

theorem read_put (found : files.placeFor path = .ok place) (content : List UInt8) :
    (files.put place content).read path = .ok content := by
  rw [read, find, resolve_put found content]
  simp only [lookup_put_self]

/-- What a file is overwritten with is what is read from it. -/
theorem read_overwrite (done : (files.overwrite path content).1 = .ok ()) :
    (files.overwrite path content).2.read path = .ok content := by
  rw [overwrite] at done ⊢
  cases first : files.write path [] with
  | error fault => simp [first] at done
  | ok emptied =>
      obtain ⟨place, found, rfl⟩ := write_eq_ok_iff.mp first
      have again := placeFor_put found []
      have second : (files.put place []).write path content =
          .ok ((files.put place []).put place content) :=
        write_eq_ok_iff.mpr ⟨place, again, rfl⟩
      simp only [second]
      exact read_put again content

end FileSystem

/-! ### Records of settings -/

theorem Json.present_ne_null {value : Json} (some_value : value ≠ .null) :
    value.present ≠ .null := by
  cases value with
  | null => exact absurd rfl some_value
  | _ => nofun

theorem Json.lookup_presentFields_of_ne {name key : String} (other : name ≠ key) (value : Json)
    (rest : List (String × Json)) :
    (Json.presentFields ((key, value) :: rest)).lookup name =
      (Json.presentFields rest).lookup name := by
  by_cases null : value = .null
  · rw [null, Json.presentFields]
  · rw [Json.presentFields_cons null, List.lookup_cons, beq_false_of_ne other]

namespace Codec

variable {α : Type} {codec : Codec α}

/-- What is written is read back from settings, in which nothing is `null`. -/
def Settable (codec : Codec α) : Prop :=
  ∀ value, codec.write value ≠ .null →
    codec.read .settings (.ofJson (codec.write value).present) = .ok value

theorem Faithful.settable (faithful : codec.Faithful)
    (flat : ∀ value, (codec.write value).present = codec.write value) : codec.Settable := by
  intro value _
  rw [flat]
  exact faithful .settings value

theorem settable_text : text.Settable := faithful_text.settable fun _ => rfl

theorem settable_word64 : word64.Settable := faithful_word64.settable fun _ => rfl

theorem settable_size : size.Settable := faithful_size.settable fun _ => rfl

theorem Settable.optional (settable : codec.Settable) : (optional codec).Settable := by
  intro value written
  cases value with
  | none => exact absurd rfl written
  | some value =>
      have present := Document.ofJson_ne_null (Json.present_ne_null written)
      exact (read_optional present).trans (congrArg (Except.map some) (settable value written))

end Codec

namespace Layout

variable {ρ σ : Type}

/-- The codecs of the fields read settings back, and where a value is written as `null`, it is the
one that stands in for a field that is left out. -/
def Settable : {ρ σ : Type} → Layout ρ σ → Prop
  | _, _, .done => True
  | _, _, .field _ codec fallback rest =>
      codec.Settable ∧
        (∀ value, codec.write value = .null → (fallback <|> codec.absent) = some value) ∧
        rest.Settable

theorem Settable.holds {layout : Layout ρ σ} (settable : layout.Settable)
    (distinct : layout.Distinct) (row : ρ) {fields : List (String × Json)}
    (shown : ∀ name ∈ layout.names,
      fields.lookup name = (Json.presentFields (layout.write row)).lookup name) :
    layout.Holds .settings fields row := by
  induction layout with
  | done => trivial
  | field name codec fallback rest ih =>
      obtain ⟨value, row⟩ := row
      obtain ⟨readable, stands, settable⟩ := settable
      obtain ⟨fresh, distinct⟩ := List.nodup_cons.mp distinct
      have later : ∀ other ∈ rest.names,
          fields.lookup other = (Json.presentFields (rest.write row)).lookup other := by
        intro other member
        have different : other ≠ name := by
          rintro rfl
          exact fresh member
        rw [shown other (.tail _ member), write, Json.lookup_presentFields_of_ne different]
      refine ⟨?_, ih settable distinct row later⟩
      rw [shown name (.head _), write]
      by_cases null : codec.write value = .null
      · have absent : (Json.presentFields (rest.write row)).lookup name = none := by
          refine lookup_eq_none_iff_notMem.mpr fun member => ?_
          have kept := (Json.keys_presentFields (rest.write row)).subset member
          rw [map_fst_write] at kept
          exact fresh kept
        rw [null, Json.presentFields, absent]
        exact stands value null
      · rw [Json.presentFields_cons null, List.lookup_cons_self]
        exact readable value null

end Layout

theorem Codec.settable_record {α ρ σ : Type} {typeName : String} {layout : Layout ρ σ}
    {ofRow : ρ → α} {toRow : α → ρ} (settable : layout.Settable) (distinct : layout.Distinct)
    (restored : ∀ value, ofRow (toRow value) = value) :
    (Codec.record typeName layout ofRow toRow).Settable := by
  intro value _
  have holds := settable.holds distinct (toRow value) fun _ _ => rfl
  have nodup : ((Json.presentFields (layout.write (toRow value))).map Prod.fst).Nodup := by
    have keys := Json.keys_presentFields (layout.write (toRow value))
    rw [Layout.map_fst_write] at keys
    exact List.Nodup.sublist keys distinct
  have read := holds.read_object distinct nodup typeName
  change (layout.read typeName .settings
    (.ofJson (.object (Json.presentFields (layout.write (toRow value)))))).map ofRow = _
  rw [read, Except.map, restored]

/-! ### Sections of settings -/

/-- Every part of a record that is a section has names that need no quotation and differ. -/
def Codec.Sectioned {α : Type} (codec : Codec α) : Prop :=
  ∀ value settings, codec.write value = .object settings → Toml.Keyed (settings.map Prod.fst)

theorem Codec.sectioned_record {α ρ σ : Type} {typeName : String} {layout : Layout ρ σ}
    {ofRow : ρ → α} {toRow : α → ρ} (keyed : Toml.Keyed layout.names) :
    (Codec.record typeName layout ofRow toRow).Sectioned := by
  rintro value _ ⟨⟩
  rwa [Layout.map_fst_write]

theorem Codec.Sectioned.optional {α : Type} {codec : Codec α} (sectioned : codec.Sectioned) :
    (Codec.optional codec).Sectioned := by
  intro value settings written
  cases value with
  | none => cases written
  | some value => exact sectioned value settings written

namespace Layout

def Sectioned : {ρ σ : Type} → Layout ρ σ → Prop
  | _, _, .done => True
  | _, _, .field _ codec _ rest => codec.Sectioned ∧ rest.Sectioned

theorem Sectioned.keyed {ρ σ : Type} {layout : Layout ρ σ} (sectioned : layout.Sectioned)
    (row : ρ) : ∀ field ∈ layout.write row, ∀ settings, field.2 = .object settings →
      Toml.Keyed (settings.map Prod.fst) := by
  induction layout with
  | done => nofun
  | field name codec fallback rest ih =>
      obtain ⟨value, row⟩ := row
      intro field member settings same
      rcases List.mem_cons.mp member with rfl | later
      · exact sectioned.1 value settings same
      · exact ih sectioned.2 row field later settings same

end Layout

namespace Config

theorem stands_optional {α : Type} {codec : Codec α}
    (present : ∀ value, codec.write value ≠ .null) :
    ∀ value, (Codec.optional codec).write value = .null →
      (some none <|> (Codec.optional codec).absent) = some value
  | none, _ => rfl
  | some value, written => absurd written (present value)

theorem stands_optionalText : ∀ value, (Codec.optional Codec.text).write value = .null →
    (some none <|> (Codec.optional Codec.text).absent) = some value :=
  stands_optional fun _ => nofun

theorem settable_backend : BackendConfig.codec.Settable :=
  Codec.settable_record
    ⟨(Codec.faithful_enumeration Implementation.lookup_name).settable fun _ => rfl, nofun,
      Codec.settable_text, nofun, trivial⟩
    (by decide) fun _ => rfl

theorem settable_daemon : DaemonConfig.codec.Settable :=
  Codec.settable_record
    ⟨Codec.settable_text.optional, stands_optionalText, Codec.settable_text.optional,
      stands_optionalText, Codec.settable_text.optional, stands_optionalText,
      Codec.settable_text.optional, stands_optionalText, Codec.settable_text, nofun, trivial⟩
    (by decide) fun _ => rfl

theorem settable_chainServer : ChainServerConfig.codec.Settable :=
  Codec.settable_record
    ⟨Codec.settable_text, nofun, Codec.settable_text.optional, stands_optionalText,
      Codec.settable_text.optional, stands_optionalText, Codec.settable_text.optional,
      stands_optionalText, trivial⟩
    (by decide) fun _ => rfl

theorem settable_connection : ConnectionConfig.codec.Settable :=
  Codec.settable_record ⟨Codec.settable_word64, nofun, trivial⟩ (by decide) fun _ => rfl

theorem settable_subscriptions : SubscriptionConfig.codec.Settable :=
  Codec.settable_record ⟨Codec.settable_word64, nofun, trivial⟩ (by decide) fun _ => rfl

theorem settable_cache : CacheConfig.codec.Settable :=
  Codec.settable_record ⟨Codec.settable_size, nofun, Codec.settable_size, nofun, trivial⟩
    (by decide) fun _ => rfl

theorem settable_logging : LogConfig.codec.Settable :=
  Codec.settable_record
    ⟨Codec.settable_text, nofun, Codec.settable_text.optional, stands_optionalText, trivial⟩
    (by decide) fun _ => rfl

theorem settable_codec : codec.Settable :=
  Codec.settable_record
    ⟨settable_backend, nofun, settable_daemon, nofun, settable_chainServer.optional,
      stands_optional fun _ => nofun, settable_connection, nofun, settable_subscriptions, nofun,
      settable_cache, nofun, settable_logging, nofun, trivial⟩
    (by decide) fun _ => rfl

theorem sectioned_layout : layout.Sectioned := by
  have backend : Toml.Keyed BackendConfig.layout.names := by decide
  have daemon : Toml.Keyed DaemonConfig.layout.names := by decide
  have chainServer : Toml.Keyed ChainServerConfig.layout.names := by decide
  have connection : Toml.Keyed ConnectionConfig.layout.names := by decide
  have subscriptions : Toml.Keyed SubscriptionConfig.layout.names := by decide
  have cache : Toml.Keyed CacheConfig.layout.names := by decide
  have logging : Toml.Keyed LogConfig.layout.names := by decide
  exact ⟨Codec.sectioned_record backend, Codec.sectioned_record daemon,
    (Codec.sectioned_record chainServer).optional, Codec.sectioned_record connection,
    Codec.sectioned_record subscriptions, Codec.sectioned_record cache,
    Codec.sectioned_record logging, trivial⟩

theorem keyed_write (config : Config) :
    Toml.Keyed ((layout.write (config.backend, config.daemon, config.chainServer,
      config.connection, config.subscriptions, config.cache, config.logging, ())).map
        Prod.fst) := by
  rw [Layout.map_fst_write]
  decide

theorem toText_eq_ok_iff {config : Config} {text : String} :
    toText config = .ok text ↔ Toml.write? (codec.write config) = some text := by
  rw [toText]
  cases Toml.write? (codec.write config) <;> simp

/-- The text of a configuration is read as the configuration. -/
theorem ofText_of_toText {config : Config} {text : String} (written : toText config = .ok text) :
    ofText text = .ok config := by
  obtain ⟨entries, parsed, document⟩ := Toml.exists_of_write? (toText_eq_ok_iff.mp written)
    (keyed_write config) (sectioned_layout.keyed _)
  have read : codec.read .settings (Toml.Value.table .headed entries).toDocument = .ok config :=
    document ▸ settable_codec config nofun
  rw [ofText, parsed]
  simp only [read]

/-! ### Configurations without a text -/

/-- The integers among the settings. -/
def numbers (config : Config) : List UInt64 :=
  [config.connection.retryDelay, config.subscriptions.pollInterval,
    config.cache.requestCapacity, config.cache.blockCapacity]

end Config

namespace Toml

theorem isSome_setting?_ofNat (key : String) (value : Nat) :
    (setting? key (.ofNat value)).isSome ↔ value < Bound.signed64 := by
  rw [Json.ofNat, setting?]
  split
  next inRange => simpa using Int.ofNat_lt.mp inRange.2
  next outside =>
    simp
    omega

theorem isSome_settings?_cons (key : String) (value : Json) (rest : List (String × Json)) :
    (settings? ((key, value) :: rest)).isSome ↔
      (setting? key value).isSome ∧ (settings? rest).isSome := by
  rw [settings?]
  cases setting? key value <;> simp

theorem isSome_section?_object (name : String) (fields : List (String × Json)) :
    (section? name (.object fields)).isSome ↔ (settings? fields).isSome := by
  simp [section?]

theorem isSome_section?_numbers (name : String) (numbers : List (String × Nat)) :
    (section? name (.object (numbers.map fun number => (number.1, .ofNat number.2)))).isSome ↔
      ∀ number ∈ numbers, number.2 < Bound.signed64 := by
  rw [isSome_section?_object]
  induction numbers with
  | nil => exact ⟨nofun, fun _ => rfl⟩
  | cons number others ih =>
      rw [List.map_cons, isSome_settings?_cons, isSome_setting?_ofNat, ih, List.forall_mem_cons]

theorem isSome_sections?_cons (name : String) (value : Json) (rest : List (String × Json)) :
    (sections? ((name, value) :: rest)).isSome ↔
      (section? name value).isSome ∧ (sections? rest).isSome := by
  rw [sections?]
  cases section? name value <;> simp

theorem isSome_write?_object (fields : List (String × Json)) :
    (write? (.object fields)).isSome ↔ (sections? fields).isSome := by
  simp [write?]

end Toml

/-- Whatever the value is, it can be written as a setting. -/
def Codec.Textual {α : Type} (codec : Codec α) : Prop :=
  ∀ key value, (Toml.setting? key (codec.write value)).isSome

theorem Codec.textual_text : text.Textual := fun _ _ => rfl

theorem Codec.Textual.optional {α : Type} {codec : Codec α} (textual : codec.Textual) :
    (Codec.optional codec).Textual
  | _, none => rfl
  | key, some value => textual key value

namespace Layout

def Textual : {ρ σ : Type} → Layout ρ σ → Prop
  | _, _, .done => True
  | _, _, .field _ codec _ rest => codec.Textual ∧ rest.Textual

theorem Textual.isSome_section? {ρ σ : Type} {layout : Layout ρ σ} (textual : layout.Textual)
    (name : String) (row : ρ) : (Toml.section? name (.object (layout.write row))).isSome := by
  rw [Toml.isSome_section?_object]
  induction layout with
  | done => rfl
  | field key codec fallback rest ih =>
      obtain ⟨value, row⟩ := row
      rw [write, Toml.isSome_settings?_cons]
      exact ⟨textual.1 key value, ih textual.2 row⟩

end Layout

namespace Config

theorem textual_backend : BackendConfig.layout.Textual :=
  ⟨fun _ _ => rfl, Codec.textual_text, trivial⟩

theorem textual_daemon : DaemonConfig.layout.Textual :=
  ⟨Codec.textual_text.optional, Codec.textual_text.optional, Codec.textual_text.optional,
    Codec.textual_text.optional, Codec.textual_text, trivial⟩

theorem textual_chainServer : ChainServerConfig.layout.Textual :=
  ⟨Codec.textual_text, Codec.textual_text.optional, Codec.textual_text.optional,
    Codec.textual_text.optional, trivial⟩

theorem textual_logging : LogConfig.layout.Textual :=
  ⟨Codec.textual_text, Codec.textual_text.optional, trivial⟩

theorem isSome_chainServer (name : String) (chainServer : Option ChainServerConfig) :
    (Toml.section? name
      ((Codec.optional ChainServerConfig.codec).write chainServer)).isSome := by
  cases chainServer with
  | none => rfl
  | some server => exact textual_chainServer.isSome_section? name _

theorem isSome_connection (name : String) (connection : ConnectionConfig) :
    (Toml.section? name (ConnectionConfig.codec.write connection)).isSome ↔
      connection.retryDelay.toNat < Bound.signed64 := by
  have section? := Toml.isSome_section?_numbers name
    [("retry_delay_ms", connection.retryDelay.toNat)]
  exact section?.trans List.forall_mem_singleton

theorem isSome_subscriptions (name : String) (subscriptions : SubscriptionConfig) :
    (Toml.section? name (SubscriptionConfig.codec.write subscriptions)).isSome ↔
      subscriptions.pollInterval.toNat < Bound.signed64 := by
  have section? := Toml.isSome_section?_numbers name
    [("forward_poll_interval_ms", subscriptions.pollInterval.toNat)]
  exact section?.trans List.forall_mem_singleton

theorem isSome_cache (name : String) (cache : CacheConfig) :
    (Toml.section? name (CacheConfig.codec.write cache)).isSome ↔
      cache.requestCapacity.toNat < Bound.signed64 ∧
        cache.blockCapacity.toNat < Bound.signed64 := by
  have section? := Toml.isSome_section?_numbers name
    [("pay_request_capacity", cache.requestCapacity.toNat),
      ("block_capacity", cache.blockCapacity.toNat)]
  exact section?.trans (List.forall_mem_cons.trans (and_congr_right' List.forall_mem_singleton))

theorem isSome_write?_iff (config : Config) :
    (Toml.write? (codec.write config)).isSome ↔
      ∀ number ∈ config.numbers, number.toNat < Bound.signed64 := by
  have backend : (Toml.section? "backend" (BackendConfig.codec.write config.backend)).isSome :=
    textual_backend.isSome_section? _ _
  have daemon : (Toml.section? "core_lightning" (DaemonConfig.codec.write config.daemon)).isSome :=
    textual_daemon.isSome_section? _ _
  have logging : (Toml.section? "logging" (LogConfig.codec.write config.logging)).isSome :=
    textual_logging.isSome_section? _ _
  have chainServer := isSome_chainServer "bitcoind" config.chainServer
  have connection := isSome_connection "connection" config.connection
  have subscriptions := isSome_subscriptions "subscriptions" config.subscriptions
  have cache := isSome_cache "cache" config.cache
  refine (Toml.isSome_write?_object _).trans ?_
  simp only [layout, Layout.defaulted, Layout.write, Toml.isSome_sections?_cons, backend, daemon,
    chainServer, connection, subscriptions, cache, logging, numbers, List.forall_mem_cons]
  simp [Toml.sections?]

/-- Only integers that 64 bits do not hold with a sign keep a configuration from being written. -/
theorem toText_eq_error_iff {config : Config} :
    toText config = .error .serialize ↔
      ∃ number ∈ config.numbers, Bound.signed64 ≤ number.toNat := by
  have written := isSome_write?_iff config
  rw [toText]
  cases encoded : Toml.write? (codec.write config) with
  | none =>
      simp only [encoded, Option.isSome_none, Bool.false_eq_true, false_iff, not_forall,
        Nat.not_lt] at written
      simpa using written
  | some text =>
      simp only [encoded, Option.isSome_some, true_iff] at written
      simpa using written

/-! ### Saving -/

theorem utf8?_toUTF8 (text : String) : Text.utf8? text.toUTF8.data.toList = some text := by
  have bytes : (⟨text.toUTF8.data.toList.toArray⟩ : ByteArray) = text.toUTF8 := rfl
  have valid : ByteArray.IsValidUTF8 text.toUTF8 := text.isValidUTF8
  rw [Text.utf8?, bytes, String.fromUTF8?, dif_pos valid]
  rfl

/-- What has been saved is the text of the configuration. -/
theorem readText_attemptSave {files : FileSystem} {path : String} {config : Config}
    (done : (attemptSave files path config).1 = .ok ()) :
    ∃ text, toText config = .ok text ∧
      (attemptSave files path config).2.readText path = .ok text := by
  rw [attemptSave] at done ⊢
  cases written : toText config with
  | error error => simp [written] at done
  | ok text =>
      have read := @FileSystem.read_overwrite files path text.toUTF8.data.toList
      refine ⟨text, rfl, ?_⟩
      simp only [written] at done ⊢
      generalize files.overwrite path text.toUTF8.data.toList = attempt at done read ⊢
      obtain ⟨outcome, left⟩ := attempt
      cases outcome with
      | error fault => cases done
      | ok =>
          rw [FileSystem.readText, read rfl]
          simp only [utf8?_toUTF8]

/-- A configuration that has been saved is what is read from its file. One that cannot be written
leaves the files as they are; this is so for configurations with too large integers only. -/
theorem fromFile_attemptSave (files : FileSystem) (path : String) (config : Config) :
    ((attemptSave files path config).1 = .ok () →
      fromFile (attemptSave files path config).2 path = .ok config) ∧
    (toText config = .error .serialize →
      attemptSave files path config = (.error .serialize, files)) ∧
    (toText config = .error .serialize ↔
      ∃ number ∈ config.numbers, Bound.signed64 ≤ number.toNat) ∧
    ∀ text, toText config = .ok text → ofText text = .ok config := by
  refine ⟨fun done => ?_, fun failed => ?_, toText_eq_error_iff, fun text => ofText_of_toText⟩
  · obtain ⟨text, written, read⟩ := readText_attemptSave done
    rw [fromFile, read]
    exact ofText_of_toText written
  · rw [attemptSave, failed]

/-- Texts of every kind of quotation, and the largest integer that can be written. -/
def awkward : Config where
  backend := { implementation := .coreLightning, network := "it's \"here\"" }
  daemon :=
    { rpcSocket := some "C:\\run", restUrl := none, rune := some "'''\n\"\"\"\n\\\n\x1b"
      caCert := some "\t'\n\"\"", cliPath := "\x07\x7f\r" }
  chainServer :=
    some { rpcUrl := "", rpcUser := some "\\\n''", rpcPassword := some "\uFEFF", cookie := none }
  connection := { retryDelay := 9223372036854775807 }
  subscriptions := { pollInterval := 0 }
  cache := .standard
  logging := { level := "\n", file := none }

def oversized : Config := { awkward with connection := { retryDelay := 9223372036854775808 } }

def earlierFiles : FileSystem where
  entries := [(["etc", "gateway.toml"], .file "[backend]".toUTF8.data.toList)]
  workingDirectory := []

theorem fromFile_attemptSave_awkward :
    ((attemptSave earlierFiles "/etc/gateway.toml" awkward).1 = .ok () ∧
      fromFile (attemptSave earlierFiles "/etc/gateway.toml" awkward).2 "/etc/gateway.toml" =
        .ok awkward) ∧
    (∃ text, toText awkward = .ok text ∧ ofText text = .ok awkward) ∧
    toText oversized = .error .serialize ∧
      attemptSave earlierFiles "/etc/gateway.toml" oversized =
        (.error .serialize, earlierFiles) := by
  have kept := fromFile_attemptSave earlierFiles "/etc/gateway.toml" awkward
  have failing := fromFile_attemptSave earlierFiles "/etc/gateway.toml" oversized
  have done : (attemptSave earlierFiles "/etc/gateway.toml" awkward).1 = .ok () := by
    decide +kernel
  have failed : toText oversized = .error .serialize :=
    failing.2.2.1.mpr ⟨9223372036854775808, by decide, by decide⟩
  obtain ⟨text, written, -⟩ := readText_attemptSave done
  exact ⟨⟨done, kept.1 done⟩, ⟨text, written, kept.2.2.2 text written⟩, failed,
    failing.2.1 failed⟩

end Config

end LightningGateway
