import LightningGateway.Config.File
import LightningGateway.Proofs.Objects
import LightningGateway.Proofs.Overrides
import LightningGateway.Proofs.Tables

/-!
# Layers of settings

A setting comes from the environment, or else from the file, or else from the standard
configuration. A file may have any of the sections and any of their keys, but a section for the
chain server has to give its URL.
-/

namespace LightningGateway

variable {α : Type}

/-! ### Tables as documents -/

namespace Toml

namespace Value

theorem entryDocuments_eq_map (entries : Entries) :
    entryDocuments entries = entries.map fun entry => (some entry.1, entry.2.toDocument) := by
  induction entries with
  | nil => rfl
  | cons entry entries ih => rw [entryDocuments, ih, List.map_cons]

theorem toDocument_ne_null (value : Value) : value.toDocument ≠ .null := by
  cases value with
  | float reading => cases reading <;> nofun
  | _ => nofun

mutual

/-- Settings that no record knows can be passed over. -/
theorem isSkippable_toDocument (value : Value) : value.toDocument.isSkippable = true := by
  match value with
  | .text _ | .integer _ | .boolean _ | .moment _ => rfl
  | .float reading => cases reading <;> rfl
  | .array _ items => simp [toDocument, Document.isSkippable, allSkippable_itemDocuments items]
  | .table _ entries =>
      simp [toDocument, Document.isSkippable, allFieldsSkippable_entryDocuments entries]

theorem allSkippable_itemDocuments (items : List Value) :
    Document.allSkippable (itemDocuments items) = true := by
  match items with
  | [] => rfl
  | item :: rest =>
      simp [itemDocuments, Document.allSkippable, isSkippable_toDocument item,
        allSkippable_itemDocuments rest]

theorem allFieldsSkippable_entryDocuments (entries : List (String × Value)) :
    Document.allFieldsSkippable (entryDocuments entries) = true := by
  match entries with
  | [] => rfl
  | (key, value) :: rest =>
      simp [entryDocuments, Document.allFieldsSkippable, isSkippable_toDocument value,
        allFieldsSkippable_entryDocuments rest]

end

end Value

namespace Entries

theorem Distinct.soundFields {entries : Entries} (distinct : entries.Distinct) :
    Document.SoundFields (Value.entryDocuments entries) := by
  rw [Value.entryDocuments_eq_map]
  exact Document.soundFields_keyed distinct.keys fun entry _ => entry.2.isSkippable_toDocument

/-- What a table gives for a key: the value that is read there, or nothing. -/
def Gives (entries : Entries) (key : String) (codec : Codec α) : Option α → Prop
  | none => entries.lookup key = none
  | some value =>
      ∃ content, entries.lookup key = some content ∧
        codec.read .settings content.toDocument = .ok value

/-- The entries of a section. A section that is left out has none. -/
def section? (entries : Entries) (name : String) : Option Entries :=
  match entries.lookup name with
  | none => some []
  | some (.table _ inner) => some inner
  | some _ => none

/-- What a table gives for a key in one of its sections. -/
def GivesIn (entries : Entries) (name key : String) (codec : Codec α) (value : Option α) : Prop :=
  ∃ inner, entries.section? name = some inner ∧ inner.Gives key codec value

theorem GivesIn.gives {entries inner : Entries} {name key : String} {codec : Codec α}
    {value : Option α} (given : entries.GivesIn name key codec value)
    (found : entries.section? name = some inner) : inner.Gives key codec value := by
  obtain ⟨other, also, gives⟩ := given
  cases also.symm.trans found
  exact gives

theorem Distinct.section? {entries inner : Entries} {name : String} (distinct : entries.Distinct)
    (found : entries.section? name = some inner) : inner.Distinct := by
  rw [Entries.section?] at found
  split at found
  next =>
    cases found
    exact distinct_nil
  next kind table present =>
    cases found
    exact Value.distinct_table_iff.mp (distinct.of_lookup present)
  next => cases found

end Entries

end Toml

/-! ### Fields of a table -/

namespace Layout

open Toml

variable {entries : Entries} {name : String} {codec : Codec α}

theorem providesField_of_found {content : Value} {fallback : Option α} {value : α}
    (found : entries.lookup name = some content)
    (read : codec.read .settings content.toDocument = .ok value) :
    ProvidesField .settings (Value.entryDocuments entries) name codec fallback value := by
  rwa [ProvidesField, Value.entryDocuments_eq_map, Document.lookup_keyed, found]

theorem providesField_of_absent {fallback : Option α} {value : α}
    (absent : entries.lookup name = none) (stands : (fallback <|> codec.absent) = some value) :
    ProvidesField .settings (Value.entryDocuments entries) name codec fallback value := by
  rwa [ProvidesField, Value.entryDocuments_eq_map, Document.lookup_keyed, absent]

theorem providesField_defaulted {value : Option α} (gives : entries.Gives name codec value)
    (fallback : α) :
    ProvidesField .settings (Value.entryDocuments entries) name codec (some fallback)
      (value.getD fallback) := by
  cases value with
  | none => exact providesField_of_absent gives rfl
  | some value =>
      obtain ⟨content, found, read⟩ := gives
      exact providesField_of_found found read

theorem providesField_optional {value : Option α} (gives : entries.Gives name codec value) :
    ProvidesField .settings (Value.entryDocuments entries) name (Codec.optional codec) (some none)
      value := by
  cases value with
  | none => exact providesField_of_absent gives rfl
  | some value =>
      obtain ⟨content, found, read⟩ := gives
      refine providesField_of_found found ?_
      rw [Codec.read_optional content.toDocument_ne_null, read]
      rfl

theorem providesField_required {value : α} (gives : entries.Gives name codec (some value)) :
    ProvidesField .settings (Value.entryDocuments entries) name codec none value := by
  obtain ⟨content, found, read⟩ := gives
  exact providesField_of_found found read

/-- A section that is left out is one without entries. -/
theorem providesField_section {ρ σ : Type} {typeName : String} {layout : Layout ρ σ}
    {ofRow : ρ → α} {toRow : α → ρ} {fallback : α} {inner : Entries} {row : ρ}
    (distinct : entries.Distinct) (found : entries.section? name = some inner)
    (different : layout.Distinct)
    (empty : (layout.read typeName .settings (.object [] true)).map ofRow = .ok fallback)
    (provides : layout.Provides .settings (Value.entryDocuments inner) row) :
    ProvidesField .settings (Value.entryDocuments entries) name
      (Codec.record typeName layout ofRow toRow) (some fallback) (ofRow row) := by
  have sound := (distinct.section? found).soundFields
  have read := provides.read_object different sound typeName
  rw [Entries.section?] at found
  split at found
  next absent =>
    cases found
    have same : fallback = ofRow row :=
      Except.ok.inj (empty.symm.trans (congrArg (Except.map ofRow) read))
    exact providesField_of_absent absent (congrArg some same)
  next kind table present =>
    cases found
    exact providesField_of_found present (congrArg (Except.map ofRow) read)
  next => cases found

end Layout

namespace Config

open Toml

/-! ### What a file gives -/

/-- The settings of a section for the chain server, each if it is there. -/
structure ChainServerLayer where
  rpcUrl : Option String
  rpcUser : Option String
  rpcPassword : Option String
  cookie : Option String

/-- The settings of a file, each if it is there. -/
structure Layer where
  implementation : Option Implementation
  network : Option String
  rpcSocket : Option String
  restUrl : Option String
  rune : Option String
  caCert : Option String
  cliPath : Option String
  chainServer : Option ChainServerLayer
  retryDelay : Option UInt64
  pollInterval : Option UInt64
  requestCapacity : Option UInt64
  blockCapacity : Option UInt64
  level : Option String
  file : Option String

/-- A table has these settings in its section for the chain server. -/
structure ChainServerLayer.GivenBy (server : ChainServerLayer) (entries : Entries) : Prop where
  rpcUrl : entries.Gives "rpc_url" Codec.text server.rpcUrl
  rpcUser : entries.Gives "rpc_user" Codec.text server.rpcUser
  rpcPassword : entries.Gives "rpc_password" Codec.text server.rpcPassword
  cookie : entries.Gives "cookie" Codec.text server.cookie

namespace Layer

def empty : Layer where
  implementation := none
  network := none
  rpcSocket := none
  restUrl := none
  rune := none
  caCert := none
  cliPath := none
  chainServer := none
  retryDelay := none
  pollInterval := none
  requestCapacity := none
  blockCapacity := none
  level := none
  file := none

/-- A file has these settings and no others that are known. -/
structure GivenBy (layer : Layer) (entries : Entries) : Prop where
  implementation :
    entries.GivesIn "backend" "implementation" Implementation.codec layer.implementation
  network : entries.GivesIn "backend" "network" Codec.text layer.network
  rpcSocket : entries.GivesIn "core_lightning" "rpc_socket" Codec.text layer.rpcSocket
  restUrl : entries.GivesIn "core_lightning" "rest_url" Codec.text layer.restUrl
  rune : entries.GivesIn "core_lightning" "rune" Codec.text layer.rune
  caCert : entries.GivesIn "core_lightning" "ca_cert" Codec.text layer.caCert
  cliPath : entries.GivesIn "core_lightning" "cli_path" Codec.text layer.cliPath
  chainServer :
    match layer.chainServer with
    | none => entries.lookup "bitcoind" = none
    | some server =>
        ∃ kind inner, entries.lookup "bitcoind" = some (.table kind inner) ∧ server.GivenBy inner
  retryDelay : entries.GivesIn "connection" "retry_delay_ms" Codec.word64 layer.retryDelay
  pollInterval :
    entries.GivesIn "subscriptions" "forward_poll_interval_ms" Codec.word64 layer.pollInterval
  requestCapacity :
    entries.GivesIn "cache" "pay_request_capacity" Codec.size layer.requestCapacity
  blockCapacity : entries.GivesIn "cache" "block_capacity" Codec.size layer.blockCapacity
  level : entries.GivesIn "logging" "level" Codec.text layer.level
  file : entries.GivesIn "logging" "file" Codec.text layer.file

/-- A section for the chain server has its URL. -/
def Complete (layer : Layer) : Prop :=
  ∀ server, layer.chainServer = some server → server.rpcUrl.isSome

/-- Field by field: a variable if it is set, or else the setting of the file, or else the standard
one. A chain server needs a URL. -/
def under (layer : Layer) (given : String → Option String) (interval : Option UInt64) :
    Config where
  backend :=
    { implementation := layer.implementation.getD standard.backend.implementation
      network := (given "LN_NETWORK" <|> layer.network).getD standard.backend.network }
  daemon :=
    { rpcSocket := given "CLN_RPC_SOCKET" <|> layer.rpcSocket <|> standard.daemon.rpcSocket
      restUrl := given "CLN_REST_URL" <|> layer.restUrl <|> standard.daemon.restUrl
      rune := given "CLN_RUNE" <|> layer.rune <|> standard.daemon.rune
      caCert := given "CLN_CA_CERT" <|> layer.caCert <|> standard.daemon.caCert
      cliPath := layer.cliPath.getD standard.daemon.cliPath }
  chainServer :=
    (given "BITCOIND_RPC_URL" <|> layer.chainServer.bind ChainServerLayer.rpcUrl).map fun url =>
      { rpcUrl := url
        rpcUser := given "BITCOIND_RPC_USER" <|> layer.chainServer.bind ChainServerLayer.rpcUser
        rpcPassword :=
          given "BITCOIND_RPC_PASSWORD" <|> layer.chainServer.bind ChainServerLayer.rpcPassword
        cookie := given "BITCOIND_COOKIE" <|> layer.chainServer.bind ChainServerLayer.cookie }
  connection := { retryDelay := layer.retryDelay.getD standard.connection.retryDelay }
  subscriptions :=
    { pollInterval := (interval <|> layer.pollInterval).getD standard.subscriptions.pollInterval }
  cache :=
    { requestCapacity := layer.requestCapacity.getD standard.cache.requestCapacity
      blockCapacity := layer.blockCapacity.getD standard.cache.blockCapacity }
  logging :=
    { level := layer.level.getD standard.logging.level
      file := layer.file <|> standard.logging.file }

/-- The settings of the file above the standard ones. -/
def alone (layer : Layer) : Config := layer.under (fun _ => none) none

theorem applyDaemon_alone (environment : Environment) (layer : Layer) (interval : Option UInt64) :
    applyDaemon environment layer.alone.daemon =
      (layer.under environment.filled? interval).daemon := by
  simp [applyDaemon, alone, under, Environment.orKeep]

/-- With the URL in the section, it does not matter that the section is read before the variables
are. -/
theorem applyChainServer_alone {environment : Environment} {layer : Layer}
    (interval : Option UInt64) (complete : layer.Complete) :
    applyChainServer environment layer.alone.chainServer =
      (layer.under environment.filled? interval).chainServer := by
  simp only [applyChainServer, alone, under, Environment.orKeep]
  cases present : layer.chainServer with
  | none => cases environment.filled? "BITCOIND_RPC_URL" <;> simp
  | some server =>
      obtain ⟨url, located⟩ := Option.isSome_iff_exists.mp (complete server present)
      cases environment.filled? "BITCOIND_RPC_URL" <;> simp [located]

theorem applyEnvironment_alone {environment : Environment} {layer : Layer}
    {interval : Option UInt64} (complete : layer.Complete)
    (read : environment.interval? = .ok interval) :
    applyEnvironment environment layer.alone = .ok (layer.under environment.filled? interval) := by
  refine applyEnvironment_eq_ok_iff.mpr ⟨interval, read, ?_⟩
  rw [applyDaemon_alone environment layer interval, applyChainServer_alone interval complete]
  have network :
      (environment.filled? "LN_NETWORK" <|> layer.network).getD standard.backend.network =
        (environment.filled? "LN_NETWORK").getD layer.alone.backend.network := by
    cases environment.filled? "LN_NETWORK" <;> rfl
  have poll : (interval <|> layer.pollInterval).getD standard.subscriptions.pollInterval =
      interval.getD layer.alone.subscriptions.pollInterval := by
    cases interval <;> rfl
  rw [← network, ← poll]
  rfl

end Layer

/-! ### Reading a file -/

namespace Layer

variable {layer : Layer} {entries : Entries}

theorem GivenBy.providesField_backend (given : layer.GivenBy entries)
    (distinct : entries.Distinct) :
    Layout.ProvidesField .settings (Value.entryDocuments entries) "backend" BackendConfig.codec
      (some .standard) layer.alone.backend := by
  obtain ⟨inner, found, -⟩ := given.implementation
  have provides : BackendConfig.layout.Provides .settings (Value.entryDocuments inner)
      (layer.implementation.getD .coreLightning, layer.network.getD "bitcoin", ()) :=
    ⟨Layout.providesField_defaulted (given.implementation.gives found) _,
      Layout.providesField_defaulted (given.network.gives found) _, trivial⟩
  exact Layout.providesField_section distinct found (by decide) rfl provides

theorem GivenBy.providesField_daemon (given : layer.GivenBy entries)
    (distinct : entries.Distinct) :
    Layout.ProvidesField .settings (Value.entryDocuments entries) "core_lightning"
      DaemonConfig.codec (some .standard) layer.alone.daemon := by
  obtain ⟨inner, found, -⟩ := given.rpcSocket
  have provides : DaemonConfig.layout.Provides .settings (Value.entryDocuments inner)
      (layer.rpcSocket, layer.restUrl, layer.rune, layer.caCert,
        layer.cliPath.getD "lightning-cli", ()) :=
    ⟨Layout.providesField_optional (given.rpcSocket.gives found),
      Layout.providesField_optional (given.restUrl.gives found),
      Layout.providesField_optional (given.rune.gives found),
      Layout.providesField_optional (given.caCert.gives found),
      Layout.providesField_defaulted (given.cliPath.gives found) _, trivial⟩
  have same : layer.alone.daemon =
      { rpcSocket := layer.rpcSocket, restUrl := layer.restUrl, rune := layer.rune
        caCert := layer.caCert, cliPath := layer.cliPath.getD "lightning-cli" } := by
    simp [alone, under, standard, DaemonConfig.standard, Implementation.commandLineClient]
  rw [same]
  exact Layout.providesField_section distinct found (by decide) rfl provides

theorem GivenBy.providesField_chainServer (given : layer.GivenBy entries)
    (distinct : entries.Distinct) (complete : layer.Complete) :
    Layout.ProvidesField .settings (Value.entryDocuments entries) "bitcoind"
      (Codec.optional ChainServerConfig.codec) (some none) layer.alone.chainServer := by
  have chainServer := given.chainServer
  cases present : layer.chainServer with
  | none =>
      rw [present] at chainServer
      refine Layout.providesField_of_absent chainServer ?_
      simp [alone, under, present]
  | some server =>
      rw [present] at chainServer
      obtain ⟨kind, inner, found, server_given⟩ := chainServer
      obtain ⟨url, located⟩ := Option.isSome_iff_exists.mp (complete server present)
      have rpcUrl := server_given.rpcUrl
      rw [located] at rpcUrl
      have provides : ChainServerConfig.layout.Provides .settings (Value.entryDocuments inner)
          (url, server.rpcUser, server.rpcPassword, server.cookie, ()) :=
        ⟨Layout.providesField_required rpcUrl,
          Layout.providesField_optional server_given.rpcUser,
          Layout.providesField_optional server_given.rpcPassword,
          Layout.providesField_optional server_given.cookie, trivial⟩
      have sound := (Value.distinct_table_iff.mp (distinct.of_lookup found)).soundFields
      have read := provides.read_object (by decide) sound "BitcoindConfig"
      have same : layer.alone.chainServer =
          some { rpcUrl := url, rpcUser := server.rpcUser, rpcPassword := server.rpcPassword
                 cookie := server.cookie } := by
        simp [alone, under, present, located]
      rw [same]
      exact Layout.providesField_of_found found (congrArg (Except.map some ∘ Except.map _) read)

theorem GivenBy.providesField_connection (given : layer.GivenBy entries)
    (distinct : entries.Distinct) :
    Layout.ProvidesField .settings (Value.entryDocuments entries) "connection"
      ConnectionConfig.codec (some .standard) layer.alone.connection := by
  obtain ⟨inner, found, gives⟩ := given.retryDelay
  have provides : ConnectionConfig.layout.Provides .settings (Value.entryDocuments inner)
      (layer.retryDelay.getD 2000, ()) :=
    ⟨Layout.providesField_defaulted gives _, trivial⟩
  exact Layout.providesField_section distinct found (by decide) rfl provides

theorem GivenBy.providesField_subscriptions (given : layer.GivenBy entries)
    (distinct : entries.Distinct) :
    Layout.ProvidesField .settings (Value.entryDocuments entries) "subscriptions"
      SubscriptionConfig.codec (some .standard) layer.alone.subscriptions := by
  obtain ⟨inner, found, gives⟩ := given.pollInterval
  have provides : SubscriptionConfig.layout.Provides .settings (Value.entryDocuments inner)
      (layer.pollInterval.getD 2000, ()) :=
    ⟨Layout.providesField_defaulted gives _, trivial⟩
  exact Layout.providesField_section distinct found (by decide) rfl provides

theorem GivenBy.providesField_cache (given : layer.GivenBy entries)
    (distinct : entries.Distinct) :
    Layout.ProvidesField .settings (Value.entryDocuments entries) "cache" CacheConfig.codec
      (some .standard) layer.alone.cache := by
  obtain ⟨inner, found, gives⟩ := given.requestCapacity
  have provides : CacheConfig.layout.Provides .settings (Value.entryDocuments inner)
      (layer.requestCapacity.getD 1024, layer.blockCapacity.getD 4096, ()) :=
    ⟨Layout.providesField_defaulted gives _,
      Layout.providesField_defaulted (given.blockCapacity.gives found) _, trivial⟩
  exact Layout.providesField_section distinct found (by decide) rfl provides

theorem GivenBy.providesField_logging (given : layer.GivenBy entries)
    (distinct : entries.Distinct) :
    Layout.ProvidesField .settings (Value.entryDocuments entries) "logging" LogConfig.codec
      (some .standard) layer.alone.logging := by
  obtain ⟨inner, found, gives⟩ := given.level
  have provides : LogConfig.layout.Provides .settings (Value.entryDocuments inner)
      (layer.level.getD "info", layer.file, ()) :=
    ⟨Layout.providesField_defaulted gives _,
      Layout.providesField_optional (given.file.gives found), trivial⟩
  have same : layer.alone.logging =
      { level := layer.level.getD "info", file := layer.file } := by
    simp [alone, under, standard, LogConfig.standard]
  rw [same]
  exact Layout.providesField_section distinct found (by decide) rfl provides

/-- The standard values of the keys are those of the sections. -/
theorem GivenBy.ofText {text : String} (given : layer.GivenBy entries)
    (complete : layer.Complete) (read : Toml.read text = some entries) :
    ofText text = .ok layer.alone := by
  have distinct := distinct_of_read read
  have provides : Config.layout.Provides .settings (Value.entryDocuments entries)
      (layer.alone.backend, layer.alone.daemon, layer.alone.chainServer, layer.alone.connection,
        layer.alone.subscriptions, layer.alone.cache, layer.alone.logging, ()) :=
    ⟨given.providesField_backend distinct, given.providesField_daemon distinct,
      given.providesField_chainServer distinct complete, given.providesField_connection distinct,
      given.providesField_subscriptions distinct, given.providesField_cache distinct,
      given.providesField_logging distinct, trivial⟩
  have found := provides.read_object (by decide) distinct.soundFields "Config"
  have decoded : Config.codec.read .settings (Value.table .headed entries).toDocument =
      .ok layer.alone := congrArg (Except.map _) found
  rw [Config.ofText, read]
  simp only [decoded]

theorem exists_error_of_missing_url {server : ChainServerLayer} {inner : Entries}
    (given : server.GivenBy inner) (missing : server.rpcUrl = none) (kind : TableKind) :
    ∃ error, ChainServerConfig.codec.read .settings (Value.table kind inner).toDocument =
      .error error := by
  have rpcUrl := given.rpcUrl
  rw [missing] at rpcUrl
  have unnamed : some "rpc_url" ∉ (Value.entryDocuments inner).map Prod.fst := by
    have fresh := lookup_eq_none_iff_notMem.mp rpcUrl
    simpa [Value.entryDocuments_eq_map] using fresh
  obtain ⟨error, refused⟩ : ∃ error, ChainServerConfig.layout.read "BitcoindConfig" .settings
      (.object (Value.entryDocuments inner) true) = .error error :=
    Layout.exists_error_of_missing rfl unnamed true
  exact ⟨error, congrArg (Except.map _) refused⟩

/-- A section for the chain server that does not give the URL spoils the file. -/
theorem GivenBy.ofText_incomplete {text : String} (given : layer.GivenBy entries)
    (incomplete : ¬layer.Complete) (read : Toml.read text = some entries) :
    Config.ofText text = .error .parse := by
  obtain ⟨server, present, missing⟩ : ∃ server, layer.chainServer = some server ∧
      server.rpcUrl = none := by
    simpa [Complete] using incomplete
  have chainServer := given.chainServer
  rw [present] at chainServer
  obtain ⟨kind, inner, found, server_given⟩ := chainServer
  obtain ⟨error, refused⟩ := exists_error_of_missing_url server_given missing kind
  have member : (some "bitcoind", (Value.table kind inner).toDocument) ∈
      Value.entryDocuments entries := by
    rw [Value.entryDocuments_eq_map]
    obtain ⟨before, after, rfl, -⟩ := List.lookup_eq_some_iff.mp found
    simp
  rw [Config.ofText, read]
  cases decoded : Config.codec.read .settings (Value.table .headed entries).toDocument with
  | error error => simp only [decoded]
  | ok config =>
      obtain ⟨value, readable⟩ : ∃ value, (Codec.optional ChainServerConfig.codec).read .settings
          (Value.table kind inner).toDocument = .ok value :=
        Codec.readable_of_read member decoded
      rw [Codec.read_optional (Value.toDocument_ne_null _), refused] at readable
      cases readable

end Layer

/-! ### Loading -/

/-- The file at a path has these settings. -/
def FileGives (files : FileSystem) (path : String) (layer : Layer) : Prop :=
  ∃ text entries, files.readText path = .ok text ∧ Toml.read text = some entries ∧
    layer.GivenBy entries

/-- The settings that are loaded: those of the file at the given path, or else of the file at the
standard path, or else none. -/
inductive Supplied (files : FileSystem) (environment : Environment) :
    Option String → Layer → Prop where
  | given {path : String} {layer : Layer} (gives : FileGives files path layer) :
      Supplied files environment (some path) layer
  | standard {path : String} {layer : Layer} (place : standardPath environment = .ok path)
      (gives : FileGives files path layer) : Supplied files environment none layer
  | nothing (free : ∀ path, standardPath environment = .ok path → files.hasEntry path = false) :
      Supplied files environment none .empty

theorem hasEntry_of_readText {files : FileSystem} {path text : String}
    (read : files.readText path = .ok text) : files.hasEntry path = true := by
  rw [FileSystem.readText, FileSystem.read] at read
  rw [FileSystem.hasEntry]
  cases found : files.find path with
  | error fault => simp [found] at read
  | ok entry => rfl

section Load

variable {files : FileSystem} {environment : Environment} {path : Option String} {layer : Layer}

/-- What a file gives is read, unless a section for the chain server lacks the URL. -/
def Outcome (layer : Layer) (outcome : Except ConfigError Config) : Prop :=
  (layer.Complete → outcome = .ok layer.alone) ∧ (¬layer.Complete → outcome = .error .parse)

theorem FileGives.outcome {path : String} (gives : FileGives files path layer) :
    files.hasEntry path = true ∧ Outcome layer (fromFile files path) := by
  obtain ⟨text, entries, readText, read, given⟩ := gives
  refine ⟨hasEntry_of_readText readText, ?_, ?_⟩
  · intro complete
    rw [fromFile, readText]
    exact given.ofText complete read
  · intro incomplete
    rw [fromFile, readText]
    exact given.ofText_incomplete incomplete read

/-- The environment is applied to what the file and the standard configuration give. -/
theorem Supplied.load_eq (supplied : Supplied files environment path layer) :
    ∃ outcome, Outcome layer outcome ∧
      load files environment path = outcome >>= applyEnvironment environment := by
  cases supplied with
  | given gives =>
      obtain ⟨present, outcome⟩ := gives.outcome
      refine ⟨_, outcome, ?_⟩
      simp only [load, present, if_true]
  | standard place gives =>
      obtain ⟨present, outcome⟩ := gives.outcome
      refine ⟨_, outcome, ?_⟩
      simp only [load, fromStandardPath, place, present, if_true]
  | nothing free =>
      have outcome : fromStandardPath files environment = .ok .standard := by
        rw [fromStandardPath]
        cases place : standardPath environment with
        | error error => rfl
        | ok path => simp [free path place]
      refine ⟨.ok .standard, ⟨fun _ => rfl, fun incomplete => absurd nofun incomplete⟩, ?_⟩
      simp only [load, outcome]

/-- The environment goes before the file and the file before the standard configuration, field by
field: applied once or twice, variables that are set replace their settings, and nothing else
changes. A file whose section for the chain server lacks the URL cannot be loaded, whatever the
variables give. -/
theorem environment_over_file_over_standard {config result : Config}
    (applied : applyEnvironment environment config = .ok result) :
    applyEnvironment environment result = .ok result ∧
    Overridden environment config result ∧
    ∃ interval, environment.interval? = .ok interval ∧
      ∀ (files : FileSystem) (path : Option String) (layer : Layer),
        Supplied files environment path layer →
        (layer.Complete →
          load files environment path = .ok (layer.under environment.filled? interval)) ∧
        (¬layer.Complete → load files environment path = .error .parse) := by
  obtain ⟨interval, read, -⟩ := applyEnvironment_eq_ok_iff.mp applied
  refine ⟨applied_again applied, overridden_of_applied applied, interval, read, ?_⟩
  intro files path layer supplied
  obtain ⟨outcome, ⟨whole, spoilt⟩, loaded⟩ := supplied.load_eq
  constructor
  · intro complete
    rw [loaded, whole complete]
    exact Layer.applyEnvironment_alone complete read
  · intro incomplete
    rw [loaded, spoilt incomplete]
    rfl

end Load

def networkText : String :=
  "[backend]\nnetwork = \"testnet\"\n[bitcoind]\nrpc_url = \"http://file\"\ncookie = \"/cookie\"\n"

/-- A section for the chain server that leaves the URL to the environment. -/
def userText : String := "[bitcoind]\nrpc_user = \"alice\"\n"

def configFiles : FileSystem where
  entries :=
    [(["etc", "network.toml"], .file networkText.toUTF8.data.toList),
      (["etc", "user.toml"], .file userText.toUTF8.data.toList)]
  workingDirectory := []

def networkLayer : Layer where
  implementation := none
  network := some "testnet"
  rpcSocket := none
  restUrl := none
  rune := none
  caCert := none
  cliPath := none
  chainServer :=
    some { rpcUrl := some "http://file", rpcUser := none, rpcPassword := none
           cookie := some "/cookie" }
  retryDelay := none
  pollInterval := none
  requestCapacity := none
  blockCapacity := none
  level := none
  file := none

def userLayer : Layer :=
  { Layer.empty with
    chainServer :=
      some { rpcUrl := none, rpcUser := some "alice", rpcPassword := none, cookie := none } }

def chainServerEnvironment : Environment where
  entries :=
    [("CLN_RPC_SOCKET", "/run/rpc"), ("LN_NETWORK", " "), ("BITCOIND_RPC_URL", "http://node"),
      ("BITCOIND_RPC_USER", "bob")]
  accountHome := none

def networkEntries : Entries :=
  [("backend", .table .headed [("network", .text "testnet")]),
    ("bitcoind", .table .headed [("rpc_url", .text "http://file"), ("cookie", .text "/cookie")])]

def userEntries : Entries := [("bitcoind", .table .headed [("rpc_user", .text "alice")])]

theorem givenBy_networkEntries : networkLayer.GivenBy networkEntries where
  implementation := ⟨_, rfl, rfl⟩
  network := ⟨_, rfl, _, rfl, rfl⟩
  rpcSocket := ⟨_, rfl, rfl⟩
  restUrl := ⟨_, rfl, rfl⟩
  rune := ⟨_, rfl, rfl⟩
  caCert := ⟨_, rfl, rfl⟩
  cliPath := ⟨_, rfl, rfl⟩
  chainServer := ⟨_, _, rfl, ⟨_, rfl, rfl⟩, rfl, rfl, ⟨_, rfl, rfl⟩⟩
  retryDelay := ⟨_, rfl, rfl⟩
  pollInterval := ⟨_, rfl, rfl⟩
  requestCapacity := ⟨_, rfl, rfl⟩
  blockCapacity := ⟨_, rfl, rfl⟩
  level := ⟨_, rfl, rfl⟩
  file := ⟨_, rfl, rfl⟩

theorem givenBy_userEntries : userLayer.GivenBy userEntries where
  implementation := ⟨_, rfl, rfl⟩
  network := ⟨_, rfl, rfl⟩
  rpcSocket := ⟨_, rfl, rfl⟩
  restUrl := ⟨_, rfl, rfl⟩
  rune := ⟨_, rfl, rfl⟩
  caCert := ⟨_, rfl, rfl⟩
  cliPath := ⟨_, rfl, rfl⟩
  chainServer := ⟨_, _, rfl, rfl, ⟨_, rfl, rfl⟩, rfl, rfl⟩
  retryDelay := ⟨_, rfl, rfl⟩
  pollInterval := ⟨_, rfl, rfl⟩
  requestCapacity := ⟨_, rfl, rfl⟩
  blockCapacity := ⟨_, rfl, rfl⟩
  level := ⟨_, rfl, rfl⟩
  file := ⟨_, rfl, rfl⟩

theorem supplied_networkLayer :
    Supplied configFiles chainServerEnvironment (some "/etc/network.toml") networkLayer := by
  have read : Toml.read networkText = some networkEntries := by with_unfolding_all rfl
  exact .given ⟨networkText, networkEntries, by decide +kernel, read, givenBy_networkEntries⟩

theorem supplied_userLayer :
    Supplied configFiles chainServerEnvironment (some "/etc/user.toml") userLayer := by
  have read : Toml.read userText = some userEntries := by with_unfolding_all rfl
  exact .given ⟨userText, userEntries, by decide +kernel, read, givenBy_userEntries⟩

theorem complete_networkLayer : networkLayer.Complete := by
  rintro server ⟨⟩
  rfl

theorem not_complete_userLayer : ¬userLayer.Complete := fun complete => by
  have located := complete _ rfl
  cases located

/-- Both files under one environment: a whole section is covered key by key, and one without its
URL is refused. -/
theorem layers_of_chainServerEnvironment :
    ∃ result, applyEnvironment chainServerEnvironment .standard = .ok result ∧
      applyEnvironment chainServerEnvironment result = .ok result ∧
      Overridden chainServerEnvironment .standard result ∧
      Supplied configFiles chainServerEnvironment (some "/etc/network.toml") networkLayer ∧
      networkLayer.Complete ∧
      load configFiles chainServerEnvironment (some "/etc/network.toml") =
        .ok { Config.standard with
              backend := { implementation := .coreLightning, network := "testnet" }
              daemon := { DaemonConfig.standard with rpcSocket := some "/run/rpc" }
              chainServer :=
                some { rpcUrl := "http://node", rpcUser := some "bob", rpcPassword := none
                       cookie := some "/cookie" } } ∧
      Supplied configFiles chainServerEnvironment (some "/etc/user.toml") userLayer ∧
      ¬userLayer.Complete ∧
      load configFiles chainServerEnvironment (some "/etc/user.toml") = .error .parse := by
  have unset : chainServerEnvironment.get? Environment.intervalVariable = none := by decide
  obtain ⟨result, applied⟩ := exists_applied_of_unset unset .standard
  obtain ⟨again, overridden, interval, read, loaded⟩ := environment_over_file_over_standard applied
  cases (Environment.interval?_of_unset unset).symm.trans read
  have network := (loaded _ _ _ supplied_networkLayer).1 complete_networkLayer
  have user := (loaded _ _ _ supplied_userLayer).2 not_complete_userLayer
  exact ⟨_, applied, again, overridden, supplied_networkLayer, complete_networkLayer,
    network.trans (by decide), supplied_userLayer, not_complete_userLayer, user⟩

/-- The URL of a chain server cannot be left to the environment if its section is in the file. -/
theorem url_not_left_to_environment :
    ¬∀ (files : FileSystem) (environment : Environment) (path : Option String) (layer : Layer)
        (interval : Option UInt64),
      Supplied files environment path layer → environment.interval? = .ok interval →
      load files environment path = .ok (layer.under environment.filled? interval) := by
  intro layered
  have unset : chainServerEnvironment.interval? = .ok none :=
    Environment.interval?_of_unset (by decide)
  have loaded := layered _ _ _ _ none supplied_userLayer unset
  obtain ⟨outcome, ⟨-, spoilt⟩, refused⟩ := supplied_userLayer.load_eq
  rw [refused, spoilt not_complete_userLayer] at loaded
  cases loaded

end Config

end LightningGateway
