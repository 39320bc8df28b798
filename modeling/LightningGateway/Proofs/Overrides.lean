import Mathlib.Data.List.TakeWhile
import LightningGateway.Config.Environment

/-!
# The environment above a configuration

Each variable of the environment goes before one setting. A variable that holds nothing but blanks
counts as not set, so its setting stays as it is. The variable of the interval is the exception: it
is read as a number, and blanks are none.
-/

namespace LightningGateway

/-! ### Variables -/

namespace Environment

/-- A variable is set to more than blanks. -/
def Fills (environment : Environment) (name : String) : Prop :=
  ∃ text, environment.get? name = some text ∧ Text.isBlankText text = false

theorem filled?_eq_some_iff {environment : Environment} {name text : String} :
    environment.filled? name = some text ↔
      environment.get? name = some text ∧ Text.isBlankText text = false := by
  rw [filled?, Option.filter_eq_some_iff, Bool.not_eq_true']

theorem filled?_eq_none_iff {environment : Environment} {name : String} :
    environment.filled? name = none ↔
      ∀ text, environment.get? name = some text → Text.isBlankText text = true := by
  rw [filled?, Option.filter_eq_none_iff]
  simp

theorem isSome_filled?_iff {environment : Environment} {name : String} :
    (environment.filled? name).isSome ↔ environment.Fills name := by
  simp only [Option.isSome_iff_exists, filled?_eq_some_iff, Fills]

theorem trimmed_of_blank {text : String} (blank : Text.isBlankText text = true) :
    Text.trimmed text.toList = [] := by
  have dropped : text.toList.dropWhile Text.isBlank = [] :=
    List.dropWhile_eq_nil_iff.mpr (List.all_eq_true.mp blank)
  rw [Text.trimmed, dropped]
  rfl

theorem interval?_of_unset {environment : Environment}
    (unset : environment.get? intervalVariable = none) : environment.interval? = .ok none := by
  rw [interval?, unset]

/-- Blanks are no number of seconds. -/
theorem interval?_of_blank {environment : Environment} {text : String}
    (set : environment.get? intervalVariable = some text) (blank : Text.isBlankText text = true) :
    environment.interval? =
      .error (.invalidValue intervalVariable ("cannot parse " ++ Text.quoted text)) := by
  have unread : Binary64.readNumeral? [] = none := rfl
  rw [interval?, set]
  simp only [trimmed_of_blank blank, unread]

theorem interval?_congr {first second : Environment}
    (same : first.get? intervalVariable = second.get? intervalVariable) :
    first.interval? = second.interval? := by
  rw [interval?, interval?, same]

/-- The interval is given exactly if its variable is set. -/
theorem isSome_of_interval? {environment : Environment} {interval : Option UInt64} {text : String}
    (set : environment.get? intervalVariable = some text)
    (read : environment.interval? = .ok interval) : interval.isSome := by
  rw [interval?, set] at read
  dsimp only at read
  split at read
  · cases read
  · split at read
    · cases read
      rfl
    · cases read
  · cases read

end Environment

namespace Config

/-- A setting that is a text, and that a variable may give. -/
inductive TextSetting where
  | rpcSocket
  | restUrl
  | rune
  | caCert
  | network
  | chainServerUrl
  | chainServerUser
  | chainServerPassword
  | chainServerCookie
  deriving Repr, DecidableEq

namespace TextSetting

def variableName : TextSetting → String
  | rpcSocket => "CLN_RPC_SOCKET"
  | restUrl => "CLN_REST_URL"
  | rune => "CLN_RUNE"
  | caCert => "CLN_CA_CERT"
  | network => "LN_NETWORK"
  | chainServerUrl => "BITCOIND_RPC_URL"
  | chainServerUser => "BITCOIND_RPC_USER"
  | chainServerPassword => "BITCOIND_RPC_PASSWORD"
  | chainServerCookie => "BITCOIND_COOKIE"

def all : List TextSetting :=
  [rpcSocket, restUrl, rune, caCert, network, chainServerUrl, chainServerUser,
    chainServerPassword, chainServerCookie]

/-- The text of a setting, if the configuration has one. -/
def value (config : Config) : TextSetting → Option String
  | rpcSocket => config.daemon.rpcSocket
  | restUrl => config.daemon.restUrl
  | rune => config.daemon.rune
  | caCert => config.daemon.caCert
  | network => some config.backend.network
  | chainServerUrl => config.chainServer.map ChainServerConfig.rpcUrl
  | chainServerUser => config.chainServer.bind ChainServerConfig.rpcUser
  | chainServerPassword => config.chainServer.bind ChainServerConfig.rpcPassword
  | chainServerCookie => config.chainServer.bind ChainServerConfig.cookie

/-- The settings of the chain server that do not make a section for it. -/
def isCredential : TextSetting → Bool
  | chainServerUser | chainServerPassword | chainServerCookie => true
  | _ => false

/-- The setting has a place: a credential needs a chain server, in the configuration or by the
variable of its URL. -/
def Placed (environment : Environment) (config : Config) (setting : TextSetting) : Prop :=
  setting.isCredential → config.chainServer.isSome ∨ environment.Fills chainServerUrl.variableName

end TextSetting

/-- The variables of credentials. -/
def credentialNames : List String :=
  ["BITCOIND_RPC_USER", "BITCOIND_RPC_PASSWORD", "BITCOIND_COOKIE"]

/-- The variables that go before settings. -/
def variableNames : List String :=
  Environment.intervalVariable :: TextSetting.all.map TextSetting.variableName

/-- An environment counts only by its variables that hold more than blanks, and by the interval. -/
theorem applyEnvironment_congr {first second : Environment}
    (filled : ∀ setting : TextSetting,
      first.filled? setting.variableName = second.filled? setting.variableName)
    (interval : first.interval? = second.interval?) (config : Config) :
    applyEnvironment first config = applyEnvironment second config := by
  have socket := filled .rpcSocket
  have url := filled .restUrl
  have rune := filled .rune
  have caCert := filled .caCert
  have network := filled .network
  have server := filled .chainServerUrl
  have user := filled .chainServerUser
  have password := filled .chainServerPassword
  have cookie := filled .chainServerCookie
  dsimp only [TextSetting.variableName] at *
  simp only [applyEnvironment, applyDaemon, applyChainServer, Environment.orKeep, socket, url, rune,
    caCert, network, server, user, password, cookie, interval]

/-! ### Blank variables -/

/-- Some variables that are not set in an environment are set to blanks. -/
def Blanks (environment blanked : Environment) : Prop :=
  ∀ name, blanked.get? name = environment.get? name ∨
    name ∈ variableNames ∧ environment.get? name = none ∧
      ∃ text, blanked.get? name = some text ∧ Text.isBlankText text = true

theorem Blanks.filled?_eq {environment blanked : Environment} (blanks : Blanks environment blanked)
    (name : String) : blanked.filled? name = environment.filled? name := by
  rcases blanks name with same | ⟨-, unset, text, set, blank⟩
  · rw [Environment.filled?, Environment.filled?, same]
  · rw [Environment.filled?, Environment.filled?, unset, set]
    simp [blank]

theorem exists_applied_of_unset {environment : Environment}
    (unset : environment.get? Environment.intervalVariable = none) (config : Config) :
    ∃ result, applyEnvironment environment config = .ok result := by
  rw [applyEnvironment, Environment.interval?_of_unset unset]
  exact ⟨_, rfl⟩

theorem applyEnvironment_of_interval?_eq_error {environment : Environment} {error : ConfigError}
    (failed : environment.interval? = .error error) (config : Config) :
    applyEnvironment environment config = .error error := by
  rw [applyEnvironment, failed]
  rfl

/-- Variables that are set to blanks instead of not at all make no difference, exactly as long as
the one of the interval is not among them. With it the environment is refused. -/
theorem blanks_mean_unset_iff {environment blanked : Environment}
    (blanks : Blanks environment blanked) (config : Config) :
    (applyEnvironment blanked config = applyEnvironment environment config ↔
      blanked.get? Environment.intervalVariable =
        environment.get? Environment.intervalVariable) ∧
    (blanked.get? Environment.intervalVariable ≠
        environment.get? Environment.intervalVariable →
      (∃ result, applyEnvironment environment config = .ok result) ∧
      ∃ text, blanked.get? Environment.intervalVariable = some text ∧
        applyEnvironment blanked config =
          .error (.invalidValue Environment.intervalVariable
            ("cannot parse " ++ Text.quoted text))) := by
  rcases blanks Environment.intervalVariable with same | ⟨-, unset, text, set, blank⟩
  · have agree := applyEnvironment_congr (fun setting => blanks.filled?_eq setting.variableName)
      (Environment.interval?_congr same) config
    exact ⟨iff_of_true agree same, fun differ => absurd same differ⟩
  · have differ : blanked.get? Environment.intervalVariable ≠
        environment.get? Environment.intervalVariable := by
      rw [unset, set]
      nofun
    obtain ⟨result, applied⟩ := exists_applied_of_unset unset config
    have refused := applyEnvironment_of_interval?_eq_error
      (Environment.interval?_of_blank set blank) config
    refine ⟨iff_of_false ?_ differ, fun _ => ⟨⟨result, applied⟩, text, set, refused⟩⟩
    rw [applied, refused]
    nofun

theorem blanks_append {environment : Environment} {more : List (String × String)}
    (blank : ∀ entry ∈ more, entry.1 ∈ variableNames ∧ environment.get? entry.1 = none ∧
      Text.isBlankText entry.2 = true) :
    Blanks environment { environment with entries := environment.entries ++ more } := by
  intro name
  simp only [Environment.get?, List.lookup_append]
  cases found : more.lookup name with
  | none => exact .inl (by rw [Option.or_none])
  | some text =>
      obtain ⟨before, after, split, -⟩ := List.lookup_eq_some_iff.mp found
      obtain ⟨known, unset, blank⟩ := blank (name, text) (by simp [split])
      refine .inr ⟨known, unset, text, ?_, blank⟩
      rw [show environment.entries.lookup name = none from unset, Option.none_or]

def socketEnvironment : Environment :=
  ⟨[("HOME", "/root"), ("CLN_RPC_SOCKET", "/run/rpc")], none⟩

/-- A variable that is a text and one of a credential are blank. -/
def blankNetworkEnvironment : Environment :=
  { socketEnvironment with
    entries := socketEnvironment.entries ++ [("LN_NETWORK", ""), ("BITCOIND_RPC_USER", " \t")] }

def blankIntervalEnvironment : Environment :=
  { socketEnvironment with
    entries := socketEnvironment.entries ++ [("GATHER_LN_INFO_INTERVAL", " ")] }

theorem blanks_network : Blanks socketEnvironment blankNetworkEnvironment :=
  blanks_append (by decide)

theorem blanks_interval : Blanks socketEnvironment blankIntervalEnvironment :=
  blanks_append (by decide)

theorem blanks_mean_unset_but_interval :
    Blanks socketEnvironment blankNetworkEnvironment ∧
      applyEnvironment blankNetworkEnvironment .standard =
        applyEnvironment socketEnvironment .standard ∧
      Blanks socketEnvironment blankIntervalEnvironment ∧
      (∃ result, applyEnvironment socketEnvironment .standard = .ok result) ∧
      ∃ text, blankIntervalEnvironment.get? "GATHER_LN_INFO_INTERVAL" = some text ∧
        applyEnvironment blankIntervalEnvironment .standard =
          .error
            (.invalidValue "GATHER_LN_INFO_INTERVAL" ("cannot parse " ++ Text.quoted text)) := by
  have network := (blanks_mean_unset_iff blanks_network .standard).1.mpr (by decide)
  have interval := (blanks_mean_unset_iff blanks_interval .standard).2 (by decide)
  exact ⟨blanks_network, network, blanks_interval, interval⟩

/-- A blank interval keeps the program from starting. -/
theorem blank_interval_refused :
    ¬∀ environment blanked config, Blanks environment blanked →
      applyEnvironment blanked config = applyEnvironment environment config := by
  intro meant
  have same := meant _ _ .standard blanks_interval
  rw [applyEnvironment_of_interval?_eq_error
    (Environment.interval?_of_blank (show _ = some " " by decide) (by decide))] at same
  obtain ⟨result, applied⟩ :=
    exists_applied_of_unset (show socketEnvironment.get? _ = none by decide) .standard
  rw [applied] at same
  cases same

/-! ### What the variables give -/

section Applied

variable {environment : Environment} {config result : Config}

theorem applyEnvironment_eq_ok_iff :
    applyEnvironment environment config = .ok result ↔
      ∃ interval, environment.interval? = .ok interval ∧
        result =
          { config with
            daemon := applyDaemon environment config.daemon
            backend :=
              { config.backend with
                network := (environment.filled? "LN_NETWORK").getD config.backend.network }
            subscriptions :=
              { config.subscriptions with
                pollInterval := interval.getD config.subscriptions.pollInterval }
            chainServer := applyChainServer environment config.chainServer } := by
  rw [applyEnvironment]
  cases environment.interval? with
  | error error => simp [Except.map]
  | ok interval => simp [Except.map, eq_comm]

/-- A variable goes before the setting that was there, where the setting has a place. -/
theorem value_of_applied (applied : applyEnvironment environment config = .ok result)
    {setting : TextSetting} (placed : setting.Placed environment config) :
    setting.value result =
      (environment.filled? setting.variableName <|> setting.value config) := by
  obtain ⟨interval, -, rfl⟩ := applyEnvironment_eq_ok_iff.mp applied
  cases setting with
  | rpcSocket | restUrl | rune | caCert => rfl
  | network =>
      simp only [TextSetting.value, TextSetting.variableName]
      cases environment.filled? "LN_NETWORK" <;> rfl
  | chainServerUrl =>
      simp only [TextSetting.value, TextSetting.variableName, applyChainServer]
      cases environment.filled? "BITCOIND_RPC_URL" <;> cases config.chainServer <;> rfl
  | chainServerUser | chainServerPassword | chainServerCookie =>
      have located := placed rfl
      rw [← Environment.isSome_filled?_iff] at located
      simp only [TextSetting.value, TextSetting.variableName, applyChainServer,
        Environment.orKeep] at located ⊢
      cases url : environment.filled? "BITCOIND_RPC_URL" <;> cases server : config.chainServer
      · simp [url, server] at located
      all_goals simp

theorem not_placed_iff {setting : TextSetting} :
    ¬setting.Placed environment config ↔
      setting.isCredential = true ∧ config.chainServer = none ∧
        environment.filled? "BITCOIND_RPC_URL" = none := by
  simp [TextSetting.Placed, TextSetting.variableName, ← Environment.isSome_filled?_iff]

theorem TextSetting.value_of_credential {setting : TextSetting}
    (credential : setting.isCredential = true) (missing : config.chainServer = none) :
    setting.value config = none := by
  cases setting with
  | rpcSocket | restUrl | rune | caCert | network | chainServerUrl => cases credential
  | chainServerUser | chainServerPassword | chainServerCookie => rw [value, missing]; rfl

theorem chainServer_of_applied (applied : applyEnvironment environment config = .ok result) :
    result.chainServer.isSome ↔
      config.chainServer.isSome ∨ environment.Fills TextSetting.chainServerUrl.variableName := by
  obtain ⟨interval, -, rfl⟩ := applyEnvironment_eq_ok_iff.mp applied
  simp only [← Environment.isSome_filled?_iff, TextSetting.variableName, applyChainServer]
  cases environment.filled? "BITCOIND_RPC_URL" <;> cases config.chainServer <;> simp

/-- A setting without a place has no value, before and after. -/
theorem value_of_unplaced (applied : applyEnvironment environment config = .ok result)
    {setting : TextSetting} (unplaced : ¬setting.Placed environment config) :
    setting.value config = none ∧ setting.value result = none := by
  obtain ⟨credential, missing, unlocated⟩ := not_placed_iff.mp unplaced
  have absent : result.chainServer = none := by
    have present := chainServer_of_applied applied
    rw [missing, ← Environment.isSome_filled?_iff] at present
    simpa [TextSetting.variableName, unlocated] using present
  exact ⟨TextSetting.value_of_credential credential missing,
    TextSetting.value_of_credential credential absent⟩

/-- The variables for credentials do not matter where there is no chain server. -/
theorem applied_of_other_credentials {other : Environment}
    (applied : applyEnvironment environment config = .ok result)
    (missing : config.chainServer = none)
    (unlocated : environment.filled? "BITCOIND_RPC_URL" = none)
    (same : ∀ name, name ∉ credentialNames → other.get? name = environment.get? name) :
    applyEnvironment other config = .ok result := by
  have filled (setting : TextSetting) (plain : setting.isCredential = false) :
      other.filled? setting.variableName = environment.filled? setting.variableName := by
    have free : setting.variableName ∉ credentialNames := by
      cases setting with
      | rpcSocket | restUrl | rune | caCert | network | chainServerUrl => decide
      | chainServerUser | chainServerPassword | chainServerCookie => cases plain
    rw [Environment.filled?, Environment.filled?, same _ free]
  obtain ⟨interval, read, rfl⟩ := applyEnvironment_eq_ok_iff.mp applied
  have interval? := Environment.interval?_congr (same Environment.intervalVariable (by decide))
  refine applyEnvironment_eq_ok_iff.mpr ⟨interval, interval?.trans read, ?_⟩
  have socket := filled .rpcSocket rfl
  have url := filled .restUrl rfl
  have rune := filled .rune rfl
  have caCert := filled .caCert rfl
  have network := filled .network rfl
  have server := filled .chainServerUrl rfl
  dsimp only [TextSetting.variableName] at *
  simp only [applyDaemon, applyChainServer, Environment.orKeep, socket, url, rune, caCert, network,
    server, missing, unlocated, Option.map_none]

@[simp]
theorem orKeep_orKeep (name : String) (kept : Option String) :
    environment.orKeep name (environment.orKeep name kept) = environment.orKeep name kept := by
  unfold Environment.orKeep
  cases environment.filled? name <;> rfl

theorem applyDaemon_again (daemon : DaemonConfig) :
    applyDaemon environment (applyDaemon environment daemon) = applyDaemon environment daemon := by
  simp only [applyDaemon, orKeep_orKeep]

theorem applyChainServer_again (chainServer : Option ChainServerConfig) :
    applyChainServer environment (applyChainServer environment chainServer) =
      applyChainServer environment chainServer := by
  unfold applyChainServer
  cases environment.filled? "BITCOIND_RPC_URL" <;> cases chainServer <;> simp

theorem applied_again (applied : applyEnvironment environment config = .ok result) :
    applyEnvironment environment result = .ok result := by
  obtain ⟨interval, read, rfl⟩ := applyEnvironment_eq_ok_iff.mp applied
  refine applyEnvironment_eq_ok_iff.mpr ⟨interval, read, ?_⟩
  have network : (environment.filled? "LN_NETWORK").getD
        ((environment.filled? "LN_NETWORK").getD config.backend.network) =
      (environment.filled? "LN_NETWORK").getD config.backend.network := by
    cases environment.filled? "LN_NETWORK" <;> rfl
  have poll : interval.getD (interval.getD config.subscriptions.pollInterval) =
      interval.getD config.subscriptions.pollInterval := by
    cases interval <;> rfl
  simp only [applyDaemon_again, applyChainServer_again, network, poll]

/-- The variable of the interval alone gives the interval. -/
theorem pollInterval_of_applied {text : String}
    (applied : applyEnvironment environment config = .ok result)
    (set : environment.get? Environment.intervalVariable = some text) :
    ∃ interval, environment.interval? = .ok (some interval) ∧
      result.subscriptions.pollInterval = interval := by
  obtain ⟨interval, read, rfl⟩ := applyEnvironment_eq_ok_iff.mp applied
  obtain ⟨value, rfl⟩ := Option.isSome_iff_exists.mp (Environment.isSome_of_interval? set read)
  exact ⟨value, read, rfl⟩

/-- What an environment makes of a configuration. -/
structure Overridden (environment : Environment) (config result : Config) : Prop where
  /-- A setting stays as it is if its variable is not set or blank. -/
  kept : ∀ setting : TextSetting,
    (∀ text, environment.get? setting.variableName = some text → Text.isBlankText text = true) →
    setting.value result = setting.value config
  /-- Otherwise it is the text of the variable. A credential is given exactly if there is a chain
  server, in the configuration or by the variable of its URL. -/
  given : ∀ (setting : TextSetting) (text : String),
    environment.get? setting.variableName = some text → Text.isBlankText text = false →
    (setting.value result = some text ↔
      (setting.isCredential = true → config.chainServer.isSome ∨
        environment.Fills "BITCOIND_RPC_URL"))
  /-- Without a chain server the credentials make no difference at all. -/
  ineffective : config.chainServer = none → ¬environment.Fills "BITCOIND_RPC_URL" →
    ∀ other : Environment,
      (∀ name, name ∉ credentialNames → other.get? name = environment.get? name) →
      applyEnvironment other config = .ok result
  chainServer : result.chainServer.isSome ↔
    config.chainServer.isSome ∨ environment.Fills "BITCOIND_RPC_URL"
  pollKept : environment.get? Environment.intervalVariable = none →
    result.subscriptions.pollInterval = config.subscriptions.pollInterval
  /-- The variable of the interval gives the same interval in every environment and above every
  configuration. -/
  pollGiven : ∀ text, environment.get? Environment.intervalVariable = some text →
    ∀ (other : Environment) (otherConfig otherResult : Config),
      other.get? Environment.intervalVariable = some text →
      applyEnvironment other otherConfig = .ok otherResult →
      otherResult.subscriptions.pollInterval = result.subscriptions.pollInterval
  /-- Nothing else changes. -/
  others : result =
    { config with
      backend := { config.backend with network := result.backend.network }
      daemon :=
        { config.daemon with
          rpcSocket := result.daemon.rpcSocket
          restUrl := result.daemon.restUrl
          rune := result.daemon.rune
          caCert := result.daemon.caCert }
      chainServer := result.chainServer
      subscriptions :=
        { config.subscriptions with pollInterval := result.subscriptions.pollInterval } }

theorem overridden_of_applied (applied : applyEnvironment environment config = .ok result) :
    Overridden environment config result where
  kept setting blank := by
    have unfilled := Environment.filled?_eq_none_iff.mpr blank
    by_cases placed : setting.Placed environment config
    · rw [value_of_applied applied placed, unfilled]
      rfl
    · obtain ⟨before, after⟩ := value_of_unplaced applied placed
      rw [before, after]
  given setting text set filled := by
    have given := Environment.filled?_eq_some_iff.mpr ⟨set, filled⟩
    by_cases placed : setting.Placed environment config
    · refine iff_of_true ?_ placed
      rw [value_of_applied applied placed, given]
      rfl
    · refine iff_of_false ?_ placed
      rw [(value_of_unplaced applied placed).2]
      nofun
  ineffective missing unfilled other same := by
    rw [← Environment.isSome_filled?_iff, Option.not_isSome_iff_eq_none] at unfilled
    exact applied_of_other_credentials applied missing unfilled same
  chainServer := chainServer_of_applied applied
  pollKept unset := by
    obtain ⟨interval, read, rfl⟩ := applyEnvironment_eq_ok_iff.mp applied
    cases (Environment.interval?_of_unset unset).symm.trans read
    rfl
  pollGiven text set other otherConfig otherResult also otherApplied := by
    obtain ⟨first, read, rfl⟩ := pollInterval_of_applied applied set
    obtain ⟨second, otherRead, rfl⟩ := pollInterval_of_applied otherApplied also
    have same := Environment.interval?_congr (set.trans also.symm)
    exact (Option.some.inj (Except.ok.inj (read.symm.trans (same.trans otherRead)))).symm
  others := by
    obtain ⟨interval, -, rfl⟩ := applyEnvironment_eq_ok_iff.mp applied
    rfl

end Applied

end Config

end LightningGateway
