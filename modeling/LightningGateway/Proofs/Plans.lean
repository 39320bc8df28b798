import LightningGateway.Endpoint

/-!
# Plans of configurations that were checked

A configuration that passes its checks gives a plan, with the endpoint that it names and with a
login for its chain server. Only a cookie file can still stand in the way: the checks ask whether
there is such a file, but not what it holds. A configuration that does not pass gives no plan.
-/

namespace LightningGateway

variable {files : FileSystem} {config : Config}

namespace Config

/-- All sections are looked at before a configuration passes. -/
theorem validate_eq_ok_iff :
    config.validate files = .ok () ↔
      checkBackend config.backend = .ok () ∧ checkDaemon files config.daemon = .ok () ∧
        (∀ server ∈ config.chainServer, checkChainServer files server = .ok ()) ∧
          config.checkLimits = .ok () := by
  simp only [validate, bind, Except.bind]
  rcases checkBackend config.backend with _ | _
  · simp
  rcases checkDaemon files config.daemon with _ | _
  · simp
  rcases config.chainServer with _ | server
  · simp
  rcases checked : checkChainServer files server with _ | _ <;> simp [checked]

theorem isFile_of_checkFile {field path : String} (checked : checkFile files field path = .ok ()) :
    files.isFile path = true := by
  unfold checkFile at checked
  split at checked
  next isFile => exact isFile
  next => cases checked

theorem exists_rune_of_checkRune {rune : Option String} (checked : checkRune rune = .ok ()) :
    ∃ text, rune = some text := by
  cases rune with
  | none => cases checked
  | some text => exact ⟨text, rfl⟩

end Config

/-! ### The daemon -/

namespace Endpoint

/-- The endpoint that the settings name: the socket if there is one, else the URL with the rune. -/
inductive Named (daemon : DaemonConfig) : Endpoint → Prop where
  | socket {path : String} (set : daemon.rpcSocket = some path) : Named daemon (.socket path)
  | rest {url rune : String} (unset : daemon.rpcSocket = none)
      (located : daemon.restUrl = some url) (authorized : daemon.rune = some rune) :
      Named daemon (.rest url rune daemon.caCert)

variable {daemon : DaemonConfig} {endpoint : Endpoint}

theorem Named.ofConfig_eq (named : Named daemon endpoint) :
    Endpoint.ofConfig daemon = .ok endpoint := by
  cases named with
  | socket set => simp [Endpoint.ofConfig, set]
  | rest unset located authorized => simp [Endpoint.ofConfig, unset, located, authorized]

theorem Named.isSocket_iff (named : Named daemon endpoint) :
    (∃ path, endpoint = .socket path) ↔ daemon.rpcSocket.isSome := by
  cases named with
  | socket set => simp [set]
  | rest unset => simp [unset]

/-- Settings that pass their check name an endpoint. -/
theorem exists_named_of_checkDaemon (checked : Config.checkDaemon files daemon = .ok ()) :
    ∃ endpoint, Named daemon endpoint := by
  unfold Config.checkDaemon at checked
  split at checked
  next set => exact ⟨_, .socket set⟩
  next unset located =>
    split at checked
    · cases checked
    · split at checked
      · cases checked
      next runeChecked =>
        obtain ⟨rune, authorized⟩ := Config.exists_rune_of_checkRune runeChecked
        exact ⟨_, .rest unset located authorized⟩
  next => cases checked

end Endpoint

/-! ### The chain server -/

theorem Text.splitAtFirst_singleton_eq_none_iff (mark : Char) (characters : List Char) :
    Text.splitAtFirst [mark] characters = none ↔ mark ∉ characters := by
  induction characters with
  | nil => simp [Text.splitAtFirst]
  | cons head rest ih =>
      by_cases same : mark = head
      · simp [Text.splitAtFirst, same]
      · simp [Text.splitAtFirst, same, ih]

theorem Text.splitOnce_colon_eq_none_iff (text : String) :
    Text.splitOnce text ":" = none ↔ ':' ∉ text.toList := by
  rw [Text.splitOnce, Option.map_eq_none_iff]
  exact Text.splitAtFirst_singleton_eq_none_iff ':' text.toList

namespace Login

/-- Why there is no login in a cookie file. -/
inductive Useless (files : FileSystem) (path : String) : Prop where
  | unopened (refused : files.read path = .error .denied)
  | empty (found : files.read path = .ok [])
  /-- The first line is not text. -/
  | notText {content line : List UInt8} (found : files.read path = .ok content)
      (first : firstLine? content = some line) (damaged : Text.utf8? line = none)
  | noColon {content line : List UInt8} {text : String} (found : files.read path = .ok content)
      (first : firstLine? content = some line) (readable : Text.utf8? line = some text)
      (missing : ':' ∉ text.toList)

theorem firstLine?_eq_none_iff (content : List UInt8) :
    firstLine? content = none ↔ content = [] := by
  unfold firstLine?
  cases content with
  | nil => simp
  | cons head rest =>
      rw [if_neg (by simp)]
      split <;> simp

theorem read_of_isFile {path : String} (isFile : files.isFile path = true) :
    files.read path = .error .denied ∨ ∃ content, files.read path = .ok content := by
  unfold FileSystem.isFile at isFile
  unfold FileSystem.read
  split at isFile
  next content found => exact .inr ⟨content, by rw [found]⟩
  next found => exact .inl (by rw [found])
  next => cases isFile

/-- A cookie file gives no login exactly if it is useless. -/
theorem ofCookieFile_fails_iff {path : String} (isFile : files.isFile path = true) :
    (∃ error, ofCookieFile files path = .error error) ↔ Useless files path := by
  unfold ofCookieFile
  rcases read_of_isFile isFile with refused | ⟨content, found⟩
  · rw [refused]
    exact ⟨fun _ => .unopened refused, fun _ => ⟨_, rfl⟩⟩
  rw [found]
  dsimp only
  unfold ofContent
  rcases first : firstLine? content with _ | line
  · obtain rfl := (firstLine?_eq_none_iff content).mp first
    exact ⟨fun _ => .empty found, fun _ => ⟨_, rfl⟩⟩
  rcases readable : Text.utf8? line with _ | text
  · exact ⟨fun _ => .notText found first readable, fun _ => by simp [readable]⟩
  rcases split : Text.splitOnce text ":" with _ | ⟨user, password⟩
  · have missing := (Text.splitOnce_colon_eq_none_iff text).mp split
    refine ⟨fun _ => .noColon found first readable missing, fun _ => ?_⟩
    simp [readable, split]
  · have present : ':' ∈ text.toList := Decidable.byContradiction fun missing => by
      rw [(Text.splitOnce_colon_eq_none_iff text).mpr missing] at split
      cases split
    constructor
    · rintro ⟨error, failed⟩
      simp [readable, split] at failed
    · intro useless
      exfalso
      -- What the file holds is known, so each reason contradicts one step of the reading.
      cases useless with
      | unopened refused => simp [found] at refused
      | empty other =>
          obtain rfl := Except.ok.inj (found.symm.trans other)
          simp [firstLine?] at first
      | notText other firstOther damaged =>
          obtain rfl := Except.ok.inj (found.symm.trans other)
          obtain rfl := Option.some.inj (first.symm.trans firstOther)
          simp [readable] at damaged
      | noColon other firstOther readableOther missing =>
          obtain rfl := Except.ok.inj (found.symm.trans other)
          obtain rfl := Option.some.inj (first.symm.trans firstOther)
          obtain rfl := Option.some.inj (readable.symm.trans readableOther)
          exact missing present

end Login

namespace ChainServerConfig

/-- The cookie file counts unless user and password are both given. -/
def usesCookie (server : ChainServerConfig) (path : String) : Prop :=
  ¬(server.rpcUser.isSome ∧ server.rpcPassword.isSome) ∧ server.cookie = some path

/-- The login that the settings of a chain server select. -/
inductive Selects (files : FileSystem) (server : ChainServerConfig) : Login → Prop where
  | given {user password : String} (named : server.rpcUser = some user)
      (secret : server.rpcPassword = some password) : Selects files server ⟨user, password⟩
  | kept {path : String} {login : Login} (uses : server.usesCookie path)
      (found : Login.ofCookieFile files path = .ok login) : Selects files server login

variable {server : ChainServerConfig}

theorem login_of_usesCookie {path : String} (uses : server.usesCookie path) :
    server.login files =
      match Login.ofCookieFile files path with
      | .ok login => .ok (some login)
      | .error error => .error ⟨.configInvalid, "bitcoind.cookie: " ++ error.message⟩ := by
  obtain ⟨incomplete, kept⟩ := uses
  unfold login
  rw [kept]
  split
  next user password named secret =>
    exact absurd ⟨by simp [named], by simp [secret]⟩ incomplete
  next same _ =>
    obtain rfl := Option.some.inj same
    cases Login.ofCookieFile files path <;> rfl
  next same _ => cases same

/-- Settings that pass their check give both user and password, or a cookie file that is there. -/
theorem usesCookie_of_checkChainServer (checked : Config.checkChainServer files server = .ok ()) :
    (∃ user password, server.rpcUser = some user ∧ server.rpcPassword = some password) ∨
      ∃ path, server.usesCookie path ∧ files.isFile path = true := by
  unfold Config.checkChainServer at checked
  split at checked
  · cases checked
  split at checked
  next user password named secret => exact .inl ⟨user, password, named, secret⟩
  next => cases checked
  next => cases checked
  next path kept incomplete =>
    refine .inr ⟨path, ⟨?_, kept⟩, Config.isFile_of_checkFile checked⟩
    rintro ⟨hasUser, hasPassword⟩
    obtain ⟨user, named⟩ := Option.isSome_iff_exists.mp hasUser
    obtain ⟨password, secret⟩ := Option.isSome_iff_exists.mp hasPassword
    exact incomplete user password named secret
  next => cases checked

/-- There is a login, or the cookie file is useless. There is never no login at all. -/
theorem login_of_checkChainServer (checked : Config.checkChainServer files server = .ok ()) :
    (∃ login, server.login files = .ok (some login) ∧ server.Selects files login ∧
        ¬∃ path, server.usesCookie path ∧ Login.Useless files path) ∨
      ((∃ detail, server.login files = .error ⟨.configInvalid, detail⟩) ∧
        ∃ path, server.usesCookie path ∧ Login.Useless files path) := by
  rcases usesCookie_of_checkChainServer checked with
    ⟨user, password, named, secret⟩ | ⟨path, uses, isFile⟩
  · refine .inl ⟨⟨user, password⟩, by simp [login, named, secret], .given named secret, ?_⟩
    rintro ⟨path, ⟨incomplete, -⟩, -⟩
    exact incomplete ⟨by simp [named], by simp [secret]⟩
  · have fails := Login.ofCookieFile_fails_iff isFile
    rw [login_of_usesCookie uses]
    cases found : Login.ofCookieFile files path with
    | ok login =>
        refine .inl ⟨login, rfl, .kept uses found, ?_⟩
        rintro ⟨other, ⟨-, kept⟩, useless⟩
        obtain rfl := Option.some.inj (uses.2.symm.trans kept)
        obtain ⟨error, failed⟩ := fails.mpr useless
        cases found.symm.trans failed
    | error error => exact .inr ⟨⟨_, rfl⟩, path, uses, fails.mp ⟨error, found⟩⟩

end ChainServerConfig

/-! ### Plans -/

namespace Plan

theorem build_eq_ofConfig : build files config = ofConfig files config := by
  unfold build
  cases config.backend.implementation
  rfl

theorem ofConfig_of_invalid {error : ConfigError} (invalid : config.validate files = .error error) :
    ofConfig files config = .error ⟨.configInvalid, error.message⟩ := by
  simp only [ofConfig, invalid]
  rfl

/-- The chain server of a plan with its login, if there is one. -/
def loginFor (files : FileSystem) :
    Option ChainServerConfig → Except Failure (Option (String × Option Login))
  | none => .ok none
  | some server => (server.login files).map fun login => some (server.rpcUrl, login)

/-- A checked configuration gives the plan of its endpoint and login, or fails for want of the
login. -/
theorem ofConfig_of_valid {endpoint : Endpoint} (valid : config.validate files = .ok ())
    (named : Endpoint.Named config.daemon endpoint) :
    ofConfig files config =
      (loginFor files config.chainServer).map fun chainServer =>
        { endpoint, chainServer
          client := config.daemon.cliPath
          clientArguments := argumentsFor config
          settings := settingsOf config
          session :=
            .fresh config.cache.requestCapacity.toNat config.cache.blockCapacity.toNat } := by
  simp only [ofConfig, valid, named.ofConfig_eq, bind, Except.bind]
  cases config.chainServer with
  | none => rfl
  | some server =>
      simp only [loginFor]
      cases server.login files <;> rfl

/-- A configuration that passes its checks names an endpoint, and the only thing that can be
missing for a plan is a login in the cookie file of the chain server. A configuration that does not
pass gives no plan. -/
theorem plan_of_checked (files : FileSystem) (config : Config) :
    (config.validate files = .ok () →
      (∃ endpoint, Endpoint.ofConfig config.daemon = .ok endpoint ∧
        Endpoint.Named config.daemon endpoint ∧
        ((∃ path, endpoint = .socket path) ↔ config.daemon.rpcSocket.isSome)) ∧
      (∀ plan, ofConfig files config = .ok plan →
        Endpoint.Named config.daemon plan.endpoint ∧
        plan.chainServer.isSome = config.chainServer.isSome ∧
        ∀ url login, plan.chainServer = some (url, login) →
          ∃ server used, config.chainServer = some server ∧ url = server.rpcUrl ∧
            login = some used ∧ server.Selects files used) ∧
      ((∃ failure, ofConfig files config = .error failure) ↔
        ∃ server path, config.chainServer = some server ∧ server.usesCookie path ∧
          Login.Useless files path)) ∧
    ∀ error, config.validate files = .error error →
      build files config = .error ⟨.configInvalid, error.message⟩ := by
  refine ⟨fun valid => ?_, fun error invalid => ?_⟩
  · obtain ⟨-, daemonChecked, serverChecked, -⟩ := Config.validate_eq_ok_iff.mp valid
    obtain ⟨endpoint, named⟩ := Endpoint.exists_named_of_checkDaemon daemonChecked
    refine ⟨⟨endpoint, named.ofConfig_eq, named, named.isSocket_iff⟩, ?_⟩
    rw [ofConfig_of_valid valid named]
    cases configured : config.chainServer with
    | none =>
        refine ⟨?_, ?_⟩
        · rintro plan ⟨⟩
          exact ⟨named, rfl, by rintro url login ⟨⟩⟩
        · constructor
          · rintro ⟨failure, ⟨⟩⟩
          · rintro ⟨server, path, ⟨⟩, -⟩
    | some server =>
        rcases ChainServerConfig.login_of_checkChainServer (serverChecked server configured) with
          ⟨login, found, selected, useful⟩ | ⟨⟨detail, failed⟩, path, uses, useless⟩
        · simp only [loginFor, found]
          refine ⟨?_, ?_⟩
          · rintro plan ⟨⟩
            refine ⟨named, rfl, ?_⟩
            rintro url used ⟨⟩
            exact ⟨server, login, rfl, rfl, rfl, selected⟩
          · constructor
            · rintro ⟨failure, ⟨⟩⟩
            · rintro ⟨_, path, ⟨⟩, uses, useless⟩
              exact absurd ⟨path, uses, useless⟩ useful
        · simp only [loginFor, failed]
          refine ⟨?_, ?_⟩
          · rintro plan ⟨⟩
          · exact ⟨fun _ => ⟨server, path, rfl, uses, useless⟩, fun _ => ⟨_, rfl⟩⟩
  · rw [build_eq_ofConfig, ofConfig_of_invalid invalid]

/-- A directory with two files, one of which holds no colon. -/
def cookieFiles : FileSystem where
  entries := [(["run", "cookie"], .file "user\nsecret:word".toUTF8.toList),
    (["run", "cert"], .locked)]
  workingDirectory := []

/-- A configuration for HTTP whose chain server has a user, no password, and a cookie file. -/
def cookieConfig : Config :=
  { Config.standard with
    daemon :=
      { DaemonConfig.standard with
        restUrl := some "https://127.0.0.1:3010", rune := some "a-b_c="
        caCert := some "/run/cert" }
    chainServer := some
      { rpcUrl := "http://127.0.0.1:8332", rpcUser := some "user", rpcPassword := none
        cookie := some "/run/cookie" } }

theorem useless_cookie : Login.Useless cookieFiles "/run/cookie" := by
  have found : cookieFiles.read "/run/cookie" = .ok "user\nsecret:word".toUTF8.toList := rfl
  have first : Login.firstLine? "user\nsecret:word".toUTF8.toList = some "user".toUTF8.toList := by
    decide +kernel
  have readable : Text.utf8? "user".toUTF8.toList = some "user" := by decide +kernel
  exact .noColon found first readable (by decide)

theorem plan_of_checked_cookie :
    cookieConfig.validate cookieFiles = .ok () ∧
      (∃ endpoint, Endpoint.ofConfig cookieConfig.daemon = .ok endpoint ∧
        ¬∃ path, endpoint = .socket path) ∧
      (∃ failure, ofConfig cookieFiles cookieConfig = .error failure) ∧
      build cookieFiles .standard =
        .error ⟨.configInvalid,
          "Missing configuration value: " ++
            "core_lightning.rpc_socket or core_lightning.rest_url"⟩ := by
  have valid : cookieConfig.validate cookieFiles = .ok () := rfl
  have invalid : Config.validate cookieFiles .standard =
      .error (.missingField "core_lightning.rpc_socket or core_lightning.rest_url") := rfl
  obtain ⟨⟨endpoint, chosen, -, isSocket⟩, -, fails⟩ :=
    (plan_of_checked cookieFiles cookieConfig).1 valid
  refine ⟨valid, ⟨endpoint, chosen, ?_⟩, ?_, ?_⟩
  · rw [isSocket]
    decide
  · exact fails.mpr ⟨_, _, rfl, ⟨by decide, rfl⟩, useless_cookie⟩
  · exact (plan_of_checked cookieFiles .standard).2 _ invalid

end Plan

end LightningGateway
