import LightningGateway.CommandLine.Commands
import LightningGateway.CommandLine.Failure
import LightningGateway.Config.File
import LightningGateway.Exchange

/-!
# The program

Reads arguments, environment and files, and carries out a command. A companion program
does the errands: it reads them line by line from the pipe that the variable
`LNFACADE_ERRANDS` names and writes the reports to the pipe that `LNFACADE_REPORTS`
names. Without a companion no daemon can be reached.
-/

namespace LightningGateway.Program

def recognized : List String :=
  ["HOME", "XDG_CONFIG_HOME", "CLN_RPC_SOCKET", "CLN_REST_URL", "CLN_RUNE", "CLN_CA_CERT",
    "BITCOIND_RPC_URL", "BITCOIND_RPC_USER", "BITCOIND_RPC_PASSWORD", "BITCOIND_COOKIE",
    "LN_NETWORK", Environment.intervalVariable]

def environment : IO Environment := do
  let mut found := []
  for name in recognized do
    if let some value ← IO.getEnv name then
      found := found ++ [(name, value)]
  return ⟨found, none⟩

/-- Adds what a path leads to, if it leads anywhere. -/
def lookAt (files : FileSystem) (path : String) : IO FileSystem := do
  let place :=
    if FileSystem.isAbsolute path then FileSystem.components path
    else files.workingDirectory ++ Text.parts path '/'
  let place := place.filter fun component => component ≠ "" ∧ component ≠ "."
  try
    let content ← IO.FS.readBinFile path
    return { files with entries := (place, .file content.toList) :: files.entries }
  catch error =>
    match error with
    | .permissionDenied .. => return { files with entries := (place, .locked) :: files.entries }
    | _ => return files

def lookAtAll (files : FileSystem) (paths : List (Option String)) : IO FileSystem :=
  paths.foldlM (fun files path =>
    match path with
    | some path => lookAt files path
    | none => pure files) files

/-- The pipes of the companion. -/
structure Companion where
  errands : IO.FS.Handle
  reports : IO.FS.Handle

def openCompanion : IO (Option Companion) := do
  match ← IO.getEnv "LNFACADE_ERRANDS", ← IO.getEnv "LNFACADE_REPORTS" with
  | some errands, some reports =>
      try
        let errands ← IO.FS.Handle.mk errands .write
        let reports ← IO.FS.Handle.mk reports .read
        return some ⟨errands, reports⟩
      catch _ => return none
  | _, _ => return none

def send (companion : Option Companion) (errand : Errand) : IO Report := do
  match companion with
  | none => return .failed .connectionRefused "There is no companion"
  | some companion =>
      companion.errands.putStrLn errand.toJson.compact
      companion.errands.flush
      return .ofLine (← companion.reports.getLine)

/-- What the program runs with. -/
structure Setting where
  plan : Plan
  files : FileSystem
  companion : Option Companion

/-- The longest time that the program sleeps at a stretch, in milliseconds. -/
def longestSleep : Nat := Bound.word32 - 1

def answer (setting : Setting) (query : Query) : StateT Counters IO query.Reply := do
  let (reply, counters) ←
    match Exchange.step setting.plan setting.files (← get) query with
    | .answer result => pure result
    | .sleep milliseconds result => do
        IO.sleep (UInt32.ofNat (min milliseconds longestSleep))
        pure result
    | .errand errand result => do
        let report ← send setting.companion errand
        pure (result report)
  set counters
  return reply

def lead {σ α : Type} (setting : Setting) :
    Dialogue σ α → σ → StateT Counters IO (α × σ)
  | .done value, state => return (value, state)
  | .read next, state => lead setting (next state) state
  | .write state next, _ => lead setting next state
  | .ask query next, state => do
      let reply ← answer setting query
      lead setting (next reply) state

/-- Carries out a job and prints its values. -/
partial def carryOut (setting : Setting) (output : IO.FS.Stream) (job : Job) (session : Session) :
    StateT Counters IO (Except CommandFailure Session) := do
  let ((turn, job), session) ← lead setting (job.turn setting.plan.settings) session
  match turn with
  | .ended => return .ok session
  | .quiet => carryOut setting output job session
  | .item (.error failure) => return .error (.node failure)
  | .item (.ok value) => do
      output.putStr (Command.lines value)
      output.flush
      carryOut setting output job session

def checkLogging (files : FileSystem) (level : String) (file : Option String) :
    Except LoggingError Unit := do
  let _ ← LogLevel.parse level
  match file with
  | none => return ()
  | some path =>
      match files.placeFor path with
      | .error fault => throw (.file fault.message)
      | .ok _ => return ()

def runCommand (setting : Setting) (command : Command) :
    StateT Counters IO (Except CommandFailure Session) := do
  match ← carryOut setting (← IO.getStderr) (.connecting .starting) setting.plan.session with
  | .error failure => return .error failure
  | .ok session => carryOut setting (← IO.getStdout) (.ofCommand command) session

/-- Makes a plan from the configuration and carries out an invocation. -/
def execute (invocation : Invocation) : IO (Except CommandFailure Unit) := do
  let environment ← environment
  let directory := (← IO.currentDir).toString
  let standard := (Config.standardPath environment).toOption
  let files ← lookAtAll ⟨[], FileSystem.components directory⟩ [invocation.config, standard]
  match Config.load files environment invocation.config with
  | .error error => return .error (.config error)
  | .ok config =>
      let files ← lookAtAll files
        [config.daemon.caCert, config.chainServer.bind ChainServerConfig.cookie,
          config.logging.file]
      match checkLogging files (invocation.logLevel.getD config.logging.level)
        config.logging.file with
      | .error error => return .error (.logging error)
      | .ok () =>
          match Plan.build files config with
          | .error failure => return .error (.node failure)
          | .ok plan =>
              let setting := ⟨plan, files, ← openCompanion⟩
              let (result, _) ← (runCommand setting invocation.command).run Exchange.counters
              return result.map fun _ => ()

/-- The names of all commands, for readers. -/
def usage : String :=
  "Usage: lnfacade [--config PATH] [--log-level LEVEL] COMMAND\n\nCommands:\n" ++
    Text.joinWith "\n" (Command.forms.map fun form => "  " ++ form.name) ++ "\n"

end LightningGateway.Program

open LightningGateway LightningGateway.Program

def main (arguments : List String) : IO UInt32 := do
  match Invocation.read arguments with
  | .error .displayVersion => do
      IO.println "lnfacade 0.1.0"
      return 0
  | .error error => do
      if error.exitStatus = 0 then IO.print usage
      else IO.eprint (error.name ++ "\n\n" ++ usage)
      return UInt32.ofNat error.exitStatus
  | .ok invocation => do
      match ← execute invocation with
      | .ok () => return 0
      | .error failure => do
          IO.eprintln ("Error: " ++ failure.message)
          return UInt32.ofNat failure.exitStatus
