import LightningGateway.Config.Environment
import LightningGateway.FileSystem
import LightningGateway.Toml.Reader
import LightningGateway.Toml.Writer

/-!
# Configuration files

Reading the configuration from a file and the environment, and writing it to a file. The
environment goes before the file, and the file before the standard values.
-/

namespace LightningGateway.Config

def ofText (text : String) : Except ConfigError Config :=
  match Toml.read text with
  | none => .error .parse
  | some entries =>
      match codec.read .settings (Toml.Value.table .headed entries).toDocument with
      | .ok config => .ok config
      | .error _ => .error .parse

def toText (config : Config) : Except ConfigError String :=
  match Toml.write? (codec.write config) with
  | some text => .ok text
  | none => .error .serialize

def fromFile (files : FileSystem) (path : String) : Except ConfigError Config :=
  match files.readText path with
  | .ok text => ofText text
  | .error fault => .error (.fileRead fault.message)

def join (directory path : String) : String :=
  if Text.beginsWith (String.ofList directory.toList.reverse) "/" then directory ++ path
  else directory ++ "/" ++ path

def directory? (environment : Environment) : Option String :=
  match (environment.get? "XDG_CONFIG_HOME").filter FileSystem.isAbsolute with
  | some directory => some directory
  | none =>
      (((environment.get? "HOME").filter (· ≠ "")) <|> environment.accountHome).map
        fun home => join home ".config"

/-- Where the configuration is looked for if no path is given. -/
def standardPath (environment : Environment) : Except ConfigError String :=
  match directory? environment with
  | some directory => .ok (join (join directory "lnfacade") "config.toml")
  | none => .error .directoryUnavailable

def fromEnvironment (environment : Environment) : Except ConfigError Config :=
  applyEnvironment environment .standard

/-- The configuration in the file at the standard path, if there is one. -/
def fromStandardPath (files : FileSystem) (environment : Environment) :
    Except ConfigError Config :=
  match standardPath environment with
  | .ok path => if files.hasEntry path then fromFile files path else .ok .standard
  | .error _ => .ok .standard

def load (files : FileSystem) (environment : Environment) (path : Option String) :
    Except ConfigError Config := do
  let config ←
    match path with
    | some path => if files.hasEntry path then fromFile files path else .error (.notFound path)
    | none => fromStandardPath files environment
  applyEnvironment environment config

/-- Saves the configuration, and the files as they are after the attempt. -/
def attemptSave (files : FileSystem) (path : String) (config : Config) :
    Except ConfigError Unit × FileSystem :=
  match toText config with
  | .error error => (.error error, files)
  | .ok text =>
      match files.overwrite path text.toUTF8.data.toList with
      | (.ok (), written) => (.ok (), written)
      | (.error fault, left) => (.error (.fileRead fault.message), left)

/-- The files after the configuration has been saved. -/
def save (files : FileSystem) (path : String) (config : Config) : Except ConfigError FileSystem :=
  match attemptSave files path config with
  | (.ok (), files) => .ok files
  | (.error error, _) => .error error

end LightningGateway.Config
