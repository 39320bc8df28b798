/-!
# Errors of the configuration

Why a configuration cannot be read, written or used.
-/

namespace LightningGateway

/-- Why a configuration cannot be read, written or used. -/
inductive ConfigError where
  | fileRead (reason : String)
  /-- The file is not what a configuration file has to be. -/
  | parse
  /-- The configuration has no form as a file. -/
  | serialize
  | notFound (path : String)
  | directoryUnavailable
  | missingField (field : String)
  | invalidCredential (field reason : String)
  | invalidValue (field reason : String)
  deriving Repr, BEq, DecidableEq

namespace ConfigError

def message : ConfigError → String
  | fileRead reason => "Failed to read config file: " ++ reason
  | parse => "Failed to parse config file"
  | serialize => "Failed to serialize config"
  | notFound path => "Config file not found at: " ++ path
  | directoryUnavailable => "Could not find user config directory"
  | missingField field => "Missing configuration value: " ++ field
  | invalidCredential field reason => "Invalid credential " ++ field ++ ": " ++ reason
  | invalidValue field reason => "Invalid configuration value " ++ field ++ ": " ++ reason

end ConfigError

end LightningGateway
