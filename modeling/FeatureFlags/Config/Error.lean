/-!
# Configuration errors

Why there is no configuration.
-/

namespace FeatureFlags.Config

/-- A reason why a configuration cannot be loaded. -/
inductive Error where
  /-- A variable of the environment has no meaning. -/
  | invalidValue (key : String) (reason : String)
  /-- The configuration file is no TOML document with settings. -/
  | malformedFile
  /-- The configuration file is there and cannot be read. -/
  | unreadableFile
  /-- A setting is zero that must not be. -/
  | zero (key : String)
deriving DecidableEq, Repr

/-- The wording of an error. -/
def Error.message : Error → String
  | invalidValue key reason => "Invalid value for " ++ key ++ ": " ++ reason
  | malformedFile => "Failed to parse TOML config"
  | unreadableFile => "Failed to read config file"
  | zero key => "Validation error: " ++ key ++ " must be greater than zero"

end FeatureFlags.Config
