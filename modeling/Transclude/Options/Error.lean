import Transclude.Files.Fault
import Transclude.Options.Key

namespace Transclude

/-- Why options could not be set up. -/
inductive ConfigError where
  /-- The configuration file that was asked for does not exist. -/
  | notFound (path : String)
  /-- The configuration file could not be read. -/
  | unreadable (fault : Files.Fault)
  /-- The configuration text is not a flat table of option values. -/
  | malformed
  /-- A recognized option was given a value of a kind it does not take. -/
  | invalidValue (key : OptionKey) (found : Setting)

def ConfigError.message : ConfigError → String
  | .notFound path => s!"Configuration file not found: {path}"
  | .unreadable fault => "I/O error: " ++ fault.message
  | .malformed => "TOML parse error"
  | .invalidValue key found =>
    "Invalid value for " ++ key.name ++ ": expected " ++ key.expected ++ ", got " ++ found.kind ++
      " `" ++ found.display ++ "`"

end Transclude
