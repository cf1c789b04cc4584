import SyntheticInput.Files.Error

/-!
# Why a configuration is refused

* `AliasFault`: what can be wrong with one alias.
* `ConfigFault`: what can be wrong with a configuration that was read.
* `ConfigError`: why there is no configuration.
-/

namespace SyntheticInput

/-- What is wrong with an alias, in the order in which it is looked for. -/
inductive AliasFault where
  /-- The name is empty or holds a blank. -/
  | notOneWord
  /-- The name is the word of a script directive. -/
  | directive
  /-- The key is zero. -/
  | zeroKey
  /-- An earlier name has the same lowercase form. -/
  | duplicate
  deriving Repr, DecidableEq

/-- What is wrong with a configuration. -/
inductive ConfigFault where
  /-- The default speed is not positive and finite. -/
  | speed
  /-- The alias of this name is wrong. -/
  | badAlias (name : String) (fault : AliasFault)
  deriving Repr, DecidableEq

/-- Why there is no configuration. -/
inductive ConfigError where
  | unreadable (cause : FileError)
  | malformed
  | invalid (fault : ConfigFault)
  deriving Repr, DecidableEq

/-- The wording of a fault of the alias `name`. -/
def AliasFault.message (name : String) : AliasFault → String
  | notOneWord =>
    "Invalid key alias '" ++ name ++ "': names must be non-empty without whitespace"
  | directive => "Key alias '" ++ name ++ "' collides with a script directive"
  | zeroKey => "Key alias '" ++ name ++ "' maps to 0, which is not a key"
  | duplicate =>
    "Key alias '" ++ name ++ "' is defined more than once (names are case-insensitive)"

/-- The wording of a fault. -/
def ConfigFault.message : ConfigFault → String
  | speed => "default_speed must be a positive number"
  | badAlias name fault => fault.message name

namespace ConfigError

/-- What is said about a text that is no configuration. -/
def malformedReason : String := "not a TOML document of the expected shape"

/-- The wording of a configuration error. -/
def message : ConfigError → String
  | unreadable cause => "Failed to read config file: " ++ cause.message
  | malformed => "Failed to parse config file: " ++ malformedReason
  | invalid fault => "Invalid configuration: " ++ fault.message

/-- The wording of what is behind an error, if something is. -/
def cause? : ConfigError → Option String
  | unreadable cause => some cause.message
  | malformed => some malformedReason
  | invalid _ => none

end ConfigError

end SyntheticInput
