import SyntheticInput.Device.Error

/-!
# Why a key command fails

* `CommandError`: the causes, with one wording each.
-/

namespace SyntheticInput

/-- Why a key command fails. -/
inductive CommandError where
  /-- No key has this name. -/
  | unknownKey (name : String)
  /-- The name is classed as a mouse button and no button has it. -/
  | unknownButton (name : String)
  /-- A device refused one of the inputs. -/
  | device (cause : DeviceError)
  deriving Repr, DecidableEq

/-- The wording of a command error. -/
def CommandError.message : CommandError → String
  | unknownKey name => "Unknown key: " ++ name
  | unknownButton name => "Unknown mouse button: " ++ name
  | device cause => cause.message

end SyntheticInput
