import SyntheticInput.Button
import SyntheticInput.Key.Id
import SyntheticInput.Key.Modifier

/-!
# Targets and actions of key commands

* `Action`: press, release, or both.
* `Target`: the button or key that a command acts on.
-/

namespace SyntheticInput

/-- What a command does with its key. -/
inductive Action where
  | down | up | click
  deriving Repr, DecidableEq

/-- The name of an action. -/
def Action.name : Action → String
  | down => "Down"
  | up => "Up"
  | click => "Click"

/-- What a command acts on: a mouse button, or a key, which may be one of the modifiers. -/
inductive Target where
  | mouse (button : Button)
  | key (id : KeyId) (modifier : Option Modifier)
  deriving Repr, DecidableEq

end SyntheticInput
