import SyntheticInput.Text.AsciiCase

/-!
# Mouse buttons

* `Button`: the five buttons, with their names in key commands and in event records.
* `Button.extraData`: which of the two extra buttons an event is about.
-/

namespace SyntheticInput

/-- A mouse button. -/
inductive Button where
  | left | right | middle | x1 | x2
  deriving Repr, DecidableEq

namespace Button

/-- All buttons. -/
def all : List Button := [left, right, middle, x1, x2]

/-- The name of a button in key commands. -/
def name : Button → String
  | left => "LButton"
  | right => "RButton"
  | middle => "MButton"
  | x1 => "XButton1"
  | x2 => "XButton2"

/-- The name of a button in event records. -/
def label : Button → String
  | left => "Left"
  | right => "Right"
  | middle => "Middle"
  | x1 => "X1"
  | x2 => "X2"

/-- The button with the given command name, in any ASCII case. -/
def ofName? (name : String) : Option Button := all.find? fun b => Text.sameName b.name name

/-- The number sent along with an event of the button: which extra button it is, zero for the
others. -/
def extraData : Button → UInt32
  | x1 => 1
  | x2 => 2
  | _ => 0

theorem mem_all (b : Button) : b ∈ all := by cases b <;> decide

end Button

end SyntheticInput
