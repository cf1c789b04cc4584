import SyntheticInput.Button
import SyntheticInput.Key.Id
import SyntheticInput.Point

/-!
# Input events

* `KeyEvent`, `MouseEvent`: the elementary inputs of the two devices.
* `Event`: an input of either device, what is sent and what is recorded.
-/

namespace SyntheticInput

/-- An elementary keyboard input. -/
inductive KeyEvent where
  | down (key : KeyId)
  | up (key : KeyId)
  deriving Repr, DecidableEq

/-- The key that an input is about. -/
def KeyEvent.key : KeyEvent → KeyId
  | down key => key
  | up key => key

/-- An elementary mouse input. -/
inductive MouseEvent where
  | button (button : Button) (down : Bool) (extraData : UInt32)
  | move (dx dy : Int32)
  | setPosition (target : Point)
  deriving Repr, DecidableEq

/-- Where the cursor is after a mouse input. -/
def MouseEvent.moveCursor (cursor : Point) : MouseEvent → Point
  | button _ _ _ => cursor
  | move dx dy => cursor.move dx dy
  | setPosition target => target

/-- An elementary input of either device. -/
inductive Event where
  | key (event : KeyEvent)
  | mouse (event : MouseEvent)
  deriving Repr, DecidableEq

namespace Event

/-- The press of a key. -/
abbrev keyDown (id : KeyId) : Event := key (.down id)

/-- The release of a key. -/
abbrev keyUp (id : KeyId) : Event := key (.up id)

/-- The press or release of a button, with the data that belongs to the button. -/
abbrev press (b : Button) (down : Bool) : Event := mouse (.button b down b.extraData)

/-- A relative cursor move. -/
abbrev move (dx dy : Int32) : Event := mouse (.move dx dy)

/-- The placing of the cursor. -/
abbrev setPosition (target : Point) : Event := mouse (.setPosition target)

/-- The keyboard input that the event is, if it is one. -/
def key? : Event → Option KeyEvent
  | key e => some e
  | mouse _ => none

/-- The mouse input that the event is, if it is one. -/
def mouse? : Event → Option MouseEvent
  | key _ => none
  | mouse e => some e

end Event

end SyntheticInput
