import SyntheticInput.Device.Basic

/-!
# Recording devices

Devices that send nothing and keep a record of every event instead: one record for the keyboard,
one for the mouse and, where it is attached, a combined log in the order of arrival. The mouse has
a cursor of its own. One key can be made to fail, and queries for the cursor can be refused.

* `Recorder`: the state of the two devices and their log.
* `Recorder.accept`: how a delivered event changes it.
* `Recorder.Request`, `Recorder.perform`: everything that can be asked of the devices directly.
-/

namespace SyntheticInput

/-- Two recording devices with their combined log. -/
structure Recorder where
  /-- Keyboard inputs since the keyboard record was last cleared. -/
  keyboard : List KeyEvent := []
  /-- Mouse inputs since the mouse record was last cleared. -/
  mouse : List MouseEvent := []
  /-- Where the recorded inputs have left the cursor. -/
  cursor : Point := ⟨0, 0⟩
  /-- The key whose inputs fail. -/
  failingKey : Option KeyId := none
  /-- Queries for the cursor are refused. -/
  refusesPosition : Bool := false
  /-- Both devices also write to the combined log. -/
  logging : Bool := true
  /-- Inputs of both devices in the order of arrival. -/
  log : List Event := []
  deriving Repr, DecidableEq

namespace Recorder

/-- A key input fails when its key is the failing one; nothing else fails. -/
def refusal? (r : Recorder) : Event → Option DeviceError
  | .key e =>
    if r.failingKey = some e.key then
      some (.operation ("injected failure for key " ++ e.key.text))
    else none
  | .mouse _ => none

/-- Records an event in the combined log, if there is one. -/
def append (r : Recorder) (e : Event) : Recorder :=
  if r.logging then { r with log := r.log ++ [e] } else r

/-- Records an event on its device and in the combined log; a mouse input moves the cursor. -/
def accept (r : Recorder) : Event → Recorder
  | .key e => { r.append (.key e) with keyboard := r.keyboard ++ [e] }
  | .mouse e =>
    { r.append (.mouse e) with mouse := r.mouse ++ [e], cursor := e.moveCursor r.cursor }

/-- Where the cursor is, unless the query is refused. -/
def position? (r : Recorder) : Except DeviceError Point :=
  if r.refusesPosition then .error (.operation "injected cursor query failure")
  else .ok r.cursor

instance : Devices Recorder where
  attempt e r :=
    match r.refusal? e with
    | some cause => { result := .error cause, devices := r, notes := [.recording e] }
    | none => { result := .ok (), devices := r.accept e, notes := [.recording e] }
  position := fun r => ⟨r.position?, r, []⟩

/-- Everything that can be asked of recording devices directly. -/
inductive Request where
  | keyDown (key : KeyId)
  | keyUp (key : KeyId)
  | keyPress (key : KeyId)
  | button (button : Button) (down : Bool) (extraData : UInt32)
  | move (dx dy : Int32)
  | setPosition (target : Point)
  | position
  | failKey (key : KeyId)
  | refusePosition (refuse : Bool)
  | clearKeyboard
  | clearMouse
  | keyboardRecord
  | mouseRecord
  | combinedLog
  deriving Repr, DecidableEq

/-- What a request is answered with. -/
inductive Reply where
  | done
  | at (position : Point)
  | events (events : List Event)
  deriving Repr, DecidableEq

/-- Carries out one request. -/
def perform : Request → Act Recorder DeviceError Reply
  | .keyDown key => do deliver (.keyDown key); return .done
  | .keyUp key => do deliver (.keyUp key); return .done
  | .keyPress key => do SyntheticInput.keyPress key; return .done
  | .button b down data => do deliver (.mouse (.button b down data)); return .done
  | .move dx dy => do deliver (.move dx dy); return .done
  | .setPosition target => do deliver (.setPosition target); return .done
  | .position => do return .at (← Devices.position)
  | .failKey key => do Act.modify ({ · with failingKey := some key }); return .done
  | .refusePosition refuse => do
    Act.modify ({ · with refusesPosition := refuse }); return .done
  | .clearKeyboard => do Act.modify ({ · with keyboard := [] }); return .done
  | .clearMouse => do Act.modify ({ · with mouse := [] }); return .done
  | .keyboardRecord => do return .events ((← Act.get).keyboard.map .key)
  | .mouseRecord => do return .events ((← Act.get).mouse.map .mouse)
  | .combinedLog => do return .events (← Act.get).log

end Recorder

end SyntheticInput
