import SyntheticInput.Command.Error
import SyntheticInput.Device.Basic

/-!
# Sending actions on targets

A dispatcher turns an action on a target into events and remembers which modifiers it holds down.
A modifier that is held is not pressed again; its release is always sent. A click presses and
releases whatever is held and leaves the memory alone.

* `Dispatcher`: the devices and the held modifiers.
* `Dispatcher.activate`, `Dispatcher.release`: the two changes of the memory.
* `Dispatcher.dispatch`: the events of an action on a target.
-/

namespace SyntheticInput

/-- The devices that events go to, and the modifiers that were pressed through them. -/
structure Dispatcher (δ : Type) where
  devices : δ
  held : Held := .none

namespace Dispatcher

variable {δ : Type} [Devices δ]

/-- Sends events in order, up to the first that is refused. -/
def send (es : List Event) : Act (Dispatcher δ) CommandError Unit :=
  Act.mapError .device <|
    Act.zoom (·.devices) (fun d s => { s with devices := d }) (deliverAll es)

/-- Marks a modifier as held; the answer is whether it was not held before. -/
def activate {δ : Type} (m : Modifier) : Act (Dispatcher δ) CommandError Bool := do
  let s ← Act.get
  let fresh := !s.held.contains m
  Act.set { s with held := s.held.insert m }
  Act.note (.activation m fresh)
  return fresh

/-- Marks a modifier as not held. -/
def release {δ : Type} (m : Modifier) : Act (Dispatcher δ) CommandError Unit := do
  Act.modify fun s => { s with held := s.held.erase m }
  Act.note (.released m)

/-- The events of an action on a mouse button. -/
def buttonEvents (b : Button) : Action → List Event
  | .down => [.press b true]
  | .up => [.press b false]
  | .click => [.press b true, .press b false]

/-- The events of an action on a key. -/
def keyEvents (id : KeyId) : Action → List Event
  | .down => [.keyDown id]
  | .up => [.keyUp id]
  | .click => [.keyDown id, .keyUp id]

/-- An action on a mouse button. -/
def dispatchButton (b : Button) (a : Action) : Act (Dispatcher δ) CommandError Unit := do
  send (buttonEvents b a)
  Act.note (.buttonDone b a)

/-- An action on a key that is no modifier. -/
def dispatchKey (id : KeyId) (a : Action) : Act (Dispatcher δ) CommandError Unit := do
  send (keyEvents id a)
  Act.note (.keyDone id a)

/-- An action on a modifier. A press counts as held only if it was delivered, and is not sent for
a modifier that is held already; a release forgets the modifier whether it is delivered or not. -/
def dispatchModifier (id : KeyId) (m : Modifier) :
    Action → Act (Dispatcher δ) CommandError Unit
  | .down => do
    if ← activate m then
      (send [.keyDown id]).onError (release m)
      Act.note (.modifierDone m .down)
    else
      Act.note (.alreadyHeld m)
  | .up => do
    release m
    send [.keyUp id]
    Act.note (.modifierDone m .up)
  | .click => do
    send [.keyDown id, .keyUp id]
    Act.note (.modifierDone m .click)

/-- Sends the events of an action on a target. What was sent before a failure stays sent. -/
def dispatch : Target → Action → Act (Dispatcher δ) CommandError Unit
  | .mouse b, a => dispatchButton b a
  | .key id (some m), a => dispatchModifier id m a
  | .key id none, a => dispatchKey id a

end Dispatcher

end SyntheticInput
