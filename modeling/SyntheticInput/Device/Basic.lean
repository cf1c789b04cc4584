import SyntheticInput.Act
import SyntheticInput.Device.Error

/-!
# Keyboard and mouse as one interface

A pair of devices takes events and answers where the cursor is. Any event may be refused, and while
one is under way somebody may ask for the running trajectory to be cancelled.

* `Attempt`: what became of one event.
* `Devices`: the interface, over any type of device state.
* `deliver`: an attempt as an operation on the devices.
* `keyPress`: a press and its release, the release only if the press was delivered.
-/

namespace SyntheticInput

/-- What became of one event that was handed to the devices. -/
structure Attempt (δ : Type) where
  /-- Whether the event was delivered, and why not. -/
  result : Except DeviceError Unit
  /-- The devices afterwards. -/
  devices : δ
  /-- Whether a cancellation was asked for meanwhile. -/
  cancels : Bool := false
  /-- What the devices report. -/
  notes : List Note := []

/-- A keyboard and a mouse with states of type `δ`. -/
class Devices (δ : Type) where
  /-- Hands an event to the devices. -/
  attempt : Event → δ → Attempt δ
  /-- Asks where the cursor is. -/
  position : Act δ DeviceError Point

variable {δ : Type} [Devices δ]

/-- Hands an event to the devices; a request to cancel concerns only a running trajectory. -/
def deliver (e : Event) : Act δ DeviceError Unit := fun d =>
  let a := Devices.attempt e d
  ⟨a.result, a.devices, a.notes⟩

/-- Hands over events in order, up to the first that is refused. -/
def deliverAll : List Event → Act δ DeviceError Unit
  | [] => pure ()
  | e :: es => do
    deliver e
    deliverAll es

/-- A press of a key and its release, the release only after a press that was delivered. -/
def keyPress (id : KeyId) : Act δ DeviceError Unit := deliverAll [.keyDown id, .keyUp id]

end SyntheticInput
