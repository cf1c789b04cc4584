import SyntheticInput.Command.Basic
import SyntheticInput.Config.Basic
import SyntheticInput.Dispatcher
import SyntheticInput.Trajectory.Emission

/-!
# The simulator

One pair of devices, the names and aliases of keys, the held modifiers, the randomness of moves and
the token that cancels them.

* `Simulator.ofConfig`: a simulator for a configuration and devices.
* `Simulator.send`: runs a key command.
* `Simulator.moveTo`, `Simulator.setPosition`: move and place the cursor.
-/

namespace SyntheticInput

/-- Everything that commands and moves depend on. -/
structure Simulator (δ : Type) where
  resolver : Resolver
  dispatcher : Dispatcher δ
  draws : Draws
  defaultSpeed : Float
  cancel : CancelToken := {}

namespace Simulator

variable {δ : Type}

/-- The devices. -/
def devices (s : Simulator δ) : δ := s.dispatcher.devices

/-- The held modifiers. -/
def held (s : Simulator δ) : Held := s.dispatcher.held

/-- Changes the devices. -/
def mapDevices (f : δ → δ) (s : Simulator δ) : Simulator δ :=
  { s with dispatcher := { s.dispatcher with devices := f s.dispatcher.devices } }

/-- The simulator of a configuration. Without a seed in the configuration the randomness starts
from `entropy`. -/
def ofConfig (c : Config) (entropy : UInt64) (devices : δ) : Simulator δ where
  resolver := .ofAliases c.keys.toList
  dispatcher := { devices }
  draws := .seeded (c.settings.seed.getD entropy)
  defaultSpeed := c.settings.defaultSpeed

/-- What is reported when the simulator of a configuration is set up. -/
def setupNotes (c : Config) : List Note :=
  match c.settings.seed with
  | some seed => [.fixedSeed seed]
  | none => []

/-- Starts the randomness again from a seed. -/
def withSeed (seed : UInt64) (s : Simulator δ) : Simulator δ := { s with draws := .seeded seed }

/-- Asks the running move, or else the next one, to stop. -/
def requestCancel (s : Simulator δ) : Simulator δ := { s with cancel := s.cancel.cancel }

variable [Devices δ]

/-- Runs a key command; a blank text does nothing. -/
def send (text : String) : Act (Simulator δ) CommandError Unit := do
  match ← Command.read text with
  | none => return ()
  | some command =>
    let target ← command.target (← Act.get).resolver
    Act.note (.dispatching target command.action)
    Act.zoom (·.dispatcher) (fun d s => { s with dispatcher := d })
      (Dispatcher.dispatch target command.action)

/-- The part of a simulator that moves the cursor. -/
def pointer (s : Simulator δ) : Pointer δ where
  stage := { devices := s.dispatcher.devices, cancel := s.cancel }
  draws := s.draws

/-- Puts that part back. -/
def putPointer (p : Pointer δ) (s : Simulator δ) : Simulator δ :=
  { s with
    dispatcher := { s.dispatcher with devices := p.stage.devices }
    cancel := p.stage.cancel
    draws := p.draws }

/-- Moves the cursor along a curved path, at the default speed where none is given. The token is
ready for the next move afterwards, however the move ended. -/
def moveTo (target : Point) (speed : Option Float) : Act (Simulator δ) DeviceError Report :=
  fun s =>
    let o := Act.zoom pointer putPointer
      (Pointer.moveTo target (speed.getD s.defaultSpeed)) s
    { o with state := { o.state with cancel := o.state.cancel.reset } }

/-- Places the cursor at once. -/
def setPosition (target : Point) : Act (Simulator δ) DeviceError Unit := do
  Act.note (.placing target.x target.y)
  Act.zoom devices (fun d => mapDevices fun _ => d) (deliver (.setPosition target))

end Simulator

end SyntheticInput
