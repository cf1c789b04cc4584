import SyntheticInput.Device.Faulty
import SyntheticInput.Device.Recorder
import SyntheticInput.Script.Basic

/-!
# Sessions

A session is a sequence of requests to one simulator over recording devices that can be made to
fail. After each request the session shows what was recorded, which modifiers are held, where the
cursor is and whether a cancellation is pending.

* `Session.Request`: everything that can be asked.
* `Session.perform`: carries out one request.
* `Session.Answer`, `Session.step`: a request with what it shows.
* `Session.run`: a whole session.
* `sendEach`: several commands in a row, whether they fail or not.
-/

namespace SyntheticInput

/-- Recording devices behind injected faults. -/
abbrev Rig := Faulty Recorder

/-- The combined log of a rig. -/
def Rig.log (r : Rig) : List Event := r.inner.log

namespace Session

/-- What can be asked in a session. -/
inductive Request where
  | send (command : String)
  | line (text : String)
  | move (target : Point) (speed : Option Float)
  | setPosition (target : Point)
  | withSeed (seed : UInt64)
  | cancel
  | fail (faults : Faults)
  | failKey (key : KeyId)
  | refusePosition (refuse : Bool)
  | clear
  | records

/-- What a request is answered with when it succeeds. -/
inductive Reply where
  | done
  /-- The line asked for nothing. -/
  | blank
  | report (r : Report)
  | records (keyboard : List KeyEvent) (mouse : List MouseEvent)

/-- Why a request fails. -/
inductive Failure where
  | command (cause : CommandError)
  | script (cause : ScriptError)
  | device (cause : DeviceError)
  deriving Repr, DecidableEq

/-- The wording of a failure. -/
def Failure.message : Failure → String
  | command cause => cause.message
  | script cause => cause.message
  | device cause => cause.message

/-- The simulator of a session. -/
abbrev State := Simulator Rig

/-- Changes the recording devices. -/
def mapRecorder (f : Recorder → Recorder) : State → State :=
  Simulator.mapDevices fun d => { d with inner := f d.inner }

/-- Carries out one request. -/
def perform : Request → Act State Failure Reply
  | .send command => do
    Act.mapError .command (Simulator.send command)
    return .done
  | .line text => do
    let asked ← Act.mapError .script (runLine text)
    return if asked then .done else .blank
  | .move target speed => do
    return .report (← Act.mapError .device (Simulator.moveTo target speed))
  | .setPosition target => do
    Act.mapError .device (Simulator.setPosition target)
    return .done
  | .withSeed seed => do
    Act.modify (Simulator.withSeed seed)
    return .done
  | .cancel => do
    Act.modify Simulator.requestCancel
    return .done
  | .fail faults => do
    Act.modify (Simulator.mapDevices fun d => { d with faults })
    return .done
  | .failKey key => do
    Act.modify (mapRecorder fun r => { r with failingKey := some key })
    return .done
  | .refusePosition refuse => do
    Act.modify (mapRecorder fun r => { r with refusesPosition := refuse })
    return .done
  | .clear => do
    Act.modify (mapRecorder fun r => { r with keyboard := [], mouse := [] })
    return .done
  | .records => do
    let r := (← Act.get).devices.inner
    return .records r.keyboard r.mouse

/-- What a session shows after a request. -/
structure Answer where
  result : Except Failure Reply
  /-- The events that the request added to the combined log. -/
  events : List Event
  held : Held
  /-- Where the cursor is, unless such queries are refused. -/
  cursor : Option Point
  cancelled : Bool

/-- Carries out one request and shows what there is to see. -/
def step (r : Request) (s : State) : Answer × State × List Note :=
  let o := perform r s
  let devices := o.state.devices.inner
  ({ result := o.result
     events := devices.log.drop s.devices.inner.log.length
     held := o.state.held
     cursor := devices.position?.toOption
     cancelled := o.state.cancel.isSet },
    o.state, o.notes)

/-- Carries out requests one after the other. -/
def run : List Request → State → List Answer × State × List Note
  | [], s => ([], s, [])
  | r :: rs, s =>
    let (a, s₁, notes₁) := step r s
    let (as, s₂, notes₂) := run rs s₁
    (a :: as, s₂, notes₁ ++ notes₂)

/-- The state in which a session starts: the cursor is placed and nothing fails. -/
def start (c : Config) (entropy : UInt64) (cursor : Point) : State :=
  .ofConfig c entropy { inner := { cursor } }

end Session

/-- Runs commands in order, each whether the ones before it failed or not. -/
def sendEach {ε δ : Type} [Devices δ] :
    List String → Act (Simulator δ) ε (List (Except CommandError Unit))
  | [] => return []
  | c :: cs => do
    let r ← Act.attempt (Simulator.send c)
    return r :: (← sendEach cs)

end SyntheticInput
