import SyntheticInput.Cancel
import SyntheticInput.Device.Basic
import SyntheticInput.Trajectory.Plan

/-!
# Emitting a trajectory

Steps are sent one after the other. Before each of them the cancellation token is looked at; a step
without a move is counted, but nothing is sent for it. A refused move ends the emission.

* `Stage`: the devices and the token that stops what runs on them.
* `Report`: what became of an emission that was not refused.
* `Stage.emit`: sends the steps of a cursor.
* `Stage.run`: sends a whole trajectory.
-/

namespace SyntheticInput

/-- Devices, and the token that stops what runs on them. -/
structure Stage (δ : Type) where
  devices : δ
  cancel : CancelToken := {}

/-- What became of an emission. The counts have no bound here; those of a planned move fit into 64
bits. -/
structure Report where
  /-- Steps that were run, with or without a move. -/
  stepsRun : Nat := 0
  /-- Moves that were sent. -/
  movesEmitted : Nat := 0
  cancelled : Bool := false
  deriving Repr, DecidableEq

namespace Stage

variable {δ : Type} [Devices δ]

/-- Sends a relative move; a request to cancel that comes meanwhile sets the token. -/
def sendMove (dx dy : Int32) : Act (Stage δ) DeviceError Unit := fun s =>
  let a := Devices.attempt (.move dx dy) s.devices
  ⟨a.result, ⟨a.devices, s.cancel.cancelIf a.cancels⟩, a.notes⟩

/-- Runs one step: its move, if it has one, and the count. -/
def runStep (step : Step) (r : Report) : Act (Stage δ) DeviceError Report := do
  if step.isMove then sendMove step.dx step.dy
  Act.note (.stepRun r.stepsRun step.dx step.dy step.pause)
  return { r with
    stepsRun := r.stepsRun + 1
    movesEmitted := r.movesEmitted + if step.isMove then 1 else 0 }

/-- Runs the steps to come, up to the first in front of which the token is set. -/
def emit {κ : Type} [Scalar κ] (steps : Steps κ) (r : Report) : Act (Stage δ) DeviceError Report :=
  match _h : steps.next? with
  | none => pure r
  | some (step, rest) => do
    if (← Act.get).cancel.isSet then
      Act.note (.runCancelled r.stepsRun)
      return { r with cancelled := true }
    else
      emit rest (← runStep step r)
termination_by steps.remaining
decreasing_by
  have := Steps.remaining_of_next? _h
  omega

/-- Runs a whole trajectory. -/
def run (t : Trajectory) : Act (Stage δ) DeviceError Report := emit t.steps {}

end Stage

/-- A stage together with the stream from which its moves are planned. -/
structure Pointer (δ : Type) where
  stage : Stage δ
  draws : Draws

namespace Pointer

variable {δ : Type} [Devices δ]

/-- Moves the cursor from where it is to `target`. A refused query plans nothing. -/
def moveTo (target : Point) (speed : Float) : Act (Pointer δ) DeviceError Report := do
  let start ← Act.zoom (·.stage.devices)
    (fun d p => { p with stage := { p.stage with devices := d } }) Devices.position
  let t ← Act.zoom (·.draws) (fun d p => { p with draws := d })
    (Trajectory.plan start target speed)
  Act.zoom (·.stage) (fun s p => { p with stage := s }) (Stage.run t)

end Pointer

end SyntheticInput
