import SyntheticInput.Proofs.Trajectory.Emitted
import SyntheticInput.Simulator

/-!
# What a move does to a simulator

A move asks for the cursor, plans a trajectory from there with the next two numbers of the stream,
and runs it. Whatever comes of this, the token is ready for the next move afterwards.

* `Simulator.query`: the answer of the devices where the cursor is.
* `Simulator.trajectory`: the trajectory of a move from a place.
* `moveTo_of_refused`, `moveTo_of_answered`: a move whose query is refused or answered.
* `setPosition_eq`: placing the cursor is one event.
-/

namespace SyntheticInput

namespace Simulator

variable {δ : Type}

/-- The trajectory of a move from `start`, planned with the next two numbers of the stream. -/
def trajectory (start target : Point) (speed : Option Float) (s : Simulator δ) : Trajectory :=
  .ofDraws s.draws.head (s.draws.drop 1).head start target (speed.getD s.defaultSpeed)

variable [Devices δ]

/-- What the devices answer when they are asked for the cursor. -/
def query (s : Simulator δ) : Outcome δ DeviceError Point :=
  (Devices.position : Act δ DeviceError Point) s.devices

/-- The stage of a move: the devices behind the query, and the token. -/
def stage (s : Simulator δ) : Stage δ := ⟨s.query.state, s.cancel⟩

variable {s : Simulator δ} (target : Point) (speed : Option Float)

/-- A move whose query is refused fails for that reason; nothing is drawn and nothing sent. -/
theorem moveTo_of_refused {cause : DeviceError} (h : s.query.result = .error cause) :
    (moveTo target speed s).result = .error cause ∧
      (moveTo target speed s).state =
        { s with dispatcher := ⟨s.query.state, s.held⟩, cancel := s.cancel.reset } := by
  have hq : (Act.zoom (·.stage.devices)
      (fun d (p : Pointer δ) => { p with stage := { p.stage with devices := d } })
      (Devices.position : Act δ DeviceError Point) s.pointer).result = .error cause := h
  unfold moveTo Act.zoom Pointer.moveTo
  simp only
  rw [Act.result_bind_of_error hq, Act.state_bind_of_error hq]
  exact ⟨rfl, rfl⟩

/-- A move whose query is answered draws two numbers and runs its trajectory. -/
theorem moveTo_of_answered {start : Point} (h : s.query.result = .ok start) :
    let o := Stage.run (s.trajectory start target speed) s.stage
    (moveTo target speed s).result = o.result ∧
      (moveTo target speed s).state =
        { s with
          dispatcher := ⟨o.state.devices, s.held⟩
          draws := s.draws.drop 2
          cancel := o.state.cancel.reset } := by
  have hq : (Act.zoom (·.stage.devices)
      (fun d (p : Pointer δ) => { p with stage := { p.stage with devices := d } })
      (Devices.position : Act δ DeviceError Point) s.pointer).result = .ok start := h
  unfold moveTo Act.zoom Pointer.moveTo
  simp only
  rw [Act.result_bind_of_ok hq, Act.state_bind_of_ok hq]
  exact ⟨rfl, rfl⟩

/-- Placing the cursor is one event, and nothing but the devices takes part in it. -/
theorem setPosition_eq (s : Simulator δ) :
    (setPosition target s).result = (deliver (.setPosition target) s.devices).result ∧
      (setPosition target s).state =
        { s with dispatcher := ⟨(deliver (.setPosition target) s.devices).state, s.held⟩ } := by
  unfold setPosition
  rw [Act.result_note_bind, Act.state_note_bind]
  exact ⟨rfl, rfl⟩

end Simulator

end SyntheticInput
