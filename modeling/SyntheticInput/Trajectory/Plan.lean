import SyntheticInput.Act
import SyntheticInput.Trajectory.Basic

/-!
# Planning a move

The duration of a move grows with its length and shrinks with its speed; a step takes ten
milliseconds at speed one. Two random numbers are drawn for each move, the height of its arch and
the seed of its jitter.

* `normalizeSpeed`: speeds that make no sense count as one.
* `travelTime`, `intervalCount`, `basePauseFor`: the pacing of a move.
* `plan`: a trajectory, planned with the next two numbers of a stream.
-/

namespace SyntheticInput

namespace Trajectory

/-- The least number of intervals. -/
def leastIntervals : UInt64 := 10

/-- Speeds that are not positive and finite count as one. -/
def normalizeSpeed (speed : Float) : Float :=
  if 0 < speed && speed.isFinite then speed else 1

/-- The straight distance from `start` to `target`. -/
def distance (start target : Point) : Float :=
  let x := Float.ofInt (offset start.x target.x)
  let y := Float.ofInt (offset start.y target.y)
  (x * x + y * y).sqrt

/-- How many milliseconds a distance takes: eight tenths of one per pixel at speed one. -/
def travelTime (distance speed : Float) : UInt64 := (distance * 0.8 / speed).toUInt64

/-- One interval for every ten milliseconds, but not fewer than ten. -/
def intervalCount (time : UInt64) : UInt64 := max (time / 10) leastIntervals

/-- The pause after a step: ten milliseconds at speed one. -/
def basePauseFor (speed : Float) : UInt64 := (10 / speed).toUInt64

/-- The trajectory of a move whose two random numbers are `curve` and `jitterSeed`. -/
def ofDraws (curve jitterSeed : UInt64) (start target : Point) (speed : Float) : Trajectory :=
  let speed := normalizeSpeed speed
  { start, target, speed, jitterSeed
    curveStrength := strengthOf curve
    intervals := intervalCount (travelTime (distance start target) speed)
    basePause := basePauseFor speed }

/-- Plans a move with the next two numbers of the stream. -/
def plan {ε : Type} (start target : Point) (speed : Float) : Act Draws ε Trajectory := fun d =>
  let (curve, d₁) := d.next
  let (jitterSeed, d₂) := d₁.next
  let t := ofDraws curve jitterSeed start target speed
  let note := .planned start target (distance start target) t.intervals t.speed t.curveStrength
  ⟨.ok t, d₂, [note]⟩

end Trajectory

end SyntheticInput
