import SyntheticInput.Note
import SyntheticInput.Random.Draws
import SyntheticInput.Trajectory.Scalar

/-!
# Trajectories and their steps

A trajectory leads from a start to a target along an eased path with one arch to the side. It is
emitted as relative moves, each followed by a pause. A step is the whole-pixel gap between the path
and the sum of the steps before it, so rounding errors do not add up.

* `Trajectory`: what is fixed when a move is planned.
* `Walk`: the path and how much of it has been walked, in any number type.
* `Steps`: a cursor over the steps, which are computed one at a time.
* `Trajectory.stepsAlong`, `Trajectory.steps`: the steps of a trajectory, in any number type and in
  doubles.
* `Steps.next?`, `Steps.take`, `Steps.fold`: reading steps.
* `Steps.remaining`: how many steps are still to come; `Steps.sizeBounds`: what is announced of it,
  unless counting them goes beyond 64 bits.
-/

namespace SyntheticInput

/-- A planned move. -/
structure Trajectory where
  start : Point
  target : Point
  speed : Float
  /-- The height of the arch, from one half to one. -/
  curveStrength : Float
  /-- The number of gaps between steps. -/
  intervals : UInt64
  /-- The pause after a step, in milliseconds, before jitter. -/
  basePause : UInt64
  /-- The seed of the jitter. -/
  jitterSeed : UInt64
  deriving Repr

/-- One relative move and the pause after it, in milliseconds. -/
structure Step where
  dx : Int32
  dy : Int32
  pause : UInt64
  deriving Repr, DecidableEq

/-- A step without a move is paced, but nothing is sent for it. -/
def Step.isMove (s : Step) : Bool := s.dx != 0 || s.dy != 0

/-- The offset from `a` to `b` along one axis. -/
def offset (a b : Int32) : Int := b.toInt - a.toInt

/-- The sum of two numbers, unless it goes beyond 64 bits. -/
def checkedAdd (a b : UInt64) : Option UInt64 :=
  if a.toBitVec.uaddOverflow b.toBitVec then none else some (a + b)

namespace Trajectory

/-- Peak deviation to the side along the two axes, in pixels, at full strength. -/
def peak : Point := ⟨10, 5⟩

/-- The ratio of a circle's circumference to its diameter. -/
def pi : Float := Float.ofBits 0x400921FB54442D18

/-- The arch to the side at an eased part of the way: half a sine wave of the given height. -/
def arch (ease strength : Float) : Float := (ease * pi).sin * strength

/-- The pause of a step: the base pause and the jitter, no more than the longest pause there is. -/
def pause (base jitter : UInt64) : UInt64 :=
  if base.toNat + jitter.toNat < UInt64.size then base + jitter else (-1 : UInt64)

/-- The number of steps, one more than there are intervals, as far as it can be counted. -/
def stepCount (t : Trajectory) : UInt64 :=
  if t.intervals = -1 then -1 else t.intervals + 1

end Trajectory

/-- A position along a path: how far the path leads, how far each step of it lies to the side, and
the sum of the steps so far. -/
structure Walk (κ : Type) where
  totalX : κ
  totalY : κ
  /-- How far the path lies to the side at a step, along the two axes. -/
  bend : UInt64 → κ × κ
  emittedX : κ
  emittedY : κ

/-- The move of step `index`, and the walk after it. -/
def Walk.advance {κ : Type} [Scalar κ] (w : Walk κ) (index intervals : UInt64) :
    (Int32 × Int32) × Walk κ :=
  let ease : κ := Scalar.progress index intervals
  let x := Scalar.axisPosition w.totalX ease (w.bend index).1
  let y := Scalar.axisPosition w.totalY ease (w.bend index).2
  let dx := Scalar.correction x w.emittedX
  let dy := Scalar.correction y w.emittedY
  ((Scalar.toInt32 dx, Scalar.toInt32 dy),
    { w with emittedX := w.emittedX + dx, emittedY := w.emittedY + dy })

/-- A cursor over the steps of a path. -/
structure Steps (κ : Type) where
  walk : Walk κ
  intervals : UInt64
  basePause : UInt64
  jitter : Draws
  index : UInt64 := 0
  /-- The last step has been given. -/
  done : Bool := false
  index_le : index ≤ intervals := by exact UInt64.zero_le

namespace Trajectory

/-- How far the path lies to the side at step `index`: the arch, along the two axes. -/
def bend (t : Trajectory) (index : UInt64) : Float × Float :=
  let curve := arch (Scalar.progress index t.intervals) t.curveStrength
  (curve * Scalar.ofOffset peak.x.toInt, curve * Scalar.ofOffset peak.y.toInt)

/-- The cursor in front of the first step of a path that lies to the side as `bend` says. -/
def stepsAlong {κ : Type} [Scalar κ] (t : Trajectory) (bend : UInt64 → κ × κ) : Steps κ where
  walk :=
    { totalX := Scalar.ofOffset (offset t.start.x t.target.x)
      totalY := Scalar.ofOffset (offset t.start.y t.target.y)
      bend
      emittedX := Scalar.ofOffset 0
      emittedY := Scalar.ofOffset 0 }
  intervals := t.intervals
  basePause := t.basePause
  jitter := .seeded t.jitterSeed

/-- The cursor in front of the first step. -/
def steps (t : Trajectory) : Steps Float := t.stepsAlong t.bend

end Trajectory

namespace Steps

variable {κ : Type}

/-- The index after one below the last does not pass the last. -/
theorem succ_le_of_ne {i n : UInt64} (h : i ≤ n) (hne : i ≠ n) : i + 1 ≤ n := by
  rw [UInt64.le_iff_toNat_le] at h ⊢
  have hn := n.toNat_lt
  have hlt : i.toNat ≠ n.toNat := fun e => hne (UInt64.toNat_inj.1 e)
  rw [UInt64.toNat_add, show (1 : UInt64).toNat = 1 from rfl, Nat.mod_eq_of_lt (by omega)]
  omega

/-- The cursor behind the step of its index, with the walk and the jitter that the step leaves. -/
def advance (s : Steps κ) (walk : Walk κ) (jitter : Draws) : Steps κ :=
  if h : s.index = s.intervals then { s with walk, jitter, done := true }
  else { s with walk, jitter, index := s.index + 1, index_le := succ_le_of_ne s.index_le h }

/-- The next step and the cursor behind it, nothing after the last. -/
def next? [Scalar κ] (s : Steps κ) : Option (Step × Steps κ) :=
  if s.done then none
  else
    let (move, walk) := s.walk.advance s.index s.intervals
    let (extra, jitter) := s.jitter.jitter
    some (⟨move.1, move.2, Trajectory.pause s.basePause extra⟩, s.advance walk jitter)

/-- How many steps are still to come. -/
def remaining (s : Steps κ) : Nat :=
  if s.done then 0 else s.intervals.toNat - s.index.toNat + 1

/-- The announced number of steps still to come. Where 64 bits cannot hold it, counting fails and
nothing is announced. -/
def sizeHint (s : Steps κ) : Option UInt64 :=
  if s.done then some 0 else checkedAdd (s.intervals - s.index) 1

/-- The announced bounds of the number of steps still to come, from below and from above, where
sizes go up to `largest`. A number that is larger has no bound from above. -/
def sizeBounds (largest : Nat) (s : Steps κ) : Option (Nat × Option Nat) :=
  s.sizeHint.map fun n => if n.toNat ≤ largest then (n.toNat, some n.toNat) else (largest, none)

/-- A step is taken from the steps to come. -/
theorem remaining_of_next? [Scalar κ] {s t : Steps κ} {step : Step}
    (h : s.next? = some (step, t)) : t.remaining + 1 = s.remaining := by
  unfold next? at h
  split at h
  · simp at h
  · next hd =>
    simp only [Option.some.injEq, Prod.mk.injEq] at h
    obtain ⟨-, rfl⟩ := h
    have hle := UInt64.le_iff_toNat_le.1 s.index_le
    unfold advance remaining
    split
    · next he => simp [he]
    · next he =>
      have hne : s.index.toNat ≠ s.intervals.toNat := fun e => he (UInt64.toNat_inj.1 e)
      have hn := s.intervals.toNat_lt
      have h1 : (s.index + 1).toNat = s.index.toNat + 1 := by
        rw [UInt64.toNat_add, show (1 : UInt64).toNat = 1 from rfl]
        exact Nat.mod_eq_of_lt (by omega)
      simp only [h1]
      omega

/-- The next `n` steps, or as many as there are, and the cursor behind them. -/
def take [Scalar κ] : Nat → Steps κ → List Step × Steps κ
  | 0, s => ([], s)
  | n + 1, s =>
    match s.next? with
    | none => ([], s)
    | some (step, rest) =>
      let (steps, last) := take n rest
      (step :: steps, last)

/-- Combines all steps to come, from the first to the last. -/
def fold [Scalar κ] {β : Type} (f : β → Step → β) (b : β) (s : Steps κ) : β :=
  match _h : s.next? with
  | none => b
  | some (step, rest) => fold f (f b step) rest
termination_by s.remaining
decreasing_by
  have := remaining_of_next? _h
  omega

end Steps

/-- The sum of all moves of a trajectory. It has no bound here; that of `2 ^ 32` steps or fewer fits
into 64 bits. -/
def Trajectory.totalMove (t : Trajectory) : Int × Int :=
  t.steps.fold (fun s step => (s.1 + step.dx.toInt, s.2 + step.dy.toInt)) (0, 0)

end SyntheticInput
