import SyntheticInput.Proofs.Trajectory.Counting
import SyntheticInput.Proofs.Trajectory.Course

/-!
# Pacing and geometry

A cursor computes the moves and the pauses of its steps side by side, from one state. They have
nothing to do with each other: the walk alone gives the moves, the seed of the jitter and the base
pause alone give the pauses.

* `Draws.jitterAt`: the jitter of a step, by the seed and the index of the step.
* `Trajectory.toNat_pause`: pauses are added up to the longest pause that there is.
* `Trajectory.map_pause_stepsAlong`, `Trajectory.map_delta_stepsAlong`: the pauses and the moves of
  all steps.
* `Trajectory.pacing_apart`: what the pauses depend on, and what the moves depend on.
-/

namespace SyntheticInput

/-- What is added to the pause behind step `i`, where the stream of jitter has the given seed. -/
def Draws.jitterAt (seed : UInt64) (i : Nat) : UInt64 := ((Draws.seeded seed).jitters i).jitter.1

/-- The move of a step. -/
def Step.delta (s : Step) : Int32 × Int32 := (s.dx, s.dy)

namespace Trajectory

/-- A pause is the sum of the base pause and the jitter, or the longest pause that there is. -/
theorem toNat_pause (base jitter : UInt64) :
    (pause base jitter).toNat = min (base.toNat + jitter.toNat) (UInt64.size - 1) := by
  unfold pause
  split
  · next h =>
    rw [UInt64.toNat_add, Nat.mod_eq_of_lt h]
    omega
  · next h =>
    have hlast : (-1 : UInt64).toNat = UInt64.size - 1 := rfl
    rw [hlast]
    omega

section AllSteps

variable {κ : Type} [Scalar κ] (t : Trajectory) (bend : UInt64 → κ × κ)

/-- Whatever the path, the pauses come from the base pause and the seed. -/
theorem map_pause_stepsAlong :
    (t.stepsAlong bend).toList.map (·.pause) =
      (List.range (t.intervals.toNat + 1)).map fun i =>
        pause t.basePause (Draws.jitterAt t.jitterSeed i) := by
  rw [toList_stepsAlong, List.map_map]
  rfl

/-- Whatever the pauses, the moves come from the walk. -/
theorem map_delta_stepsAlong :
    (t.stepsAlong bend).toList.map (·.delta) =
      (List.range (t.intervals.toNat + 1)).map
        ((t.stepsAlong bend).walk.moveAt t.intervals) := by
  rw [toList_stepsAlong, List.map_map]
  rfl

/-- The step of an index that a trajectory has. -/
theorem getElem?_steps {i : Nat} (h : i ≤ t.intervals.toNat) :
    t.steps.toList[i]? = some (t.steps.stepAt i) := by
  rw [steps, toList_stepsAlong, List.getElem?_map, List.getElem?_range (by omega)]
  rfl

end AllSteps

/-- The walk of a trajectory, by what it depends on. -/
theorem walk_steps_congr {a b : Trajectory} (hstart : a.start = b.start)
    (htarget : a.target = b.target) (hcurve : a.curveStrength = b.curveStrength)
    (hintervals : a.intervals = b.intervals) : a.steps.walk = b.steps.walk := by
  have hbend : a.bend = b.bend := by
    funext i
    simp only [bend, hcurve, hintervals]
  simp only [steps, stepsAlong, hstart, htarget, hbend]

/-- **Pacing and geometry have nothing to do with each other.** A pause is the base pause and zero,
one or two milliseconds, which the seed and the index of the step decide, up to the longest pause
there is. So trajectories with the same seed and the same base pause have the same pauses as far as
both of them go, wherever they lead; and trajectories along the same path have the same moves,
whatever their pauses. However far the steps of a trajectory are read, they are always the same. -/
theorem pacing_apart :
    (∀ (seed : UInt64) (i : Nat), Draws.jitterAt seed i < 3) ∧
    (∀ t : Trajectory, t.steps.toList.map (·.pause.toNat) =
      (List.range (t.intervals.toNat + 1)).map fun i =>
        min (t.basePause.toNat + (Draws.jitterAt t.jitterSeed i).toNat) (UInt64.size - 1)) ∧
    (∀ a b : Trajectory, a.jitterSeed = b.jitterSeed → a.basePause = b.basePause →
      ∀ i, i ≤ a.intervals.toNat → i ≤ b.intervals.toNat →
        ∃ x y, a.steps.toList[i]? = some x ∧ b.steps.toList[i]? = some y ∧ x.pause = y.pause) ∧
    (∀ a b : Trajectory, a.start = b.start → a.target = b.target →
      a.curveStrength = b.curveStrength → a.intervals = b.intervals →
        a.steps.toList.map (·.delta) = b.steps.toList.map (·.delta)) ∧
    ∀ (t : Trajectory) (k : Nat), (t.steps.take k).1 = t.steps.toList.take k ∧
      (t.steps.take k).2.toList = t.steps.toList.drop k := by
  refine ⟨fun seed i => Draws.jitter_lt _, fun t => ?_, ?_, ?_, fun t k => t.steps.take_eq k⟩
  · have hpauses := congrArg (List.map UInt64.toNat) (t.map_pause_stepsAlong t.bend)
    rw [List.map_map, List.map_map] at hpauses
    refine hpauses.trans (List.map_congr_left fun i _ => ?_)
    exact toNat_pause _ _
  · intro a b hseed hbase i ha hb
    refine ⟨_, _, a.getElem?_steps ha, b.getElem?_steps hb, ?_⟩
    change pause a.basePause (Draws.jitterAt a.jitterSeed i) =
      pause b.basePause (Draws.jitterAt b.jitterSeed i)
    rw [hseed, hbase]
  · intro a b hstart htarget hcurve hintervals
    have hdeltas : ∀ t : Trajectory, t.steps.toList.map (·.delta) =
        (List.range (t.intervals.toNat + 1)).map (t.steps.walk.moveAt t.intervals) :=
      fun t => t.map_delta_stepsAlong t.bend
    rw [hdeltas, hdeltas, walk_steps_congr hstart htarget hcurve hintervals, hintervals]

/-- A short way with pauses that almost are the longest there are. -/
def crawl : Trajectory :=
  { start := ⟨0, 0⟩, target := ⟨3, -1⟩, speed := 1, curveStrength := 1, intervals := 10
    basePause := -2, jitterSeed := 7 }

/-- Another way, in fewer steps, at the same pace. -/
def detour : Trajectory :=
  { start := ⟨5, 5⟩, target := ⟨-400, 20⟩, speed := 3, curveStrength := 0, intervals := 6
    basePause := -2, jitterSeed := 7 }

/-- The first way at another pace. -/
def stroll : Trajectory := { crawl with basePause := 10, jitterSeed := 8 }

/-- The fifth step behind the first takes two milliseconds more than the base pause, which is more
than there is, on both ways. -/
theorem pacing_apart_crawl :
    crawl.jitterSeed = detour.jitterSeed ∧ crawl.basePause = detour.basePause ∧
      (∃ x y, crawl.steps.toList[5]? = some x ∧ detour.steps.toList[5]? = some y ∧
        x.pause = y.pause) ∧
      Draws.jitterAt crawl.jitterSeed 5 = 2 ∧
      (crawl.steps.toList.map (·.pause.toNat))[5]? = some (UInt64.size - 1) ∧
      crawl.steps.toList.map (·.delta) = stroll.steps.toList.map (·.delta) := by
  obtain ⟨-, hpauses, hsame, hmoves, -⟩ := pacing_apart
  have hjitter : Draws.jitterAt crawl.jitterSeed 5 = 2 := by decide +kernel
  refine ⟨rfl, rfl, hsame crawl detour rfl rfl 5 (by decide) (by decide), hjitter, ?_,
    hmoves crawl stroll rfl rfl rfl rfl⟩
  rw [hpauses, List.getElem?_map, List.getElem?_range (by decide), Option.map_some, hjitter]
  rfl

end Trajectory

end SyntheticInput
