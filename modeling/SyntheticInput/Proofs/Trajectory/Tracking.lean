import Mathlib.Algebra.BigOperators.Group.Finset.Basic
import SyntheticInput.Proofs.Trajectory.Course
import SyntheticInput.Proofs.Trajectory.Rounding

/-!
# Steps that track a path

Every step is the gap between the path and the sum of the steps before it, rounded. The sum is whole
again, so the next step starts from a gap of at most one half, and no error is carried further than
one step.

* `axisPath`: one axis of a path, for any number of intervals and any deviation to the side.
* `walked`, `delta`: the sum of the steps in front of a step, and the step.
* `Tracks`: steps that stay within one half of a path and land where it ends.
* `tracks_axisPath`: the steps of a path do.
* `Trajectory.stepAt_eq`: the steps of a trajectory are those of its two axes.
-/

namespace SyntheticInput

open Finset Scalar

/-! ## One axis -/

/-- One axis of a path of `n` intervals that leads `total` pixels ahead and lies to the side as
`deviation` says. -/
def axisPath (total : ℤ) (n : ℕ) (deviation : ℕ → ℚ) (i : ℕ) : ℚ :=
  axisPosition (total : ℚ) (smoothstep ((i : ℚ) / n)) (deviation i)

/-- The sum of the steps in front of step `i`. -/
def walked (p : ℕ → ℚ) : ℕ → ℚ
  | 0 => 0
  | i + 1 => walked p i + correction (p i) (walked p i)

/-- Step `i` along the path. -/
def delta (p : ℕ → ℚ) (i : ℕ) : ℚ := correction (p i) (walked p i)

/-- The steps `d` follow the path `p` to its end, `total` pixels ahead behind step `n`. -/
structure Tracks (p d : ℕ → ℚ) (n : ℕ) (total : ℤ) : Prop where
  /-- Every step is the gap between the path and the steps before it, rounded to a whole number. -/
  rounded : ∀ i, ∃ z : ℤ, d i = z ∧ NearestEven (p i - ∑ j ∈ range i, d j) z
  /-- The first step does not move. -/
  first : d 0 = 0
  /-- The sum of the steps stays within one half of the path. -/
  near : ∀ i, |∑ j ∈ range (i + 1), d j - p i| ≤ 1 / 2
  /-- All steps together lead to the end. -/
  lands : ∑ j ∈ range (n + 1), d j = total

variable {p : ℕ → ℚ} {n : ℕ} {total : ℤ} {deviation : ℕ → ℚ}

theorem axisPath_zero (h : deviation 0 = 0) : axisPath total n deviation 0 = 0 := by
  rw [axisPath, Nat.cast_zero, zero_div, smoothstep_zero, h, axisPosition_eq, mul_zero, add_zero]

theorem axisPath_last (hn : n ≠ 0) (h : deviation n = 0) :
    axisPath total n deviation n = total := by
  have hn' : (n : ℚ) ≠ 0 := Nat.cast_ne_zero.2 hn
  rw [axisPath, div_self hn', smoothstep_one, h, axisPosition_eq, mul_one, add_zero]

theorem walked_eq_sum (p : ℕ → ℚ) (i : ℕ) : walked p i = ∑ j ∈ range i, delta p j := by
  induction i with
  | zero => rfl
  | succ i ih => rw [sum_range_succ, ← ih, walked, delta]

/-- A step is the gap that the steps before it leave, rounded. -/
theorem exists_delta (p : ℕ → ℚ) (i : ℕ) :
    ∃ z : ℤ, delta p i = z ∧ NearestEven (p i - ∑ j ∈ range i, delta p j) z := by
  rw [← walked_eq_sum]
  exact exists_roundEven (p i - walked p i)

/-- The steps in front of a step sum up to a whole number. -/
theorem exists_walked (p : ℕ → ℚ) (i : ℕ) : ∃ z : ℤ, walked p i = z := by
  induction i with
  | zero => exact ⟨0, by simp [walked]⟩
  | succ i ih =>
    obtain ⟨w, hw⟩ := ih
    obtain ⟨z, hz, -⟩ := exists_roundEven (p i - walked p i)
    refine ⟨w + z, ?_⟩
    rw [walked, correction]
    push_cast
    rw [← hw, ← hz]

/-- Behind every step the sum of the steps is within one half of the path: what the step before it
left open is part of the gap that it closes. -/
theorem abs_sum_delta_sub_le (p : ℕ → ℚ) (i : ℕ) :
    |∑ j ∈ range (i + 1), delta p j - p i| ≤ 1 / 2 := by
  obtain ⟨z, hz, hnear, -⟩ := exists_delta p i
  rw [sum_range_succ, hz, abs_sub_comm]
  rwa [sub_sub] at hnear

/-- Where the path meets a whole number, the steps do, too. -/
theorem sum_delta_of_eq {i : ℕ} {z : ℤ} (h : p i = z) : ∑ j ∈ range (i + 1), delta p j = z := by
  obtain ⟨w, hw⟩ := exists_walked p i
  have hround : delta p i = ((z - w : ℤ) : ℚ) := by
    rw [← roundEven_intCast, delta, correction, h, hw]
    push_cast
    rfl
  rw [sum_range_succ, ← walked_eq_sum, hround, hw]
  push_cast
  ring

/-- A path that starts at zero and ends at `total` is tracked by its steps. -/
theorem tracks_delta (h0 : p 0 = 0) (hn : p n = total) : Tracks p (delta p) n total where
  rounded := exists_delta p
  first := by
    have h := sum_delta_of_eq (p := p) (i := 0) (z := 0) (by simpa using h0)
    simpa using h
  near := abs_sum_delta_sub_le p
  lands := sum_delta_of_eq hn

theorem tracks_axisPath (hn : n ≠ 0) (h0 : deviation 0 = 0) (h1 : deviation n = 0) :
    Tracks (axisPath total n deviation) (delta (axisPath total n deviation)) n total :=
  tracks_delta (axisPath_zero h0) (axisPath_last hn h1)

/-! ## Both axes of a trajectory -/

namespace Trajectory

variable (t : Trajectory) (bend : UInt64 → ℚ × ℚ)

/-- The first axis of a trajectory that lies to the side as `bend` says. -/
def pathX : ℕ → ℚ :=
  axisPath (offset t.start.x t.target.x) t.intervals.toNat fun i => (bend (.ofNat i)).1

/-- The second axis. -/
def pathY : ℕ → ℚ :=
  axisPath (offset t.start.y t.target.y) t.intervals.toNat fun i => (bend (.ofNat i)).2

/-- One more step of the walk, on both axes. -/
theorem advance_before {i : ℕ} (h : i ≤ t.intervals.toNat) {a b : ℚ}
    (hx : ((t.stepsAlong bend).walk.before t.intervals i).emittedX = a)
    (hy : ((t.stepsAlong bend).walk.before t.intervals i).emittedY = b) :
    let r := ((t.stepsAlong bend).walk.before t.intervals i).advance (.ofNat i) t.intervals
    r.1 = (toInt32 (correction (t.pathX bend i) a), toInt32 (correction (t.pathY bend i) b)) ∧
      r.2.emittedX = a + correction (t.pathX bend i) a ∧
      r.2.emittedY = b + correction (t.pathY bend i) b := by
  obtain ⟨htx, hty, hbend⟩ := (t.stepsAlong bend).walk.before_path t.intervals i
  have hi : (UInt64.ofNat i).toNat = i := (t.stepsAlong bend).toNat_ofNat_index h
  have hease : (progress (.ofNat i) t.intervals : ℚ) =
      smoothstep ((i : ℚ) / t.intervals.toNat) := by
    change smoothstep (((UInt64.ofNat i).toNat : ℚ) / t.intervals.toNat) = _
    rw [hi]
  unfold Walk.advance
  dsimp only
  rw [htx, hty, hbend, hx, hy, hease]
  exact ⟨rfl, rfl, rfl⟩

/-- The walk in front of a step, or behind the last, has made the steps before it. -/
theorem emitted_before {i : ℕ} (h : i ≤ t.intervals.toNat + 1) :
    ((t.stepsAlong bend).walk.before t.intervals i).emittedX = walked (t.pathX bend) i ∧
      ((t.stepsAlong bend).walk.before t.intervals i).emittedY = walked (t.pathY bend) i := by
  induction i with
  | zero => exact ⟨Int.cast_zero, Int.cast_zero⟩
  | succ i ih =>
    obtain ⟨hx, hy⟩ := ih (Nat.le_of_succ_le h)
    exact (t.advance_before bend (Nat.le_of_succ_le_succ h) hx hy).2

/-- The steps of a trajectory are those of its two axes, cast to 32 bits. -/
theorem stepAt_eq {i : ℕ} (h : i ≤ t.intervals.toNat) :
    (((t.stepsAlong bend).stepAt i).dx, ((t.stepsAlong bend).stepAt i).dy) =
      (toInt32 (delta (t.pathX bend) i), toInt32 (delta (t.pathY bend) i)) := by
  obtain ⟨hx, hy⟩ := t.emitted_before bend (Nat.le_succ_of_le h)
  exact (t.advance_before bend h hx hy).1

end Trajectory

end SyntheticInput
