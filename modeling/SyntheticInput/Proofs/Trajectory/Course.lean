import SyntheticInput.Proofs.Trajectory.Steps

/-!
# The course of a path

A cursor carries along what the next step depends on: the walk so far and the stream of jitter. Both
are given here for every step at once, the walk from the path alone and the stream from the seed
alone, and with them the step of any index.

* `Walk.before`, `Walk.moveAt`: the walk in front of a step, and the move of the step.
* `Draws.jitters`: the stream in front of a step.
* `Steps.stepAt`: the step of an index.
* `Steps.toList_eq`: a cursor in front of the first step gives these steps in order.
* `Trajectory.toList_stepsAlong`: so do the steps of a trajectory.
-/

namespace SyntheticInput

variable {κ : Type} [Scalar κ]

namespace Walk

/-- The walk in front of step `i` of `n`. -/
def before (w : Walk κ) (n : UInt64) : Nat → Walk κ
  | 0 => w
  | i + 1 => ((w.before n i).advance (.ofNat i) n).2

/-- The move of step `i` of `n`. -/
def moveAt (w : Walk κ) (n : UInt64) (i : Nat) : Int32 × Int32 :=
  ((w.before n i).advance (.ofNat i) n).1

/-- Where the path leads is settled before the walk. -/
theorem before_path (w : Walk κ) (n : UInt64) (i : Nat) :
    (w.before n i).totalX = w.totalX ∧ (w.before n i).totalY = w.totalY ∧
      (w.before n i).bend = w.bend := by
  induction i with
  | zero => exact ⟨rfl, rfl, rfl⟩
  | succ i ih => exact ih

end Walk

/-- The stream without the first `n` numbers that were taken as jitter. -/
def Draws.jitters (d : Draws) : Nat → Draws
  | 0 => d
  | n + 1 => (d.jitters n).jitter.2

namespace Steps

/-- Step `i`, counted from where the cursor is. -/
def stepAt (s : Steps κ) (i : Nat) : Step :=
  let move := s.walk.moveAt s.intervals i
  ⟨move.1, move.2, Trajectory.pause s.basePause (s.jitter.jitters i).jitter.1⟩

omit [Scalar κ] in
theorem toNat_ofNat_index (s : Steps κ) {i : Nat} (h : i ≤ s.intervals.toNat) :
    (UInt64.ofNat i).toNat = i :=
  UInt64.toNat_ofNat_of_lt' (Nat.lt_of_le_of_lt h s.intervals.toNat_lt)

/-- The cursor in front of step `i`. -/
def cursorAt (s : Steps κ) (i : Nat) (h : i ≤ s.intervals.toNat) : Steps κ :=
  { s with
    walk := s.walk.before s.intervals i
    jitter := s.jitter.jitters i
    index := .ofNat i
    done := false
    index_le := by rwa [UInt64.le_iff_toNat_le, s.toNat_ofNat_index h] }

theorem next?_cursorAt (s : Steps κ) {i : Nat} (h : i < s.intervals.toNat) :
    (s.cursorAt i (Nat.le_of_lt h)).next? = some (s.stepAt i, s.cursorAt (i + 1) h) := by
  have hne : UInt64.ofNat i ≠ s.intervals := by
    intro he
    have hi := s.toNat_ofNat_index (Nat.le_of_lt h)
    rw [he] at hi
    exact absurd hi (Nat.ne_of_gt h)
  have hsucc : UInt64.ofNat i + 1 = UInt64.ofNat (i + 1) := (UInt64.ofNat_add i 1).symm
  have hadvance : (s.cursorAt i (Nat.le_of_lt h)).advance (s.walk.before s.intervals (i + 1))
      (s.jitter.jitters (i + 1)) = s.cursorAt (i + 1) h := by
    unfold advance
    rw [dif_neg (show (s.cursorAt i (Nat.le_of_lt h)).index ≠
      (s.cursorAt i (Nat.le_of_lt h)).intervals from hne)]
    simp only [cursorAt, hsucc]
  rw [← hadvance]
  rfl

/-- The last step has none behind it. -/
theorem toList_cursorAt_last (s : Steps κ) :
    (s.cursorAt s.intervals.toNat (Nat.le_refl _)).toList = [s.stepAt s.intervals.toNat] := by
  have hlast : (s.cursorAt s.intervals.toNat (Nat.le_refl _)).index =
      (s.cursorAt s.intervals.toNat (Nat.le_refl _)).intervals := UInt64.ofNat_toNat
  have hnext : ∃ rest, (s.cursorAt s.intervals.toNat (Nat.le_refl _)).next? =
      some (s.stepAt s.intervals.toNat, rest) ∧ rest.done = true := by
    refine ⟨_, rfl, ?_⟩
    unfold advance
    rw [dif_pos hlast]
  obtain ⟨rest, hnext, hdone⟩ := hnext
  have hnone : rest.next? = none := by
    unfold next?
    rw [if_pos hdone]
  rw [toList_some hnext, toList_none hnone]

/-- From step `i` on, the steps come in order. -/
theorem toList_cursorAt (s : Steps κ) (k i : Nat) (h : i + k = s.intervals.toNat) :
    (s.cursorAt i (by omega)).toList = (List.range' i (k + 1)).map s.stepAt := by
  -- By the number of steps behind step `i`.
  induction k generalizing i with
  | zero =>
    obtain rfl : i = s.intervals.toNat := h
    exact s.toList_cursorAt_last
  | succ k ih =>
    rw [toList_some (s.next?_cursorAt (by omega)), ih (i + 1) (by omega),
      List.range'_succ (s := i), List.map_cons]

/-- A cursor in front of the first step gives the steps in order. -/
theorem toList_eq (s : Steps κ) (hi : s.index = 0) (hd : s.done = false) :
    s.toList = (List.range (s.intervals.toNat + 1)).map s.stepAt := by
  have h0 : s.cursorAt 0 (Nat.zero_le _) = s := by
    cases s
    subst hi hd
    rfl
  rw [List.range_eq_range', ← s.toList_cursorAt s.intervals.toNat 0 (Nat.zero_add _), h0]

end Steps

/-- The steps of a trajectory along any path. -/
theorem Trajectory.toList_stepsAlong (t : Trajectory) (bend : UInt64 → κ × κ) :
    (t.stepsAlong bend).toList =
      (List.range (t.intervals.toNat + 1)).map (t.stepsAlong bend).stepAt :=
  Steps.toList_eq _ rfl rfl

end SyntheticInput
