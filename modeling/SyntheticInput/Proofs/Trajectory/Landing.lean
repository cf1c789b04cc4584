import Mathlib.Algebra.BigOperators.Ring.Finset
import SyntheticInput.Proofs.Device.Reliable
import SyntheticInput.Proofs.Trajectory.Account
import SyntheticInput.Proofs.Trajectory.Tracking

/-!
# Landing on the target

In exact arithmetic the steps of a trajectory sum up to its whole offset. Cursors add up moves in 32
bits and wrap around, which a whole sum does not notice, so behind the last step a cursor that went
along with all of them is on the target.

* `Trajectory.shift_moves_take`: the moves of the first steps, summed up.
* `Trajectory.shift_moves`: the moves of all steps that fit sum up to the offset.
* `Trajectory.cursor_emit`: so they take a cursor to the target.
* `Trajectory.Lands`: what becomes of a trajectory that is run in exact arithmetic.
* `drift_corrected`: steps track their path, and a trajectory lands on its target.
-/

namespace SyntheticInput

open Finset Scalar

/-- A fraction in the range of 32 bits. -/
def InInt32 (x : ℚ) : Prop := -0x80000000 ≤ x ∧ x ≤ 0x7FFFFFFF

instance (x : ℚ) : Decidable (InInt32 x) := inferInstanceAs (Decidable (_ ∧ _))

/-- Steps that fit are cast to themselves. -/
theorem toInt_toInt32_delta {p : ℕ → ℚ} {i : ℕ} (h : InInt32 (delta p i)) :
    ((toInt32 (delta p i)).toInt : ℚ) = delta p i := by
  obtain ⟨z, hz, -⟩ := exists_delta p i
  rw [hz] at h ⊢
  have hmin : -2147483648 ≤ z := by exact_mod_cast h.1
  have hmax : z ≤ 2147483647 := by exact_mod_cast h.2
  rw [toInt_toInt32 ⟨hmin, hmax⟩]

theorem Tracks.sum_eq {p : ℕ → ℚ} {n : ℕ} {total : ℤ} (h : Tracks p (delta p) n total)
    {f : ℕ → ℤ} (hf : ∀ i ≤ n, (f i : ℚ) = delta p i) : ∑ i ∈ range (n + 1), f i = total := by
  have hcast : ((∑ i ∈ range (n + 1), f i : ℤ) : ℚ) = total := by
    rw [Int.cast_sum, ← h.lands]
    exact sum_congr rfl fun i hi => hf i (Nat.le_of_lt_succ (mem_range.1 hi))
  exact_mod_cast hcast

/-! ## Sums of moves -/

theorem foldl_range_add (f g : ℕ → ℤ) (n : ℕ) :
    (List.range n).foldl (fun s i => (s.1 + f i, s.2 + g i)) (0, 0) =
      (∑ i ∈ range n, f i, ∑ i ∈ range n, g i) := by
  induction n with
  | zero => rfl
  | succ n ih =>
    rw [List.range_succ, List.foldl_append, ih, sum_range_succ, sum_range_succ]
    rfl

/-- The whole offset leads from `a` to `b`, also where it takes more than 32 bits. -/
theorem add_ofInt_offset (a b : Int32) : a + .ofInt (offset a b) = b := by
  rw [offset, Int32.ofInt_sub, Int32.ofInt_toInt, Int32.ofInt_toInt, Int32.add_comm,
    Int32.sub_add_cancel]

namespace Trajectory

variable {t : Trajectory} {bend : UInt64 → ℚ × ℚ}

/-- All steps fit into 32 bits. -/
def StepsFit (t : Trajectory) (bend : UInt64 → ℚ × ℚ) : Prop :=
  ∀ i ≤ t.intervals.toNat, InInt32 (delta (t.pathX bend) i) ∧ InInt32 (delta (t.pathY bend) i)

/-- On both axes the steps track the path to the target. -/
structure OnPath (t : Trajectory) (bend : UInt64 → ℚ × ℚ) : Prop where
  x : Tracks (t.pathX bend) (delta (t.pathX bend)) t.intervals.toNat (offset t.start.x t.target.x)
  y : Tracks (t.pathY bend) (delta (t.pathY bend)) t.intervals.toNat (offset t.start.y t.target.y)

theorem onPath (hn : 1 ≤ t.intervals) (h0 : bend 0 = (0, 0)) (h1 : bend t.intervals = (0, 0)) :
    t.OnPath bend := by
  have hn' : t.intervals.toNat ≠ 0 := Nat.pos_iff_ne_zero.1 (UInt64.le_iff_toNat_le.1 hn)
  have hlast : bend (.ofNat t.intervals.toNat) = (0, 0) := by rw [UInt64.ofNat_toNat, h1]
  exact
    { x := tracks_axisPath hn' (congrArg Prod.fst h0) (congrArg Prod.fst hlast)
      y := tracks_axisPath hn' (congrArg Prod.snd h0) (congrArg Prod.snd hlast) }

/-- The steps are those of the two axes, cast to 32 bits. -/
theorem map_toList_stepsAlong (t : Trajectory) (bend : UInt64 → ℚ × ℚ) :
    (t.stepsAlong bend).toList.map (fun s => (s.dx, s.dy)) =
      (List.range (t.intervals.toNat + 1)).map fun i =>
        (toInt32 (delta (t.pathX bend) i), toInt32 (delta (t.pathY bend) i)) := by
  rw [toList_stepsAlong, List.map_map]
  refine List.map_congr_left fun i hi => ?_
  exact t.stepAt_eq bend (Nat.le_of_lt_succ (List.mem_range.1 hi))

/-- A step that fits is sent as it is. -/
theorem toInt_stepAt {i : ℕ} (hi : i ≤ t.intervals.toNat)
    (hfit : InInt32 (delta (t.pathX bend) i) ∧ InInt32 (delta (t.pathY bend) i)) :
    (((t.stepsAlong bend).stepAt i).dx.toInt : ℚ) = delta (t.pathX bend) i ∧
      (((t.stepsAlong bend).stepAt i).dy.toInt : ℚ) = delta (t.pathY bend) i := by
  obtain ⟨hdx, hdy⟩ := Prod.mk.inj (t.stepAt_eq bend hi)
  rw [hdx, hdy]
  exact ⟨toInt_toInt32_delta hfit.1, toInt_toInt32_delta hfit.2⟩

/-- The moves of the first steps, summed up. -/
theorem shift_moves_take (t : Trajectory) (bend : UInt64 → ℚ × ℚ) {k : ℕ}
    (hk : k ≤ t.intervals.toNat + 1) :
    shift (moves ((t.stepsAlong bend).toList.take k)) =
      (∑ i ∈ range k, ((t.stepsAlong bend).stepAt i).dx.toInt,
        ∑ i ∈ range k, ((t.stepsAlong bend).stepAt i).dy.toInt) := by
  have hsum := foldl_add_steps ((t.stepsAlong bend).toList.take k) (0, 0)
  rw [toList_stepsAlong, ← List.map_take, List.take_range, min_eq_left hk, List.foldl_map,
    foldl_range_add] at hsum
  rw [toList_stepsAlong, ← List.map_take, List.take_range, min_eq_left hk]
  simpa using hsum.symm

/-- The moves of steps that fit sum up to the offset of the trajectory. -/
theorem shift_moves (h : t.OnPath bend) (hfit : t.StepsFit bend) :
    shift (moves (t.stepsAlong bend).toList) =
      (offset t.start.x t.target.x, offset t.start.y t.target.y) := by
  have hlen : (t.stepsAlong bend).toList.length = t.intervals.toNat + 1 :=
    Steps.length_toList (t.stepsAlong bend)
  have hall := t.shift_moves_take bend (Nat.le_refl _)
  rw [List.take_of_length_le (Nat.le_of_eq hlen)] at hall
  rw [hall, h.x.sum_eq fun i hi => (toInt_stepAt hi (hfit i hi)).1,
    h.y.sum_eq fun i hi => (toInt_stepAt hi (hfit i hi)).2]

/-- An emission of steps that fit, if it is neither refused nor cancelled, takes a cursor from the
start to the target. -/
theorem cursor_emit (h : t.OnPath bend) (hfit : t.StepsFit bend) {δ : Type} [Devices δ]
    {cursor : δ → Point} (hcursor : Follows cursor) {s : Stage δ} {report : Report}
    (hstart : cursor s.devices = t.start)
    (hres : (Stage.emit (t.stepsAlong bend) {} s).result = .ok report)
    (hc : report.cancelled = false) :
    cursor (Stage.emit (t.stepsAlong bend) {} s).state.devices = t.target := by
  obtain ⟨xs, hp, he⟩ := Stage.emit_emitted (t.stepsAlong bend) {} s
  rw [hres] at he
  rw [hcursor.passed hp, he.accounted.delivered_eq hc, hstart,
    foldl_moveCursor_of_moves fun e he => eq_move_of_mem_moves he, shift_moves h hfit,
    add_ofInt_offset, add_ofInt_offset]

/-- On recording devices every step is run. -/
theorem result_emit_recorder (t : Trajectory) (bend : UInt64 → ℚ × ℚ) (r : Recorder) :
    (Stage.emit (t.stepsAlong bend) {} (⟨r, {}⟩ : Stage Recorder)).result =
      .ok ⟨t.intervals.toNat + 1, (moves (t.stepsAlong bend).toList).length, false⟩ := by
  obtain ⟨xs, hp, he⟩ := Stage.emit_emitted (t.stepsAlong bend) {} (⟨r, {}⟩ : Stage Recorder)
  have hlen : (t.stepsAlong bend).toList.length = t.intervals.toNat + 1 :=
    Steps.length_toList (t.stepsAlong bend)
  obtain ⟨-, hres⟩ := he.accounted.undisturbed (Recorder.passed_moves hp he.only_moves)
  rw [hres, ← hlen]
  simp [Stage.spanReport, Stage.span]

/-- What becomes of a trajectory that is run along `bend` in exact arithmetic. -/
structure Lands (t : Trajectory) (bend : UInt64 → ℚ × ℚ) : Prop where
  /-- Its steps are those of its two axes, cast to 32 bits. -/
  steps : (t.stepsAlong bend).toList.map (fun s => (s.dx, s.dy)) =
    (List.range (t.intervals.toNat + 1)).map fun i =>
      (toInt32 (delta (t.pathX bend) i), toInt32 (delta (t.pathY bend) i))
  /-- They track the path to the target. -/
  onPath : t.OnPath bend
  /-- If all steps fit, an emission that is neither refused nor cancelled takes a cursor from the
  start to the target, whatever the devices are. -/
  lands : t.StepsFit bend → ∀ (δ : Type) [Devices δ] (cursor : δ → Point), Follows cursor →
    ∀ (s : Stage δ) (report : Report), cursor s.devices = t.start →
      (Stage.emit (t.stepsAlong bend) {} s).result = .ok report → report.cancelled = false →
        cursor (Stage.emit (t.stepsAlong bend) {} s).state.devices = t.target
  /-- Recording devices refuse and cancel no move, so on them every step is run. -/
  completes : ∀ r : Recorder,
    (Stage.emit (t.stepsAlong bend) {} (⟨r, {}⟩ : Stage Recorder)).result =
      .ok ⟨t.intervals.toNat + 1, (moves (t.stepsAlong bend).toList).length, false⟩

end Trajectory

/-- **Rounding errors do not add up.** For any number of intervals, any whole offset and any
deviation that vanishes at both ends, the steps stay within one half of the path and sum up to the
offset. So a trajectory of which all steps fit, and are run, lands on its target. -/
theorem drift_corrected :
    (∀ (n : ℕ) (total : ℤ) (deviation : ℕ → ℚ), 1 ≤ n → deviation 0 = 0 → deviation n = 0 →
      Tracks (axisPath total n deviation) (delta (axisPath total n deviation)) n total) ∧
    ∀ (t : Trajectory) (bend : UInt64 → ℚ × ℚ), 1 ≤ t.intervals → bend 0 = (0, 0) →
      bend t.intervals = (0, 0) → t.Lands bend := by
  refine ⟨fun n total deviation hn h0 h1 => tracks_axisPath (Nat.pos_iff_ne_zero.1 hn) h0 h1, ?_⟩
  intro t bend hn h0 h1
  have hpath := Trajectory.onPath hn h0 h1
  constructor
  · exact t.map_toList_stepsAlong bend
  · exact hpath
  · intro hfit δ _ cursor hcursor s report hstart hres hc
    exact Trajectory.cursor_emit hpath hfit hcursor hstart hres hc
  · exact t.result_emit_recorder bend

/-- Three pixels ahead and one up, in two intervals. -/
def Trajectory.hop : Trajectory :=
  { start := ⟨0, 0⟩, target := ⟨3, -1⟩, speed := 1, curveStrength := 1, intervals := 2
    basePause := 5, jitterSeed := 0 }

/-- Half way, one pixel to the side along the first axis and half of one along the second. -/
def Trajectory.hopBend (i : UInt64) : ℚ × ℚ := if i = 1 then (1, 1 / 2) else (0, 0)

/-- Half way the path is two and a half pixels ahead. The step goes to the even neighbour, and the
last step makes up for it. -/
theorem drift_corrected_hop :
    1 ≤ Trajectory.hop.intervals ∧ Trajectory.hopBend 0 = (0, 0) ∧
      Trajectory.hopBend Trajectory.hop.intervals = (0, 0) ∧
      Trajectory.hop.pathX Trajectory.hopBend 1 = 5 / 2 ∧
      (Trajectory.hop.stepsAlong Trajectory.hopBend).toList.map (fun s => (s.dx, s.dy)) =
        [(0, 0), (2, 0), (1, -1)] ∧
      Tracks (axisPath 3 2 fun _ => 0) (delta (axisPath 3 2 fun _ => 0)) 2 3 ∧
      ((Stage.emit (Trajectory.hop.stepsAlong Trajectory.hopBend) {}
        (⟨{}, {}⟩ : Stage Recorder)).state.devices.cursor = Trajectory.hop.target) := by
  have hn : 1 ≤ Trajectory.hop.intervals := by decide
  have h0 : Trajectory.hopBend 0 = (0, 0) := by decide +kernel
  have h1 : Trajectory.hopBend Trajectory.hop.intervals = (0, 0) := by decide +kernel
  have hlands := drift_corrected.2 Trajectory.hop Trajectory.hopBend hn h0 h1
  have hfit : Trajectory.hop.StepsFit Trajectory.hopBend := by
    unfold Trajectory.StepsFit
    rw [show Trajectory.hop.intervals.toNat = 2 from rfl]
    decide +kernel
  refine ⟨hn, h0, h1, by decide +kernel, ?_, ?_, ?_⟩
  · rw [hlands.steps]
    decide +kernel
  · exact drift_corrected.1 2 3 (fun _ => 0) (by decide) rfl rfl
  · exact hlands.lands hfit Recorder Recorder.cursor Recorder.follows ⟨{}, {}⟩ _ rfl
      (hlands.completes {}) rfl

end SyntheticInput
