import SyntheticInput.Proofs.Simulator.Move
import SyntheticInput.Proofs.Trajectory.Account
import SyntheticInput.Proofs.Trajectory.Counting

/-!
# How large counts and sums get

Counts of steps and sums of moves are kept without a bound. The counts of a planned move fit into 64
bits, however slow it is, and so do the sums of up to `2 ^ 32` steps of any trajectory.

* `Trajectory.intervals_ofDraws_le`: a move is planned with a tenth of `2 ^ 64` intervals at most;
  `Trajectory.sizeBounds_ofDraws`: so its steps are announced exactly.
* `Stage.run_counts_le`, `Simulator.moveTo_counts_lt`: the counts of a report.
* `Trajectory.sums_fit`, `Trajectory.totalMove_fits`: no addition of up to `2 ^ 32` steps overflows.
-/

namespace SyntheticInput

/-! ## Planned moves -/

namespace Trajectory

theorem toNat_intervalCount_le (time : UInt64) :
    (intervalCount time).toNat ≤ UInt64.size / 10 := by
  have htime : time.toNat < UInt64.size := time.toNat_lt
  have hdiv : (time / 10).toNat = time.toNat / 10 := UInt64.toNat_div time 10
  change (if time / 10 ≤ leastIntervals then leastIntervals else time / 10).toNat ≤ _
  split
  · decide
  · omega

/-- However slow a move is, it is planned with a tenth of `2 ^ 64` intervals or fewer. -/
theorem intervals_ofDraws_le (curve jitterSeed : UInt64) (start target : Point) (speed : Float) :
    (ofDraws curve jitterSeed start target speed).intervals.toNat ≤ UInt64.size / 10 :=
  toNat_intervalCount_le _

/-- The steps of a planned move are announced exactly, however many of them were read. -/
theorem sizeBounds_ofDraws (curve jitterSeed : UInt64) (start target : Point) (speed : Float)
    (k largest : Nat) :
    let t := ofDraws curve jitterSeed start target speed
    let left := t.intervals.toNat + 1 - k
    (t.steps.take k).2.sizeBounds largest =
      some (if left ≤ largest then (left, some left) else (largest, none)) := by
  intro t left
  have hle : t.intervals.toNat ≤ UInt64.size / 10 := intervals_ofDraws_le ..
  refine (t.sizeBounds_take k largest).trans (if_neg fun h => ?_)
  rw [h.2] at hle
  exact absurd hle (by decide)

end Trajectory

/-! ## Counts -/

namespace Stage

/-- No more moves are counted than steps, and no more steps than there are. -/
theorem Accounted.counts_le {token : Bool} {ss : List Step} {xs : List Exchange} {report : Report}
    (h : Accounted token ss xs (.ok report)) :
    report.movesEmitted ≤ report.stepsRun ∧ report.stepsRun ≤ ss.length := by
  obtain ⟨hstops, -, -, -, hmoves⟩ := h.finished report rfl
  refine ⟨?_, hstops.le_length⟩
  rw [hmoves]
  exact Nat.le_trans (length_moves_le _) (List.length_take_le _ _)

variable {δ : Type} [Devices δ]

/-- The counts of a report, whatever the devices do. -/
theorem run_counts_le {t : Trajectory} {s : Stage δ} {report : Report}
    (h : (run t s).result = .ok report) :
    report.movesEmitted ≤ report.stepsRun ∧ report.stepsRun ≤ t.intervals.toNat + 1 := by
  obtain ⟨xs, -, he⟩ := emit_emitted t.steps {} s
  have hacc : Accounted s.cancel.isSet t.steps.toList xs (.ok report) := by
    rw [← h]
    exact he.accounted
  rw [← t.length_steps]
  exact hacc.counts_le

end Stage

/-- The counts of a move fit into 64 bits. -/
theorem Simulator.moveTo_counts_lt {δ : Type} [Devices δ] {s : Simulator δ} {target : Point}
    {speed : Option Float} {report : Report} (h : (moveTo target speed s).result = .ok report) :
    report.movesEmitted ≤ report.stepsRun ∧ report.stepsRun < UInt64.size := by
  cases hq : s.query.result with
  | error cause =>
    rw [(moveTo_of_refused target speed hq).1] at h
    cases h
  | ok start =>
    rw [(moveTo_of_answered target speed hq).1] at h
    obtain ⟨hmoves, hsteps⟩ := Stage.run_counts_le h
    have hle : (s.trajectory start target speed).intervals.toNat ≤ UInt64.size / 10 :=
      Trajectory.intervals_ofDraws_le ..
    have hsize : UInt64.size / 10 + 1 < UInt64.size := by decide
    exact ⟨hmoves, by omega⟩

/-! ## Sums -/

/-- A number of 64 bits with its sign. -/
def InInt64 (n : Int) : Prop := Int64.minValue.toInt ≤ n ∧ n ≤ Int64.maxValue.toInt

theorem Event.shift_bounds (e : Event) :
    (-0x80000000 ≤ e.shift.1 ∧ e.shift.1 ≤ 0x7FFFFFFF) ∧
      -0x80000000 ≤ e.shift.2 ∧ e.shift.2 ≤ 0x7FFFFFFF := by
  unfold Event.shift
  split
  · next dx dy =>
    exact ⟨⟨dx.le_toInt, Int.le_of_lt_add_one dx.toInt_lt⟩, dy.le_toInt,
      Int.le_of_lt_add_one dy.toInt_lt⟩
  · decide

/-- Each move adds 32 bits to a sum, at most. -/
theorem shift_bounds (es : List Event) :
    (-0x80000000 * es.length ≤ (shift es).1 ∧ (shift es).1 ≤ 0x7FFFFFFF * es.length) ∧
      -0x80000000 * es.length ≤ (shift es).2 ∧ (shift es).2 ≤ 0x7FFFFFFF * es.length := by
  induction es with
  | nil => decide
  | cons e es ih =>
    have he := e.shift_bounds
    rw [shift, List.length_cons, Int.natCast_add]
    omega

/-- No addition overflows when the first `k` steps are summed up, if there are `2 ^ 32` or fewer. -/
theorem Trajectory.sums_fit {t : Trajectory} (h : t.intervals.toNat < 0x100000000) (k : Nat) :
    InInt64 (shift (moves (t.steps.toList.take k))).1 ∧
      InInt64 (shift (moves (t.steps.toList.take k))).2 := by
  have hbounds := shift_bounds (moves (t.steps.toList.take k))
  have hlength : (moves (t.steps.toList.take k)).length ≤ 0x100000000 := by
    calc (moves (t.steps.toList.take k)).length
      _ ≤ (t.steps.toList.take k).length := length_moves_le _
      _ ≤ t.steps.toList.length := List.length_take_le' _ _
      _ = t.intervals.toNat + 1 := t.length_steps
      _ ≤ 0x100000000 := h
  generalize (moves (t.steps.toList.take k)).length = n at hbounds hlength
  have hmin : Int64.minValue.toInt = -0x8000000000000000 := rfl
  have hmax : Int64.maxValue.toInt = 0x7FFFFFFFFFFFFFFF := rfl
  rw [InInt64, InInt64, hmin, hmax]
  omega

/-- Nor does the total move. -/
theorem Trajectory.totalMove_fits {t : Trajectory} (h : t.intervals.toNat < 0x100000000) :
    InInt64 t.totalMove.1 ∧ InInt64 t.totalMove.2 := by
  have hall := Trajectory.sums_fit h t.steps.toList.length
  rw [List.take_length, ← t.totalMove_eq] at hall
  exact hall

end SyntheticInput
