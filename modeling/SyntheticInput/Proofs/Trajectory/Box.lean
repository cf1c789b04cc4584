import SyntheticInput.Proofs.Trajectory.Bounds

/-!
# The box of a trajectory

A trajectory does not leave the rectangle between its start and its target, but for the arch, which
lies to the positive side of the path by ten pixels and five at most. That holds behind every step,
so it holds wherever an emission ends. It also keeps every sum of steps within 32 bits, if start and
target leave room for the arch.

* `Trajectory.Arched`: a path of ten intervals or more with such an arch.
* `Trajectory.InBox`, `Trajectory.reached`: the rectangle, and where events lead from the start.
* `Trajectory.Contained`: what becomes of such a path in exact arithmetic.
* `stays_in_box`: its steps fit into 32 bits, and it stays in its box.
-/

namespace SyntheticInput

open Finset Scalar

namespace Trajectory

/-- The path lies to the side by ten pixels and five at most, and not at its start. -/
structure Arched (t : Trajectory) (bend : UInt64 → ℚ × ℚ) : Prop where
  first : bend 0 = (0, 0)
  x : ∀ i ≤ t.intervals, 0 ≤ (bend i).1 ∧ (bend i).1 ≤ 10
  y : ∀ i ≤ t.intervals, 0 ≤ (bend i).2 ∧ (bend i).2 ≤ 5

/-- The place lies between start and target, or beyond them by no more than the arch. -/
structure InBox (t : Trajectory) (p : ℤ × ℤ) : Prop where
  x : min t.start.x.toInt t.target.x.toInt ≤ p.1 ∧
    p.1 ≤ max t.start.x.toInt t.target.x.toInt + 10
  y : min t.start.y.toInt t.target.y.toInt ≤ p.2 ∧
    p.2 ≤ max t.start.y.toInt t.target.y.toInt + 5

/-- Where events lead from the start, on a plane without an end. -/
def reached (t : Trajectory) (es : List Event) : ℤ × ℤ :=
  (t.start.x.toInt + (shift es).1, t.start.y.toInt + (shift es).2)

/-- Start and target leave room for the arch. -/
structure HasRoom (t : Trajectory) : Prop where
  start_x : t.start.x.toInt ≤ 0x7FFFFFFF - 10
  target_x : t.target.x.toInt ≤ 0x7FFFFFFF - 10
  start_y : t.start.y.toInt ≤ 0x7FFFFFFF - 5
  target_y : t.target.y.toInt ≤ 0x7FFFFFFF - 5

/-- What becomes of a trajectory that goes along `bend` in exact arithmetic. -/
structure Contained (t : Trajectory) (bend : UInt64 → ℚ × ℚ) : Prop where
  /-- All steps fit into 32 bits. -/
  fit : t.StepsFit bend
  /-- So no cast saturates: steps are sent as they are. -/
  sent : ∀ i ≤ t.intervals.toNat,
    (((t.stepsAlong bend).stepAt i).dx.toInt : ℚ) = delta (t.pathX bend) i ∧
      (((t.stepsAlong bend).stepAt i).dy.toInt : ℚ) = delta (t.pathY bend) i
  /-- What is accounted for in front of a step, or behind the last, is what was sent. -/
  accounted : ∀ i ≤ t.intervals.toNat + 1,
    ((t.stepsAlong bend).walk.before t.intervals i).emittedX =
        ((∑ j ∈ range i, ((t.stepsAlong bend).stepAt j).dx.toInt : ℤ) : ℚ) ∧
      ((t.stepsAlong bend).walk.before t.intervals i).emittedY =
        ((∑ j ∈ range i, ((t.stepsAlong bend).stepAt j).dy.toInt : ℤ) : ℚ)
  /-- Behind every step the box was not left. -/
  inBox : ∀ k, t.InBox (t.reached (moves ((t.stepsAlong bend).toList.take k)))
  /-- Nor was it by anything that was delivered, whatever the devices do, and however the emission
  ends. -/
  delivered_inBox : ∀ (δ : Type) [Devices δ] (s : Stage (Traced δ)) (es : List Event),
    es <+: delivered (s.devices.since
      (Stage.emit (t.stepsAlong bend) {} s).state.devices) → t.InBox (t.reached es)
  /-- If there is room for the arch, no addition overflows that takes a cursor along. -/
  fits : t.HasRoom → ∀ (δ : Type) [Devices δ] (s : Stage (Traced δ)),
    Fits t.start (delivered (s.devices.since
      (Stage.emit (t.stepsAlong bend) {} s).state.devices))
  /-- So the cursor that started with the trajectory is in the box. -/
  cursor_inBox : t.HasRoom → ∀ (δ : Type) [Devices δ] (cursor : δ → Point), Follows cursor →
    ∀ s : Stage δ, cursor s.devices = t.start →
      let p := cursor (Stage.emit (t.stepsAlong bend) {} s).state.devices
      t.InBox (p.x.toInt, p.y.toInt)

section Arched

variable {t : Trajectory} {bend : UInt64 → ℚ × ℚ}

theorem Arched.axes (h : t.Arched bend) {i : ℕ} (hi : i ≤ t.intervals.toNat) :
    (0 ≤ (bend (.ofNat i)).1 ∧ (bend (.ofNat i)).1 ≤ (10 : ℤ)) ∧
      0 ≤ (bend (.ofNat i)).2 ∧ (bend (.ofNat i)).2 ≤ (5 : ℤ) := by
  have hle : UInt64.ofNat i ≤ t.intervals := by
    rw [UInt64.le_iff_toNat_le, (t.stepsAlong bend).toNat_ofNat_index hi]
    exact hi
  exact ⟨h.x _ hle, h.y _ hle⟩

/-- Offsets have at most 33 bits. -/
theorem abs_offset_le (a b : Int32) : |offset a b| ≤ 0xFFFFFFFF := by
  have ha := a.le_toInt
  have ha' := a.toInt_lt
  have hb := b.le_toInt
  have hb' := b.toInt_lt
  rw [offset]
  exact abs_le.2 ⟨by omega, by omega⟩

/-- All steps along an arched path fit into 32 bits. -/
theorem Arched.stepsFit (h : t.Arched bend) (hn : 10 ≤ t.intervals) : t.StepsFit bend := by
  have hn' : 10 ≤ t.intervals.toNat := UInt64.le_iff_toNat_le.1 hn
  intro i hi
  refine ⟨inInt32_delta hn' (abs_offset_le _ _) (Int.le_refl 10) (fun j hj => (h.axes hj).1)
    (congrArg Prod.fst h.first) hi, ?_⟩
  exact inInt32_delta hn' (abs_offset_le _ _) (by decide : (5 : ℤ) ≤ 10)
    (fun j hj => (h.axes hj).2) (congrArg Prod.snd h.first) hi

/-- So they are sent as they are. -/
theorem Arched.sent (h : t.Arched bend) (hn : 10 ≤ t.intervals) (i : ℕ)
    (hi : i ≤ t.intervals.toNat) :
    (((t.stepsAlong bend).stepAt i).dx.toInt : ℚ) = delta (t.pathX bend) i ∧
      (((t.stepsAlong bend).stepAt i).dy.toInt : ℚ) = delta (t.pathY bend) i :=
  toInt_stepAt hi (h.stepsFit hn i hi)

/-- Behind every step of an arched path the box was not left. -/
theorem Arched.inBox (h : t.Arched bend) (hn : 10 ≤ t.intervals) (k : ℕ) :
    t.InBox (t.reached (moves ((t.stepsAlong bend).toList.take k))) := by
  have hlen : (t.stepsAlong bend).toList.length = t.intervals.toNat + 1 :=
    Steps.length_toList (t.stepsAlong bend)
  have hk : min k (t.intervals.toNat + 1) ≤ t.intervals.toNat + 1 := Nat.min_le_right _ _
  obtain ⟨hx0, hx1⟩ := sum_mem_of_delta (fun i hi => (h.sent hn i hi).1)
    (fun i hi => axisPath_mem _ hi (h.axes hi).1.1 (h.axes hi).1.2) (min_le_left _ _)
    (by omega) hk
  obtain ⟨hy0, hy1⟩ := sum_mem_of_delta (fun i hi => (h.sent hn i hi).2)
    (fun i hi => axisPath_mem _ hi (h.axes hi).2.1 (h.axes hi).2.2) (min_le_left _ _)
    (by omega) hk
  rw [List.take_eq_take_min, hlen, reached, t.shift_moves_take bend hk]
  rw [offset] at hx0 hx1 hy0 hy1
  constructor
  · dsimp only
    omega
  · dsimp only
    omega

theorem InBox.inRange {p : ℤ × ℤ} (h : t.InBox p) (hroom : t.HasRoom) :
    InRange p.1 ∧ InRange p.2 := by
  obtain ⟨⟨hx0, hx1⟩, hy0, hy1⟩ := h
  obtain ⟨hsx, htx, hsy, hty⟩ := hroom
  have hmin : Int32.minValue.toInt = -2147483648 := rfl
  have hmax : Int32.maxValue.toInt = 2147483647 := rfl
  have hsx' := t.start.x.le_toInt
  have htx' := t.target.x.le_toInt
  have hsy' := t.start.y.le_toInt
  have hty' := t.target.y.le_toInt
  unfold InRange
  omega

/-- What an emission along an arched path has delivered, however it ended, does not leave the
box. -/
theorem Arched.passed_inBox (h : t.Arched bend) (hn : 10 ≤ t.intervals) {token : Bool}
    {xs : List Exchange} {res : Except DeviceError Report}
    (hacc : Stage.Accounted token (t.stepsAlong bend).toList xs res) {es : List Event}
    (hes : es <+: delivered xs) : t.InBox (t.reached es) := by
  obtain ⟨k, hk⟩ := hacc.exists_delivered_eq
  rw [hk] at hes
  obtain ⟨j, rfl⟩ := exists_moves_take hes
  rw [List.take_take]
  exact h.inBox hn _

theorem Arched.passed_fits (h : t.Arched bend) (hn : 10 ≤ t.intervals) (hroom : t.HasRoom)
    {token : Bool} {xs : List Exchange} {res : Except DeviceError Report}
    (hacc : Stage.Accounted token (t.stepsAlong bend).toList xs res) :
    Fits t.start (delivered xs) := by
  obtain ⟨k, hk⟩ := hacc.exists_delivered_eq
  refine fits_of_prefix (fun e he => eq_move_of_mem_moves (hk ▸ he)) fun pre hpre => ?_
  exact (h.passed_inBox hn hacc hpre).inRange hroom

/-- An arched path of ten intervals or more is contained in its box. -/
theorem Arched.contained (h : t.Arched bend) (hn : 10 ≤ t.intervals) : t.Contained bend where
  fit := h.stepsFit hn
  sent := h.sent hn
  accounted := by
    intro i hi
    obtain ⟨hx, hy⟩ := t.emitted_before bend hi
    have hle : ∀ j ∈ range i, j ≤ t.intervals.toNat := fun j hj =>
      Nat.le_of_lt_succ (Nat.lt_of_lt_of_le (mem_range.1 hj) hi)
    rw [hx, hy, walked_eq_sum, walked_eq_sum, Int.cast_sum, Int.cast_sum]
    exact ⟨sum_congr rfl fun j hj => (h.sent hn j (hle j hj)).1.symm,
      sum_congr rfl fun j hj => (h.sent hn j (hle j hj)).2.symm⟩
  inBox := h.inBox hn
  delivered_inBox := by
    intro δ _ s es hes
    obtain ⟨xs, hp, he⟩ := Stage.emit_emitted (t.stepsAlong bend) {} s
    rw [hp.since_eq] at hes
    exact h.passed_inBox hn he.accounted hes
  fits := by
    intro hroom δ _ s
    obtain ⟨xs, hp, he⟩ := Stage.emit_emitted (t.stepsAlong bend) {} s
    rw [hp.since_eq]
    exact h.passed_fits hn hroom he.accounted
  cursor_inBox := by
    intro hroom δ _ cursor hcursor s hstart
    obtain ⟨xs, hp, he⟩ := Stage.emit_emitted (t.stepsAlong bend) {} s
    obtain ⟨k, hk⟩ := he.accounted.exists_delivered_eq
    obtain ⟨hx, hy⟩ := toInt_foldl_moveCursor
      (fun e hmem => eq_move_of_mem_moves (hk ▸ hmem)) (h.passed_fits hn hroom he.accounted)
    dsimp only
    rw [hcursor.passed hp, hstart, hx, hy]
    exact h.passed_inBox hn he.accounted List.prefix_rfl

end Arched

/-- However short and fast a move is, it is planned with ten intervals or more. -/
theorem le_intervals_ofDraws (curve jitterSeed : UInt64) (start target : Point) (speed : Float) :
    10 ≤ (ofDraws curve jitterSeed start target speed).intervals := by
  change leastIntervals ≤ max _ leastIntervals
  rw [UInt64.le_iff_toNat_le, UInt64.max_def]
  split
  · exact Nat.le_refl _
  · next h => exact Nat.le_of_lt (Nat.lt_of_not_le (mt UInt64.le_iff_toNat_le.2 h))

end Trajectory

/-- **A trajectory stays in its box.** In exact arithmetic, over ten intervals or more, and moves are
planned with no fewer, the steps of either axis fit into 32 bits, and behind every step the sum of
them lies between start and target, or beyond by no more than the arch. So no cast saturates, no
emission leaves the box, however it ends, and no cursor overflows where start and target leave room
for the arch. -/
theorem stays_in_box :
    (∀ (curve jitterSeed : UInt64) (start target : Point) (speed : Float),
      10 ≤ (Trajectory.ofDraws curve jitterSeed start target speed).intervals) ∧
    (∀ (a b : Int32) (n : ℕ) (side : ℤ) (arch : ℕ → ℚ), 10 ≤ n → side ≤ 10 → arch 0 = 0 →
      (∀ i ≤ n, 0 ≤ arch i ∧ arch i ≤ side) → ∀ i ≤ n,
        let d := delta (axisPath (offset a b) n arch)
        InInt32 (d i) ∧ ((min a.toInt b.toInt : ℤ) : ℚ) ≤ a.toInt + ∑ j ∈ range (i + 1), d j ∧
          a.toInt + ∑ j ∈ range (i + 1), d j ≤ ((max a.toInt b.toInt + side : ℤ) : ℚ)) ∧
    ∀ (t : Trajectory) (bend : UInt64 → ℚ × ℚ), 10 ≤ t.intervals → t.Arched bend →
      t.Contained bend := by
  refine ⟨Trajectory.le_intervals_ofDraws, ?_, fun t bend hn h => h.contained hn⟩
  intro a b n side arch hn hside h0 harch i hi
  refine ⟨inInt32_delta hn (Trajectory.abs_offset_le a b) hside harch h0 hi, ?_⟩
  obtain ⟨hlo, hhi⟩ := axisPath_mem (offset a b) hi (harch i hi).1 (harch i hi).2
  obtain ⟨hl, hh⟩ := sum_delta_mem hlo hhi
  have hmin : min a.toInt b.toInt = a.toInt + min 0 (offset a b) := by
    rw [offset]
    omega
  have hmax : max a.toInt b.toInt + side = a.toInt + (max 0 (offset a b) + side) := by
    rw [offset]
    omega
  rw [hmin, hmax, Int.cast_add, Int.cast_add]
  exact ⟨by linarith, by linarith⟩

/-- From one corner of the screen to the other, as far as the arch leaves room. -/
def Trajectory.crossing : Trajectory :=
  { start := ⟨Int32.minValue, Int32.minValue⟩, target := ⟨0x7FFFFFF5, 0x7FFFFFFA⟩, speed := 1
    curveStrength := 1, intervals := 10, basePause := 5, jitterSeed := 0 }

/-- Half way as far to the side as may be, and nowhere else. -/
def Trajectory.crossingBend (i : UInt64) : ℚ × ℚ := if i = 5 then (10, 5) else (0, 0)

/-- Recording devices whose cursor is at the start and whose third move is refused. -/
def Trajectory.brokenCrossing : Flaky Recorder where
  inner := { cursor := Trajectory.crossing.start }
  fate n := { refusal := if n = 2 then some .platformNotSupported else none }

/-- Ten steps are enough for the whole screen: the largest takes about a seventh of it. If a move is
refused, the cursor is still in the box. -/
theorem stays_in_box_crossing :
    10 ≤ Trajectory.crossing.intervals ∧ Trajectory.crossing.HasRoom ∧
      Trajectory.crossing.Arched Trajectory.crossingBend ∧
      Trajectory.crossing.Contained Trajectory.crossingBend ∧
      (Trajectory.crossing.stepsAlong Trajectory.crossingBend).toList.map (fun s => (s.dx, s.dy)) =
        [(0, 0), (120259084, 120259084), (326417514, 326417514), (481036336, 481036337),
          (584115550, 584115551), (635655168, 635655164), (635655149, 635655154),
          (584115550, 584115551), (481036336, 481036337), (326417514, 326417514),
          (120259084, 120259084)] ∧
      let p := (Stage.emit (Trajectory.crossing.stepsAlong Trajectory.crossingBend) {}
        (⟨Trajectory.brokenCrossing, {}⟩ : Stage (Flaky Recorder))).state.devices.inner.cursor
      Trajectory.crossing.InBox (p.x.toInt, p.y.toInt) := by
  have hn : 10 ≤ Trajectory.crossing.intervals := by decide
  have hroom : Trajectory.crossing.HasRoom := ⟨by decide, by decide, by decide, by decide⟩
  have harched : Trajectory.crossing.Arched Trajectory.crossingBend := by
    refine ⟨by decide +kernel, fun i _ => ?_, fun i _ => ?_⟩
    · unfold Trajectory.crossingBend
      split <;> norm_num
    · unfold Trajectory.crossingBend
      split <;> norm_num
  have hcontained := stays_in_box.2.2 _ _ hn harched
  refine ⟨hn, hroom, harched, hcontained, ?_, ?_⟩
  · rw [Trajectory.map_toList_stepsAlong]
    decide +kernel
  · exact hcontained.cursor_inBox hroom (Flaky Recorder) _ Recorder.follows.flaky _ rfl

end SyntheticInput
