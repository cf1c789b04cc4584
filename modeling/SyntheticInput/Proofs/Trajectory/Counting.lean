import SyntheticInput.Proofs.Trajectory.Steps

/-!
# How many steps are to come

A cursor over `2 ^ 64` intervals or fewer has one step more than intervals to give, so the number of
steps need not fit into 64 bits, in which it is announced.

* `Steps.take_eq`: reading steps goes through their list.
* `Steps.remaining_take`: each step that is read is one step less to come.
* `checkedAdd_eq_none_iff`, `toNat_of_checkedAdd`: an addition that fails beyond 64 bits.
* `Steps.sizeBounds_eq`: the announced bounds are exact, or the announcement fails.
* `Steps.usubOverflow_index`, `Steps.uaddOverflow_index`, `Steps.uaddOverflow_remaining_iff`: the
  64-bit arithmetic of a cursor.
* `Trajectory.announced`: a trajectory announces its steps exactly, except for all `2 ^ 64` at once,
  where it fails to.
-/

namespace SyntheticInput

namespace Steps

section Reading

variable {κ : Type} [Scalar κ]

/-- Reading steps goes through their list from the front. -/
theorem take_eq (s : Steps κ) (k : Nat) :
    (s.take k).1 = s.toList.take k ∧ (s.take k).2.toList = s.toList.drop k := by
  induction k generalizing s with
  | zero => exact ⟨rfl, rfl⟩
  | succ k ih =>
    unfold take
    cases h : s.next? with
    | none =>
      simp [toList_none h]
    | some given =>
      obtain ⟨step, rest⟩ := given
      obtain ⟨hfirst, hrest⟩ := ih rest
      rw [toList_some h, List.take_succ_cons, List.drop_succ_cons]
      exact ⟨congrArg (step :: ·) hfirst, hrest⟩

/-- Each step that is read is one step less to come. -/
theorem remaining_take (s : Steps κ) (k : Nat) : (s.take k).2.remaining = s.remaining - k := by
  rw [← length_toList, ← length_toList, (s.take_eq k).2, List.length_drop]

theorem next?_eq_none_iff (s : Steps κ) : s.next? = none ↔ s.remaining = 0 := by
  refine ⟨remaining_eq_zero, fun h => ?_⟩
  cases hn : s.next? with
  | none => rfl
  | some given =>
    have hlen := remaining_of_next? (show s.next? = some (given.1, given.2) from hn)
    omega

end Reading

end Steps

/-! ## Counting in 64 bits -/

section Checked

variable {a b c : UInt64}

/-- A checked addition fails just when the sum goes beyond 64 bits. -/
theorem checkedAdd_eq_none_iff : checkedAdd a b = none ↔ UInt64.size ≤ a.toNat + b.toNat := by
  unfold checkedAdd
  rw [BitVec.uaddOverflow]
  split
  · next h => exact ⟨fun _ => of_decide_eq_true h, fun _ => rfl⟩
  · next h => exact ⟨nofun, fun hle => absurd (decide_eq_true hle) h⟩

/-- Where it does not fail, it gives the sum. -/
theorem toNat_of_checkedAdd (h : checkedAdd a b = some c) : c.toNat = a.toNat + b.toNat := by
  have hlt : a.toNat + b.toNat < UInt64.size := by
    refine Nat.lt_of_not_le fun hle => ?_
    rw [checkedAdd_eq_none_iff.2 hle] at h
    cases h
  unfold checkedAdd at h
  split at h
  · cases h
  · obtain rfl := Option.some.inj h
    rw [UInt64.toNat_add]
    exact Nat.mod_eq_of_lt hlt

end Checked

namespace Steps

variable {κ : Type} (s : Steps κ)

theorem toNat_sub_index : (s.intervals - s.index).toNat = s.intervals.toNat - s.index.toNat :=
  UInt64.toNat_sub_of_le _ _ s.index_le

theorem remaining_le : s.remaining ≤ UInt64.size := by
  have hn : s.intervals.toNat < UInt64.size := s.intervals.toNat_lt
  unfold remaining
  split <;> omega

/-- Counting fails where all `2 ^ 64` steps are to come. -/
theorem sizeHint_eq_none_iff : s.sizeHint = none ↔ s.remaining = UInt64.size := by
  have hle := s.remaining_le
  unfold sizeHint
  unfold remaining at hle ⊢
  split
  · exact ⟨nofun, fun h => nomatch h⟩
  · next hd =>
    rw [if_neg hd] at hle
    rw [checkedAdd_eq_none_iff, s.toNat_sub_index]
    exact ⟨fun h => Nat.le_antisymm hle h, fun h => Nat.le_of_eq h.symm⟩

/-- Otherwise it gives the number of the steps to come. -/
theorem toNat_of_sizeHint {n : UInt64} (h : s.sizeHint = some n) : n.toNat = s.remaining := by
  unfold sizeHint at h
  unfold remaining
  split at h
  · next hd =>
    obtain rfl := Option.some.inj h
    rw [if_pos hd]
    rfl
  · next hd =>
    rw [if_neg hd, toNat_of_checkedAdd h, s.toNat_sub_index]
    rfl

/-- The announced bounds are exact, unless all `2 ^ 64` steps are to come, where nothing is
announced. -/
theorem sizeBounds_eq (largest : Nat) :
    s.sizeBounds largest =
      if s.remaining = UInt64.size then none
      else some (if s.remaining ≤ largest then (s.remaining, some s.remaining)
        else (largest, none)) := by
  unfold sizeBounds
  cases h : s.sizeHint with
  | none => rw [if_pos (s.sizeHint_eq_none_iff.1 h), Option.map_none]
  | some n =>
    have hne : s.remaining ≠ UInt64.size := by
      rw [Ne, ← s.sizeHint_eq_none_iff, h]
      exact nofun
    rw [if_neg hne, Option.map_some, s.toNat_of_sizeHint h]

/-- Counting what is to come does not go below zero. -/
theorem usubOverflow_index : s.intervals.toBitVec.usubOverflow s.index.toBitVec = false := by
  have hle := UInt64.le_iff_toNat_le.1 s.index_le
  simpa [BitVec.usubOverflow] using hle

/-- Counting the index up does not go beyond 64 bits. -/
theorem uaddOverflow_index (hne : s.index ≠ s.intervals) :
    s.index.toBitVec.uaddOverflow 1 = false := by
  have hle := UInt64.le_iff_toNat_le.1 s.index_le
  have hn := s.intervals.toNat_lt
  have hlt : s.index.toNat ≠ s.intervals.toNat := fun e => hne (UInt64.toNat_inj.1 e)
  simp only [BitVec.uaddOverflow, UInt64.toNat_toBitVec, decide_eq_false_iff_not]
  change ¬ s.index.toNat + 1 ≥ 2 ^ 64
  omega

/-- Counting what is to come goes beyond 64 bits where all `2 ^ 64` steps are. -/
theorem uaddOverflow_remaining_iff (hd : s.done = false) :
    (s.intervals - s.index).toBitVec.uaddOverflow 1 = true ↔ s.remaining = UInt64.size := by
  have hle := s.remaining_le
  have hrem : s.remaining = s.intervals.toNat - s.index.toNat + 1 := by simp [remaining, hd]
  simp only [BitVec.uaddOverflow, UInt64.toNat_toBitVec, decide_eq_true_eq, s.toNat_sub_index]
  change s.intervals.toNat - s.index.toNat + 1 ≥ UInt64.size ↔ _
  omega

end Steps

/-! ## Whole trajectories -/

namespace Trajectory

/-- The count of steps stops at the greatest number of 64 bits. -/
theorem toNat_stepCount (t : Trajectory) :
    t.stepCount.toNat = min (t.intervals.toNat + 1) (UInt64.size - 1) := by
  have hn := t.intervals.toNat_lt
  have hs : UInt64.size = 18446744073709551616 := rfl
  unfold stepCount
  split
  · next h =>
    rw [h]
    rfl
  · next h =>
    have hne : t.intervals.toNat ≠ 18446744073709551615 := fun e => h (UInt64.toNat_inj.1 e)
    have hone : (1 : UInt64).toNat = 1 := rfl
    rw [UInt64.toNat_add, hone, Nat.mod_eq_of_lt (by omega)]
    omega

/-- In front of the first step, and there only, all `2 ^ 64` steps can be to come. -/
theorem remaining_eq_size_iff (t : Trajectory) (k : Nat) :
    t.intervals.toNat + 1 - k = UInt64.size ↔ k = 0 ∧ t.intervals = -1 := by
  have hn := t.intervals.toNat_lt
  have hs : UInt64.size = 18446744073709551616 := rfl
  have hlast : t.intervals = -1 ↔ t.intervals.toNat = 18446744073709551615 := by
    rw [← UInt64.toNat_inj]
    rfl
  rw [hlast]
  omega

theorem remaining_take_steps (t : Trajectory) (k : Nat) :
    (t.steps.take k).2.remaining = t.intervals.toNat + 1 - k :=
  t.steps.remaining_take k

/-- Behind `k` steps, all that are left are announced exactly, unless they are `2 ^ 64`. -/
theorem sizeBounds_take (t : Trajectory) (k largest : Nat) :
    let left := t.intervals.toNat + 1 - k
    (t.steps.take k).2.sizeBounds largest =
      if k = 0 ∧ t.intervals = -1 then none
      else some (if left ≤ largest then (left, some left) else (largest, none)) := by
  rw [Steps.sizeBounds_eq, t.remaining_take_steps k]
  simp only [t.remaining_eq_size_iff]

/-- **Steps are announced exactly, unless there are `2 ^ 64` of them.** However many steps of a
trajectory were read, they are the first of its `intervals + 1` steps, and there is a next one just
where one is left. The bounds that are announced for those left are exact, whatever the greatest size
is, except in front of the first of `2 ^ 64` steps: there alone the arithmetic goes beyond 64 bits,
and the announcement fails. -/
theorem announced (t : Trajectory) :
    t.steps.toList.length = t.intervals.toNat + 1 ∧
      t.stepCount.toNat = min (t.intervals.toNat + 1) (UInt64.size - 1) ∧
      ∀ k,
        let s := (t.steps.take k).2
        let left := t.intervals.toNat + 1 - k
        (t.steps.take k).1 = t.steps.toList.take k ∧ (s.next? = none ↔ left = 0) ∧
          s.intervals.toBitVec.usubOverflow s.index.toBitVec = false ∧
          (s.index ≠ s.intervals → s.index.toBitVec.uaddOverflow 1 = false) ∧
          (s.done = false →
            ((s.intervals - s.index).toBitVec.uaddOverflow 1 = true ↔ k = 0 ∧ t.intervals = -1)) ∧
          ∀ largest, s.sizeBounds largest =
            if k = 0 ∧ t.intervals = -1 then none
            else some (if left ≤ largest then (left, some left) else (largest, none)) := by
  refine ⟨t.length_steps, t.toNat_stepCount, fun k => ?_⟩
  refine ⟨(t.steps.take_eq k).1, ?_, Steps.usubOverflow_index _, Steps.uaddOverflow_index _, ?_,
    t.sizeBounds_take k⟩
  · rw [← t.remaining_take_steps k]
    exact Steps.next?_eq_none_iff _
  · rw [← t.remaining_eq_size_iff, ← t.remaining_take_steps k]
    exact Steps.uaddOverflow_remaining_iff _

/-- A trajectory with as many intervals as 64 bits can count. -/
def longest : Trajectory :=
  { start := ⟨0, 0⟩, target := ⟨3, -1⟩, speed := 1, curveStrength := 1, intervals := -1
    basePause := 5, jitterSeed := 0 }

/-- Its `2 ^ 64` steps are more than a size can be, so the greatest size would be a bound of them from
below. But counting them goes beyond 64 bits, and nothing is announced. -/
theorem longest_unannounced :
    longest.steps.toList.length = UInt64.size ∧
      (longest.steps.intervals - longest.steps.index).toBitVec.uaddOverflow 1 = true ∧
      longest.steps.sizeBounds (UInt64.size - 1) = none ∧
      ¬ ∀ (t : Trajectory) (k largest : Nat),
        let left := t.intervals.toNat + 1 - k
        (t.steps.take k).2.sizeBounds largest =
          some (if left ≤ largest then (left, some left) else (largest, none)) := by
  have hnone : longest.steps.sizeBounds (UInt64.size - 1) = none := rfl
  refine ⟨longest.length_steps, rfl, hnone, fun hexact => ?_⟩
  have h := hexact longest 0 (UInt64.size - 1)
  change longest.steps.sizeBounds (UInt64.size - 1) = some (UInt64.size - 1, none) at h
  rw [hnone] at h
  cases h

end Trajectory

end SyntheticInput
