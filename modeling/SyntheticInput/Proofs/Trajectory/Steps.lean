import SyntheticInput.Proofs.Device.Recording
import SyntheticInput.Trajectory.Basic

/-!
# The steps of a trajectory as a list

A cursor computes its steps one at a time. Their list is what it gives up to the last of them, so
what is proved about lists of steps holds of cursors.

* `Steps.toList`: the steps to come.
* `Steps.length_toList`, `Trajectory.length_steps`: how many there are.
* `Steps.fold_eq_foldl`: folding a cursor is folding the list.
* `moves`, `foldl_add_steps`: the moves of some steps, and their sum.
* `Trajectory.totalMove_eq`: the moves of all steps add up to the total move of a trajectory.
-/

namespace SyntheticInput

namespace Steps

variable {κ : Type} [Scalar κ]

/-- The steps to come, from the first to the last. -/
def toList (s : Steps κ) : List Step :=
  match _h : s.next? with
  | none => []
  | some (step, rest) => step :: rest.toList
termination_by s.remaining
decreasing_by
  have := remaining_of_next? _h
  omega

variable {s rest : Steps κ} {step : Step}

theorem toList_none (h : s.next? = none) : s.toList = [] := by
  rw [toList]
  split <;> simp_all

theorem toList_some (h : s.next? = some (step, rest)) : s.toList = step :: rest.toList := by
  rw [toList]
  split <;> simp_all

theorem fold_none {β : Type} {f : β → Step → β} {b : β} (h : s.next? = none) : s.fold f b = b := by
  rw [fold]
  split <;> simp_all

theorem fold_some {β : Type} {f : β → Step → β} {b : β} (h : s.next? = some (step, rest)) :
    s.fold f b = rest.fold f (f b step) := by
  rw [fold]
  split <;> simp_all

theorem remaining_eq_zero (h : s.next? = none) : s.remaining = 0 := by
  unfold next? at h
  unfold remaining
  split at h
  · next hd => rw [if_pos hd]
  · simp at h

theorem length_toList (s : Steps κ) : s.toList.length = s.remaining := by
  induction s using toList.induct with
  | case1 s h => rw [toList_none h, remaining_eq_zero h, List.length_nil]
  | case2 s step rest h ih =>
    rw [toList_some h, List.length_cons, ih]
    exact remaining_of_next? h

/-- Folding the steps to come is folding their list. -/
theorem fold_eq_foldl {β : Type} (f : β → Step → β) (b : β) (s : Steps κ) :
    s.fold f b = s.toList.foldl f b := by
  induction s using toList.induct generalizing b with
  | case1 s h => rw [fold_none h, toList_none h, List.foldl_nil]
  | case2 s step rest h ih => rw [fold_some h, toList_some h, List.foldl_cons, ih]

end Steps

/-- A trajectory has one step more than intervals. -/
theorem Trajectory.length_steps (t : Trajectory) :
    t.steps.toList.length = t.intervals.toNat + 1 :=
  Steps.length_toList t.steps

/-! ## Moves -/

/-- The event that a step sends. -/
def Step.move (s : Step) : Event := .move s.dx s.dy

/-- The events that some steps send, one for every step with a move. -/
def moves (ss : List Step) : List Event := (ss.filter (·.isMove)).map (·.move)

@[simp] theorem moves_nil : moves [] = [] := rfl

theorem moves_cons_of_isMove {s : Step} (h : s.isMove = true) (ss : List Step) :
    moves (s :: ss) = s.move :: moves ss := by
  simp [moves, h]

theorem moves_cons_of_not_isMove {s : Step} (h : s.isMove = false) (ss : List Step) :
    moves (s :: ss) = moves ss := by
  simp [moves, h]

theorem length_moves_le (ss : List Step) : (moves ss).length ≤ ss.length := by
  rw [moves, List.length_map]
  exact List.length_filter_le ..

/-- Only relative moves are sent. -/
theorem eq_move_of_mem_moves {e : Event} {ss : List Step} (h : e ∈ moves ss) :
    ∃ dx dy, e = .move dx dy := by
  obtain ⟨s, -, rfl⟩ := List.mem_map.1 h
  exact ⟨s.dx, s.dy, rfl⟩

/-- The first of the events that some steps send are those that the first steps send. -/
theorem exists_moves_take {es : List Event} {ss : List Step} (h : es <+: moves ss) :
    ∃ k, es = moves (ss.take k) := by
  induction ss generalizing es with
  | nil => exact ⟨0, List.prefix_nil.1 h⟩
  | cons s ss ih =>
    cases hm : s.isMove with
    | false =>
      rw [moves_cons_of_not_isMove hm] at h
      obtain ⟨k, hk⟩ := ih h
      exact ⟨k + 1, by rw [hk, List.take_succ_cons, moves_cons_of_not_isMove hm]⟩
    | true =>
      rw [moves_cons_of_isMove hm] at h
      cases es with
      | nil => exact ⟨0, rfl⟩
      | cons e es =>
        obtain ⟨rfl, hrest⟩ := List.cons_prefix_cons.1 h
        obtain ⟨k, hk⟩ := ih hrest
        exact ⟨k + 1, by rw [hk, List.take_succ_cons, moves_cons_of_isMove hm]⟩

/-- Adding up all steps adds up their moves: steps without a move add nothing. -/
theorem foldl_add_steps (ss : List Step) (a : Int × Int) :
    ss.foldl (fun s step => (s.1 + step.dx.toInt, s.2 + step.dy.toInt)) a =
      (a.1 + (shift (moves ss)).1, a.2 + (shift (moves ss)).2) := by
  induction ss generalizing a with
  | nil => simp [shift]
  | cons s ss ih =>
    rw [List.foldl_cons, ih]
    cases h : s.isMove with
    | true =>
      rw [moves_cons_of_isMove h, shift, Int.add_assoc, Int.add_assoc]
      rfl
    | false =>
      have hz : s.dx = 0 ∧ s.dy = 0 := by simpa [Step.isMove] using h
      rw [moves_cons_of_not_isMove h]
      simp [hz]

/-- The moves of all steps add up to the total move. -/
theorem Trajectory.totalMove_eq (t : Trajectory) : t.totalMove = shift (moves t.steps.toList) := by
  rw [totalMove, Steps.fold_eq_foldl, foldl_add_steps]
  simp

end SyntheticInput
