import SyntheticInput.Proofs.Trajectory.Steps
import SyntheticInput.Trajectory.Emission

/-!
# What emitting a trajectory does

An emission ends behind its last step, in front of the first step that finds the token set, or at
the first move that is refused.

* `runStep_still`, `runStep_move`: one step.
* `emit_none`, `emit_of_set`, `emit_of_not_set`: the ways an emission goes on.
* `Emitted token r ss xs res`: emitting `ss` from report `r` made the exchanges `xs` and ended in
  `res`.
* `emit_emitted`: this is what `emit` does.
-/

namespace SyntheticInput

namespace Stage

variable {δ κ : Type} [Devices δ] [Scalar κ]

/-! ## One step -/

/-- A step without a move is counted, and nothing else happens. -/
theorem runStep_still {step : Step} (h : step.isMove = false) (r : Report) (s : Stage δ) :
    (runStep step r s).result = .ok { r with stepsRun := r.stepsRun + 1 } ∧
      (runStep step r s).state = s := by
  unfold runStep
  rw [h]
  exact ⟨rfl, rfl⟩

/-- A step with a move makes one exchange. It is counted if that is delivered, and the token is set
if a cancellation was asked for meanwhile. -/
theorem runStep_move {step : Step} (h : step.isMove = true) (r : Report) (s : Stage δ) :
    let x := exchange step.move s.devices
    (runStep step r s).result = x.answer.map (fun _ =>
        { r with stepsRun := r.stepsRun + 1, movesEmitted := r.movesEmitted + 1 }) ∧
      (runStep step r s).state =
        ⟨(Devices.attempt step.move s.devices).devices, s.cancel.cancelIf x.cancels⟩ := by
  unfold runStep
  simp only [h, ↓reduceIte]
  cases hx : (sendMove step.dx step.dy s).result with
  | ok v =>
    have ha : (exchange step.move s.devices).answer = .ok v := hx
    rw [Act.result_bind_of_ok hx, Act.state_bind_of_ok hx, ha]
    exact ⟨rfl, rfl⟩
  | error cause =>
    have ha : (exchange step.move s.devices).answer = .error cause := hx
    rw [Act.result_bind_of_error hx, Act.state_bind_of_error hx, ha]
    exact ⟨rfl, rfl⟩

theorem emit_none {steps : Steps κ} (h : steps.next? = none) (r : Report) :
    emit steps r = (pure r : Act (Stage δ) DeviceError Report) := by
  rw [emit]
  split <;> simp_all

theorem emit_some {steps rest : Steps κ} {step : Step} (h : steps.next? = some (step, rest))
    (r : Report) :
    emit steps r = (Act.get >>= fun s : Stage δ =>
      if s.cancel.isSet then
        Act.note (.runCancelled r.stepsRun) >>= fun _ => pure { r with cancelled := true }
      else runStep step r >>= emit rest) := by
  rw [emit]
  split
  · simp_all
  · next heq =>
    obtain ⟨rfl, rfl⟩ := Prod.mk.inj (Option.some.inj (h.symm.trans heq))
    rfl

/-- With the token set, the step to come is not run. -/
theorem emit_of_set {steps rest : Steps κ} {step : Step} (h : steps.next? = some (step, rest))
    (r : Report) {s : Stage δ} (hc : s.cancel.isSet = true) :
    (emit steps r s).result = .ok { r with cancelled := true } ∧ (emit steps r s).state = s := by
  rw [emit_some h, Act.result_get_bind, Act.state_get_bind, if_pos hc]
  exact ⟨rfl, rfl⟩

/-- Otherwise it is run, and the others after it. -/
theorem emit_of_not_set {steps rest : Steps κ} {step : Step} (h : steps.next? = some (step, rest))
    (r : Report) {s : Stage δ} (hc : s.cancel.isSet = false) :
    (emit steps r s).result = ((runStep step r >>= emit rest) s).result ∧
      (emit steps r s).state = ((runStep step r >>= emit rest) s).state := by
  rw [emit_some h, Act.result_get_bind, Act.state_get_bind, if_neg (by simp [hc])]
  exact ⟨rfl, rfl⟩

/-! ## Emitting steps in order -/

/-- Emitting the steps `ss` from report `r`, with the token set or not, made the exchanges `xs` and
ended in `res`. -/
inductive Emitted :
    Bool → Report → List Step → List Exchange → Except DeviceError Report → Prop
  | done (token : Bool) (r : Report) : Emitted token r [] [] (.ok r)
  | cancelled (r : Report) (step : Step) (ss : List Step) :
      Emitted true r (step :: ss) [] (.ok { r with cancelled := true })
  | still {r step ss xs res} : step.isMove = false →
      Emitted false { r with stepsRun := r.stepsRun + 1 } ss xs res →
      Emitted false r (step :: ss) xs res
  | moved {r step ss xs res} (token : Bool) : step.isMove = true →
      Emitted token { r with stepsRun := r.stepsRun + 1, movesEmitted := r.movesEmitted + 1 }
        ss xs res →
      Emitted false r (step :: ss) (⟨step.move, .ok (), token⟩ :: xs) res
  | refused {step} (r : Report) (ss : List Step) (cause : DeviceError) (token : Bool) :
      step.isMove = true →
      Emitted false r (step :: ss) [⟨step.move, .error cause, token⟩] (.error cause)

theorem emit_emitted (steps : Steps κ) (r : Report) (s : Stage δ) :
    ∃ xs, Passed s.devices xs (emit steps r s).state.devices ∧
      Emitted s.cancel.isSet r steps.toList xs (emit steps r s).result := by
  -- By the recursion of the cursor; report and stage are those in front of the step to come.
  induction steps using Steps.toList.induct generalizing r s with
  | case1 steps h =>
    rw [emit_none h, Steps.toList_none h]
    exact ⟨[], .nil _, .done _ _⟩
  | case2 steps step rest h ih =>
    rw [Steps.toList_some h]
    cases hc : s.cancel.isSet with
    | true =>
      obtain ⟨hr, hs⟩ := emit_of_set h r hc
      rw [hr, hs]
      exact ⟨[], .nil _, .cancelled ..⟩
    | false =>
      obtain ⟨hr, hs⟩ := emit_of_not_set h r hc
      rw [hr, hs]
      cases hm : step.isMove with
      | false =>
        obtain ⟨hr₁, hs₁⟩ := runStep_still hm r s
        rw [Act.result_bind_of_ok hr₁, Act.state_bind_of_ok hr₁, hs₁]
        obtain ⟨xs, hp, he⟩ := ih { r with stepsRun := r.stepsRun + 1 } s
        rw [hc] at he
        exact ⟨xs, hp, .still hm he⟩
      | true =>
        obtain ⟨hr₁, hs₁⟩ := runStep_move hm r s
        cases ha : (exchange step.move s.devices).answer with
        | ok v =>
          simp only [ha, Except.map] at hr₁
          rw [Act.result_bind_of_ok hr₁, Act.state_bind_of_ok hr₁, hs₁]
          obtain ⟨xs, hp, he⟩ :=
            ih { r with stepsRun := r.stepsRun + 1, movesEmitted := r.movesEmitted + 1 }
              ⟨(Devices.attempt step.move s.devices).devices,
                s.cancel.cancelIf (exchange step.move s.devices).cancels⟩
          refine ⟨exchange step.move s.devices :: xs, .cons _ _ hp, ?_⟩
          rw [exchange_eq ha]
          -- The token was not set, so behind the move it is what the move asked for.
          refine .moved _ hm ?_
          simpa [CancelToken.cancelIf, hc] using he
        | error cause =>
          simp only [ha, Except.map] at hr₁
          rw [Act.result_bind_of_error hr₁, Act.state_bind_of_error hr₁, hs₁]
          refine ⟨[exchange step.move s.devices], .cons _ _ (.nil _), ?_⟩
          rw [exchange_eq ha]
          exact .refused r _ cause _ hm

end Stage

end SyntheticInput
