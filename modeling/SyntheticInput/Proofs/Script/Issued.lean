import SyntheticInput.Proofs.Script.Line
import SyntheticInput.Proofs.Simulator.Move
import SyntheticInput.Proofs.Simulator.Working
import SyntheticInput.Proofs.Trajectory.Account

/-!
# What a line sends to recording devices

On recording devices of which no call fails, every line makes some exchanges, and only an invalid
line or an unknown key makes it fail. So a line that fails has sent nothing and changed nothing.

* `Issued`: an operation made some exchanges, and changed nothing if it failed.
* `send_issued`, `setPosition_issued`, `moveTo_issued`: so do commands, placings and moves.
* `runLine_issued`: so does every line.
-/

namespace SyntheticInput

theorem isOk_mapError {ε ε' α : Type} (f : ε → ε') (r : Except ε α) :
    (r.mapError f).isOk = r.isOk := by
  cases r with
  | ok v => rfl
  | error e => rfl

theorem isOk_map {ε α β : Type} (f : α → β) (r : Except ε α) : (r.map f).isOk = r.isOk := by
  cases r with
  | ok v => rfl
  | error e => rfl

/-- On recording devices, an operation made the exchanges `xs`, and it changed nothing if it failed.
-/
structure Issued {ε α : Type} (s : Simulator Recorder) (o : Outcome (Simulator Recorder) ε α)
    (xs : List Exchange) : Prop where
  passed : Passed s.devices xs o.state.devices
  unchanged : o.result.isOk = false → o.state = s

variable {ε ε' α β : Type} {s : Simulator Recorder}

theorem Issued.congr {o : Outcome (Simulator Recorder) ε α} {o' : Outcome (Simulator Recorder) ε' β}
    {xs : List Exchange} (h : Issued s o xs) (hstate : o'.state = o.state)
    (hres : o'.result.isOk = o.result.isOk) : Issued s o' xs where
  passed := by
    rw [hstate]
    exact h.passed
  unchanged := by
    rw [hstate, hres]
    exact h.unchanged

/-- Doing nothing is fine, whatever comes of it. -/
theorem issued_nothing {o : Outcome (Simulator Recorder) ε α} (h : o.state = s) :
    Issued s o [] where
  passed := by
    rw [h]
    exact .nil _
  unchanged := fun _ => h

theorem send_issued (h : s.devices.Quiet) (text : String) :
    ∃ xs, Issued s (Simulator.send text s) xs := by
  obtain ⟨⟨xs, hp, -, hevents⟩, hres, hstate⟩ :=
    Simulator.send_reliable Recorder.reliable h.failingKey text
  refine ⟨xs, hp, fun hfail => ?_⟩
  -- Only an unknown key is an error, and for that nothing is sent.
  cases hasks : s.resolver.asks text with
  | ok asked =>
    rw [hres, hasks] at hfail
    cases hfail
  | error e =>
    rw [Simulator.events, hasks] at hevents
    obtain rfl := List.map_eq_nil_iff.1 hevents
    rw [hstate, hp.eq_of_nil, Simulator.heldAfter, hasks]
    rfl

theorem setPosition_issued (h : s.devices.Quiet) (target : Point) :
    ∃ xs, Issued s (Simulator.setPosition target s) xs := by
  obtain ⟨hres, hstate⟩ := Simulator.setPosition_eq target s
  have hrefusal := Recorder.refusal?_eq_none h.failingKey (.setPosition target)
  refine ⟨[exchange (.setPosition target) s.devices], ?_, fun hfail => ?_⟩
  · rw [hstate]
    exact .cons _ _ (.nil _)
  · rw [hres, deliver, Recorder.attempt_of_not_refused hrefusal] at hfail
    cases hfail

theorem moveTo_issued (h : s.devices.Quiet) (target : Point) (speed : Option Float) :
    ∃ xs, Issued s (Simulator.moveTo target speed s) xs := by
  have hquery : s.query = ⟨.ok s.devices.cursor, s.devices, []⟩ := by
    change (⟨s.devices.position?, s.devices, []⟩ : Outcome Recorder DeviceError Point) = _
    rw [Recorder.position?, h.refusesPosition]
    rfl
  have hstage : s.stage.devices = s.devices := congrArg (·.state) hquery
  obtain ⟨hres, hstate⟩ := Simulator.moveTo_of_answered target speed (congrArg (·.result) hquery)
  obtain ⟨xs, hp, he⟩ :=
    Stage.emit_emitted (s.trajectory s.devices.cursor target speed).steps {} s.stage
  rw [hstage] at hp
  refine ⟨xs, ?_, fun hfail => ?_⟩
  · rw [hstate]
    exact hp
  · rw [hres] at hfail
    cases hrun : (Stage.run (s.trajectory s.devices.cursor target speed) s.stage).result with
    | ok report =>
      rw [hrun] at hfail
      cases hfail
    | error cause =>
      obtain ⟨pre, step, post, ys, c, -, -, rfl, -⟩ := he.accounted.refused cause hrun
      have hok := (h.passed hp).2.2 ⟨step.move, .error cause, c⟩ (by simp)
      cases hok

theorem execute_issued (h : s.devices.Quiet) (i : Instruction) :
    ∃ xs, Issued s (i.execute s : Outcome _ ScriptError Unit) xs := by
  have hres := i.result_execute s
  have hstate := i.state_execute s
  cases i with
  | move x y speed =>
    obtain ⟨xs, hi⟩ := moveTo_issued h ⟨x, y⟩ speed
    exact ⟨xs, hi.congr hstate (by rw [hres, isOk_map, isOk_mapError])⟩
  | setPosition x y =>
    obtain ⟨xs, hi⟩ := setPosition_issued h ⟨x, y⟩
    exact ⟨xs, hi.congr hstate (by rw [hres, isOk_mapError])⟩
  | sleep pause => exact ⟨[], issued_nothing hstate⟩
  | key command =>
    obtain ⟨xs, hi⟩ := send_issued h command
    exact ⟨xs, hi.congr hstate (by rw [hres, isOk_mapError])⟩

/-- A line on quiet recording devices changes nothing if it fails. -/
theorem runLine_issued (h : s.devices.Quiet) (text : String) :
    ∃ xs, Issued s (runLine text s) xs := by
  have hres := result_runLine text s
  have hstate := state_runLine text s
  cases hl : Instruction.ofLine? text with
  | error e =>
    rw [hl] at hstate
    exact ⟨[], issued_nothing hstate⟩
  | ok asked =>
    rw [hl] at hres hstate
    cases asked with
    | none => exact ⟨[], issued_nothing hstate⟩
    | some i =>
      obtain ⟨xs, hi⟩ := execute_issued h i
      exact ⟨xs, hi.congr hstate (by rw [hres, isOk_map])⟩

end SyntheticInput
