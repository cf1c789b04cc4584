import SyntheticInput.Proofs.Simulator.Turn
import SyntheticInput.Proofs.Simulator.Working
import SyntheticInput.Proofs.Trajectory.Account

/-!
# Sessions in which nothing fails

On recording devices of which no call fails, what a request is answered, what it sends and what it
does to the simulator can be read off the simulator.

* `Rig.Quiet`: recording devices with a combined log, of which no call fails.
* `Rig.passed_eq`: they take every event, and nobody asks for a cancellation meanwhile.
* `Session.Task`: the requests to send a command, to move and place the cursor and to cancel.
* `Session.Task.effect`: the answer of a task, its events and what it changes.
* `Session.perform_eq`: on quiet devices this is all that a task does.
-/

namespace SyntheticInput

namespace Rig

/-- Recording devices with a combined log, of which no call fails. -/
structure Quiet (d : Rig) : Prop where
  faults : d.faults = .none
  failingKey : d.inner.failingKey = none
  refusesPosition : d.inner.refusesPosition = false
  logging : d.inner.logging = true

/-- The devices behind some events that they have taken. -/
def record (es : List Event) (d : Rig) : Rig :=
  { d with inner := es.foldl Recorder.accept d.inner }

variable {d d' : Rig}

theorem record_record (es fs : List Event) (d : Rig) :
    (d.record es).record fs = d.record (es ++ fs) := by
  rw [record, record, record, List.foldl_append]

/-- Every event goes to the record of its device and to the log. -/
theorem inner_record (h : d.Quiet) (es : List Event) :
    (d.record es).inner =
      { d.inner with
        keyboard := d.inner.keyboard ++ es.filterMap Event.key?
        mouse := d.inner.mouse ++ es.filterMap Event.mouse?
        cursor := es.foldl Event.moveCursor d.inner.cursor
        log := d.inner.log ++ es } := by
  rw [record, Recorder.foldl_accept, if_pos h.logging]

/-- Taking events makes no call fail. -/
theorem Quiet.record (h : d.Quiet) (es : List Event) : (d.record es).Quiet := by
  have hi := inner_record h es
  exact ⟨h.faults, by rw [hi]; exact h.failingKey, by rw [hi]; exact h.refusesPosition,
    by rw [hi]; exact h.logging⟩

/-- Every event is taken, and nobody asks for a cancellation meanwhile. -/
theorem attempt_of_quiet (h : d.Quiet) (e : Event) :
    Devices.attempt e d =
      { result := .ok (), devices := d.record [e], notes := [.recording e] } := by
  obtain ⟨inner, faults⟩ := d
  obtain rfl : faults = .none := h.faults
  have hspend : Faults.none.spend? e.call = .ok .none := by cases e.call <;> rfl
  have ha := Recorder.attempt_of_not_refused (Recorder.refusal?_eq_none h.failingKey e)
  change Faulty.attempt e _ = _
  simp only [Faulty.attempt, hspend, ha]
  split <;> rfl

theorem reliable : Reliable Quiet where
  takes := fun e d h => by rw [attempt_of_quiet h]
  stays := fun e d h => by rw [attempt_of_quiet h]; exact h.record [e]

/-- The devices behind some exchanges have taken their events. -/
theorem passed_eq {xs : List Exchange} (hp : Passed d xs d') (h : d.Quiet) :
    d' = d.record (xs.map (·.event)) ∧ ∀ x ∈ xs, x.answer = .ok () ∧ x.cancels = false := by
  induction hp with
  | nil d => exact ⟨rfl, by simp⟩
  | cons e d _ ih =>
    have ha := attempt_of_quiet h e
    rw [ha] at ih
    obtain ⟨hd, hx⟩ := ih (h.record [e])
    refine ⟨?_, ?_⟩
    · rw [hd, record_record]
      rfl
    · rintro x (_ | ⟨_, hmem⟩)
      · rw [exchange, ha]
        exact ⟨rfl, rfl⟩
      · exact hx x hmem

/-- The query for the cursor is answered. -/
theorem query_of_quiet {s : Simulator Rig} (h : s.devices.Quiet) :
    s.query.result = .ok s.devices.inner.cursor ∧ s.query.state = s.devices := by
  have hspend : s.devices.faults.spend? .position = .ok s.devices.faults := by
    rw [h.faults]
    rfl
  have hpos : s.devices.inner.position? = .ok s.devices.inner.cursor := by
    simp [Recorder.position?, h.refusesPosition]
  have hq : s.query = ⟨s.devices.inner.position?, s.devices, []⟩ := by
    change Faulty.position s.devices = _
    simp only [Faulty.position, hspend]
    rfl
  rw [hq]
  exact ⟨hpos, rfl⟩

end Rig

namespace Session

/-! ## Tasks -/

/-- The requests that ask for inputs, or for the next move to be cancelled. -/
inductive Task where
  | send (text : String)
  | move (target : Point) (speed : Option Float)
  | setPosition (target : Point)
  | cancel

/-- What a task does to a simulator on quiet devices. -/
structure Effect where
  result : Except Failure Reply
  events : List Event
  held : Held
  draws : Draws
  cancel : CancelToken

/-- Answers, sends and changes nothing. -/
def Effect.idle (s : State) : Effect := ⟨.ok .done, [], s.held, s.draws, s.cancel⟩

/-- The simulator behind an effect. -/
def Effect.apply (f : Effect) (s : State) : State :=
  { s with
    dispatcher := ⟨s.devices.record f.events, f.held⟩
    draws := f.draws
    cancel := f.cancel }

namespace Task

/-- The request of a task. -/
def request : Task → Request
  | send text => .send text
  | move target speed => .move target speed
  | setPosition target => .setPosition target
  | cancel => .cancel

/-- What a task does on quiet devices. -/
def effect : Task → State → Effect
  | send text, s =>
    { Effect.idle s with
      result := ((s.resolver.asks text).mapError .command).map fun _ => .done
      events := s.events text
      held := s.heldAfter text }
  | move target speed, s =>
    let steps := (s.trajectory s.devices.inner.cursor target speed).steps.toList
    { Effect.idle s with
      result := .ok (.report (Stage.spanReport s.cancel.isSet steps))
      events := moves (steps.take (Stage.span s.cancel.isSet steps))
      draws := s.draws.drop 2
      cancel := s.cancel.reset }
  | setPosition target, s => { Effect.idle s with events := [.setPosition target] }
  | cancel, s => { Effect.idle s with cancel := s.cancel.cancel }

end Task

variable {s : State}

/-- A command on quiet devices. -/
theorem send_quiet (h : s.devices.Quiet) (text : String) :
    (Simulator.send text s).result = (s.resolver.asks text).map (fun _ => ()) ∧
      (Simulator.send text s).state = ((Task.send text).effect s).apply s := by
  obtain ⟨⟨xs, hp, -, he⟩, hres, hstate⟩ := Simulator.send_reliable Rig.reliable h text
  have hd := (Rig.passed_eq hp h).1
  rw [he] at hd
  refine ⟨hres, ?_⟩
  rw [hstate, hd]
  rfl

/-- A move on quiet devices. -/
theorem moveTo_quiet (h : s.devices.Quiet) (target : Point) (speed : Option Float) :
    let steps := (s.trajectory s.devices.inner.cursor target speed).steps.toList
    (Simulator.moveTo target speed s).result = .ok (Stage.spanReport s.cancel.isSet steps) ∧
      (Simulator.moveTo target speed s).state = ((Task.move target speed).effect s).apply s := by
  intro steps
  obtain ⟨hquery, hsame⟩ := Rig.query_of_quiet h
  obtain ⟨hres, hstate⟩ := Simulator.moveTo_of_answered target speed hquery
  have hstage : s.stage = ⟨s.devices, s.cancel⟩ := by rw [Simulator.stage, hsame]
  obtain ⟨xs, hp, hemitted⟩ :=
    Stage.emit_emitted (s.trajectory s.devices.inner.cursor target speed).steps {} s.stage
  rw [hstage] at hp hemitted hres hstate
  obtain ⟨hd, hx⟩ := Rig.passed_eq hp h
  obtain ⟨he, hr⟩ := hemitted.accounted.undisturbed hx
  rw [he] at hd
  refine ⟨hres.trans hr, ?_⟩
  rw [hstate, show (Stage.run _ _).state.devices = _ from hd]
  rfl

/-- Placing the cursor of quiet devices. -/
theorem setPosition_quiet (h : s.devices.Quiet) (target : Point) :
    (Simulator.setPosition target s).result = .ok () ∧
      (Simulator.setPosition target s).state = ((Task.setPosition target).effect s).apply s := by
  obtain ⟨hres, hstate⟩ := Simulator.setPosition_eq target s
  have ha := Rig.attempt_of_quiet h (.setPosition target)
  rw [hres, hstate, deliver, ha]
  exact ⟨rfl, rfl⟩

/-- **All that a task does.** -/
theorem perform_eq (h : s.devices.Quiet) (t : Task) :
    (perform t.request s).result = (t.effect s).result ∧
      (perform t.request s).state = (t.effect s).apply s := by
  rw [state_perform]
  cases t with
  | send text =>
    obtain ⟨hres, hstate⟩ := send_quiet h text
    refine ⟨?_, hstate⟩
    refine (result_reply Failure.command (Simulator.send text) (fun _ => Reply.done) s).trans ?_
    simp only [hres, Task.effect]
    cases s.resolver.asks text with
    | error e => rfl
    | ok asked => rfl
  | move target speed =>
    obtain ⟨hres, hstate⟩ := moveTo_quiet h target speed
    refine ⟨?_, hstate⟩
    refine (result_reply Failure.device (Simulator.moveTo target speed) Reply.report s).trans ?_
    rw [hres]
    rfl
  | setPosition target =>
    obtain ⟨hres, hstate⟩ := setPosition_quiet h target
    refine ⟨?_, hstate⟩
    refine (result_reply Failure.device (Simulator.setPosition target) (fun _ => Reply.done)
      s).trans ?_
    rw [hres]
    rfl
  | cancel => exact ⟨rfl, rfl⟩

end Session

end SyntheticInput
