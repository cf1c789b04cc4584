import SyntheticInput.Proofs.Command.Reading
import SyntheticInput.Proofs.Dispatcher.Dispatch
import SyntheticInput.Simulator

/-!
# What a command does to a simulator

A command makes the exchanges of its events up to the first that is refused, and what it leaves
behind is fixed by these exchanges.

* `Answered s text xs res s'`: the command `text` made the exchanges `xs`, ended in `res` and turned
  the simulator `s` into `s'`.
* `send_eq_dispatch`: a command dispatches what its text asks for.
* `send_answered`: this is what `send` does.
* `events`: the events of a command.
* `Answered.sent`, `Answered.ok_iff`, `Answered.eq_of_find_none`, `Answered.held_of_refused`: what
  follows for the exchanges, the result and the new state.
-/

namespace SyntheticInput

namespace Simulator

variable {δ : Type}

/-- The command `text` made the exchanges `xs`, ended in `res` and left the simulator `s'`. -/
inductive Answered (s : Simulator δ) (text : String) :
    List Exchange → Except CommandError Unit → Simulator δ → Prop
  | blank : s.resolver.asks text = .ok none → Answered s text [] (.ok ()) s
  | unknown {e : CommandError} : s.resolver.asks text = .error e → Answered s text [] (.error e) s
  | acted {t a xs r} (d : δ) : s.resolver.asks text = .ok (some (t, a)) →
      Sent (Dispatcher.events s.held t a) xs r →
      Answered s text xs (r.mapError .device)
        { s with dispatcher := ⟨d, Dispatcher.heldAfter s.held t a r.isOk⟩ }

/-- A command ends as the dispatch of what its text asks for, and leaves what that leaves. -/
theorem send_eq_dispatch [Devices δ] (text : String) (s : Simulator δ) :
    ((send text s).result =
        match s.resolver.asks text with
        | .ok (some (t, a)) => (Dispatcher.dispatch t a s.dispatcher).result
        | .ok none => .ok ()
        | .error e => .error e) ∧
      (send text s).state =
        match s.resolver.asks text with
        | .ok (some (t, a)) => { s with dispatcher := (Dispatcher.dispatch t a s.dispatcher).state }
        | _ => s := by
  obtain ⟨hr, hs⟩ := Command.read_eq (ε := CommandError) text s
  unfold send
  rw [Act.result_bind_of_ok hr, Act.state_bind_of_ok hr, hs, Resolver.asks]
  cases Command.parse text with
  | none => exact ⟨rfl, rfl⟩
  | some c =>
    obtain ⟨hr, hs⟩ := c.target_eq s.resolver s
    simp only [Act.result_get_bind, Act.state_get_bind]
    cases ha : c.aim s.resolver with
    | error e =>
      rw [ha] at hr
      rw [Act.result_bind_of_error hr, Act.state_bind_of_error hr, hs]
      exact ⟨rfl, rfl⟩
    | ok t =>
      rw [ha] at hr
      rw [Act.result_bind_of_ok hr, Act.state_bind_of_ok hr, hs]
      exact ⟨rfl, rfl⟩

theorem send_answered [Devices δ] (text : String) (s : Simulator δ) :
    ∃ xs, Passed s.devices xs (send text s).state.devices ∧
      Answered s text xs (send text s).result (send text s).state := by
  obtain ⟨hr, hs⟩ := send_eq_dispatch text s
  rw [hr, hs]
  cases hasks : s.resolver.asks text with
  | error e => exact ⟨[], .nil _, .unknown hasks⟩
  | ok asked =>
    cases asked with
    | none => exact ⟨[], .nil _, .blank hasks⟩
    | some target =>
      obtain ⟨t, a⟩ := target
      obtain ⟨xs, r, hp, hx, hres, hheld⟩ := Dispatcher.dispatch_sent t a s.dispatcher
      refine ⟨xs, hp, ?_⟩
      have h := Answered.acted (Dispatcher.dispatch t a s.dispatcher).state.devices hasks hx
      rw [← hres, ← show _ = Dispatcher.heldAfter s.held t a r.isOk from hheld] at h
      exact h

/-! ## What follows for its parts -/

/-- The events of what a text asks for. -/
def events (text : String) (s : Simulator δ) : List Event :=
  match s.resolver.asks text with
  | .ok (some (t, a)) => Dispatcher.events s.held t a
  | _ => []

theorem events_of_asks {s : Simulator δ} {text : String} {t : Target} {a : Action}
    (h : s.resolver.asks text = .ok (some (t, a))) :
    s.events text = Dispatcher.events s.held t a := by
  rw [events, h]

theorem mapError_eq_ok {r : Except DeviceError Unit} :
    r.mapError CommandError.device = .ok () ↔ r = .ok () := by
  cases r with
  | ok v => exact ⟨fun _ => rfl, fun _ => rfl⟩
  | error cause => exact ⟨nofun, nofun⟩

theorem mapError_eq_error {r : Except DeviceError Unit} {cause : DeviceError} :
    r.mapError CommandError.device = .error (.device cause) ↔ r = .error cause := by
  cases r with
  | ok v => exact ⟨nofun, nofun⟩
  | error cause' =>
    constructor
    · rintro ⟨⟩
      rfl
    · rintro ⟨⟩
      rfl

namespace Answered

variable {s s' : Simulator δ} {text : String} {xs : List Exchange} {res : Except CommandError Unit}

/-- A command hands over the events of its text, and only devices give it an error of devices. -/
theorem sent (h : Answered s text xs res s') :
    ∃ r, Sent (s.events text) xs r ∧
      ∀ cause, res = .error (.device cause) ↔ r = .error cause := by
  cases h with
  | blank ha =>
    refine ⟨.ok (), ?_, fun cause => ⟨nofun, nofun⟩⟩
    rw [events, ha]
    exact .nil
  | unknown ha =>
    obtain ⟨name, rfl⟩ := Resolver.unknown_of_asks ha
    refine ⟨.ok (), ?_, fun cause => ⟨nofun, nofun⟩⟩
    rw [events, ha]
    exact .nil
  | acted d ha hs =>
    rw [← events_of_asks ha] at hs
    exact ⟨_, hs, fun cause => mapError_eq_error⟩

/-- An action on a target hands over its events. -/
theorem sent_of_asks (h : Answered s text xs res s') {t : Target} {a : Action}
    (ha : s.resolver.asks text = .ok (some (t, a))) :
    ∃ r, Sent (Dispatcher.events s.held t a) xs r ∧ res = r.mapError .device := by
  cases h with
  | blank h =>
    rw [ha] at h
    cases h
  | unknown h =>
    rw [ha] at h
    cases h
  | acted d h hs =>
    rw [ha] at h
    cases h
    exact ⟨_, hs, rfl⟩

/-- There is no error exactly when the text asks for none and everything was delivered. -/
theorem ok_iff (h : Answered s text xs res s') :
    res = .ok () ↔ (∀ e, s.resolver.asks text ≠ .error e) ∧ delivered xs = s.events text := by
  cases h with
  | blank ha => simp [events, ha]
  | unknown ha => simp [ha]
  | acted d ha hs =>
    rw [mapError_eq_ok, hs.ok_iff, events_of_asks ha]
    simp [ha]

/-- An unknown key is an error that names it; nothing is tried, and nothing changes. -/
theorem eq_of_find_none (h : Answered s text xs res s') {w : List Char} {ws : List (List Char)}
    (hw : Text.words text.toList = w :: ws) (hf : s.resolver.find (.ofList w) = none) :
    res = .error (.unknownKey (.ofList w)) ∧ xs = [] ∧ s' = s := by
  have hu := Resolver.asks_of_find_none hw hf
  cases h with
  | blank ha =>
    rw [hu] at ha
    cases ha
  | unknown ha =>
    rw [hu] at ha
    cases ha
    exact ⟨rfl, rfl, rfl⟩
  | acted d ha hs =>
    rw [hu] at ha
    cases ha

/-- The held modifiers after a refusal. -/
theorem held_of_refused (h : Answered s text xs res s') {cause : DeviceError}
    (hr : res = .error (.device cause)) :
    ∃ t a, s.resolver.asks text = .ok (some (t, a)) ∧
      s'.held = Dispatcher.heldAfter s.held t a false := by
  cases h with
  | blank ha => cases hr
  | unknown ha =>
    obtain ⟨name, rfl⟩ := Resolver.unknown_of_asks ha
    cases hr
  | acted d ha hs =>
    rw [mapError_eq_error] at hr
    rw [hr]
    exact ⟨_, _, ha, rfl⟩

/-- Everything but the devices and the held modifiers is kept. -/
theorem kept (h : Answered s text xs res s') :
    s'.resolver = s.resolver ∧ s'.draws = s.draws ∧ s'.defaultSpeed = s.defaultSpeed ∧
      s'.cancel = s.cancel := by
  cases h with
  | blank => exact ⟨rfl, rfl, rfl, rfl⟩
  | unknown => exact ⟨rfl, rfl, rfl, rfl⟩
  | acted => exact ⟨rfl, rfl, rfl, rfl⟩

end Answered

end Simulator

end SyntheticInput
