import SyntheticInput.Proofs.Device.Recording
import SyntheticInput.Proofs.Simulator.Answered

/-!
# Commands that fail half-way

What a command delivers is a first part of what it would send, and a refusal undoes nothing but the
press of a modifier that was not delivered.

* `wouldSend`: the events that a command sends where nothing is refused.
* `Understands`: the text is blank, or its first word names a key.
* `Failsafe`: how what was delivered, the result and the new state go together.
* `send_failsafe`: they do so for every command, whatever the devices refuse.
-/

namespace SyntheticInput

namespace Simulator

variable {δ ε : Type}

/-! ## What would be sent -/

/-- The same simulator with other devices. -/
def withDevices (d : ε) (s : Simulator δ) : Simulator ε where
  resolver := s.resolver
  dispatcher := { devices := d, held := s.held }
  draws := s.draws
  defaultSpeed := s.defaultSpeed
  cancel := s.cancel

/-- The events that a command sends to devices that refuse nothing. -/
def wouldSend (text : String) (s : Simulator δ) : List Event :=
  (send text (s.withDevices ({} : Recorder))).state.devices.log

theorem wouldSend_eq (text : String) (s : Simulator δ) : s.wouldSend text = s.events text := by
  obtain ⟨xs, hp, ha⟩ := send_answered text (s.withDevices ({} : Recorder))
  obtain ⟨hlog, hok⟩ := Recorder.log_passed hp rfl rfl
  rw [wouldSend, show (send text (s.withDevices ({} : Recorder))).state.devices.log = _ from hlog]
  obtain ⟨r, hs, -⟩ := ha.sent
  exact hs.events_eq hok

/-! ## How the parts go together -/

/-- The text is blank, or its first word names a key. -/
def Understands (text : String) (s : Simulator δ) : Prop :=
  ∀ w ws, Text.words text.toList = w :: ws → (s.resolver.find (.ofList w)).isSome

theorem understands_iff (text : String) (s : Simulator δ) :
    s.Understands text ↔ ∀ e, s.resolver.asks text ≠ .error e := by
  unfold Understands
  cases hw : Text.words text.toList with
  | nil => simp [Resolver.asks_of_blank hw]
  | cons w ws =>
    cases hf : s.resolver.find (.ofList w) with
    | none => simp [Resolver.asks_of_find_none hw hf, hf]
    | some f =>
      obtain ⟨t, a, ha⟩ := Resolver.asks_of_find_some hw hf
      simp [ha, hf]

/-- How the exchanges `xs` of a command, its result and the simulator `s'` that it leaves go
together. -/
structure Failsafe (text : String) (s : Simulator δ) (xs : List Exchange)
    (res : Except CommandError Unit) (s' : Simulator δ) : Prop where
  /-- What was delivered is a first part of what would be sent. -/
  delivered_prefix : delivered xs <+: s.wouldSend text
  /-- There is no error exactly when the text is understood and all of that was delivered. -/
  ok_iff : res = .ok () ↔ s.Understands text ∧ delivered xs = s.wouldSend text
  /-- A refusal is the last exchange, and its cause is the error. -/
  refused_last : ∀ pre x post cause, xs = pre ++ x :: post → x.answer = .error cause →
    post = [] ∧ res = .error (.device cause)
  /-- An error of the devices is the cause of a refusal. -/
  exists_refused : ∀ cause, res = .error (.device cause) →
    ∃ pre x, xs = pre ++ [x] ∧ x.answer = .error cause
  /-- An unknown key is an error that names it; nothing is tried, and nothing changes. -/
  unknown : ∀ w ws, Text.words text.toList = w :: ws → s.resolver.find (.ofList w) = none →
    res = .error (.unknownKey (.ofList w)) ∧ xs = [] ∧ s' = s
  /-- The release of a modifier that was refused has been forgotten all the same. -/
  held_of_refused_release : ∀ cause id m, res = .error (.device cause) →
    s.resolver.asks text = .ok (some (.key id (some m), .up)) → s'.held = s.held.erase m
  /-- Any other refusal leaves the held modifiers as they were. -/
  held_of_refused : ∀ cause, res = .error (.device cause) →
    (∀ id m, s.resolver.asks text ≠ .ok (some (.key id (some m), .up))) → s'.held = s.held
  /-- Nothing that is sent moves the cursor. -/
  cursor : ∀ x ∈ xs, ∀ p, x.event.moveCursor p = p
  /-- Everything but the devices and the held modifiers is kept. -/
  kept : s'.resolver = s.resolver ∧ s'.draws = s.draws ∧ s'.defaultSpeed = s.defaultSpeed ∧
    s'.cancel = s.cancel

theorem moveCursor_of_mem_buttonEvents {b : Button} {a : Action} {e : Event}
    (he : e ∈ Dispatcher.buttonEvents b a) (p : Point) : e.moveCursor p = p := by
  have hall : ∀ e ∈ Dispatcher.buttonEvents b a, e.moveCursor p = p := by
    cases a <;> simp [Dispatcher.buttonEvents, Event.moveCursor, MouseEvent.moveCursor]
  exact hall e he

theorem moveCursor_of_mem_keyEvents {id : KeyId} {a : Action} {e : Event}
    (he : e ∈ Dispatcher.keyEvents id a) (p : Point) : e.moveCursor p = p := by
  have hall : ∀ e ∈ Dispatcher.keyEvents id a, e.moveCursor p = p := by
    cases a <;> simp [Dispatcher.keyEvents, Event.moveCursor]
  exact hall e he

/-- No action on a key or button moves the cursor. -/
theorem moveCursor_of_mem_events {text : String} {s : Simulator δ} {e : Event}
    (he : e ∈ s.events text) (p : Point) : e.moveCursor p = p := by
  unfold events at he
  split at he
  · unfold Dispatcher.events at he
    split at he
    · exact moveCursor_of_mem_buttonEvents he p
    · split at he
      · cases he
      · rw [List.mem_singleton.1 he]
        rfl
    · exact moveCursor_of_mem_keyEvents he p
  · cases he

theorem Answered.failsafe {s s' : Simulator δ} {text : String} {xs : List Exchange}
    {res : Except CommandError Unit} (h : Answered s text xs res s') :
    Failsafe text s xs res s' := by
  obtain ⟨r, hs, herr⟩ := h.sent
  have hw := wouldSend_eq text s
  constructor
  case delivered_prefix =>
    rw [hw]
    exact hs.delivered_prefix
  case ok_iff =>
    rw [hw, understands_iff]
    exact h.ok_iff
  case refused_last =>
    intro pre x post cause hx hans
    rw [herr]
    exact hs.refused_last hx hans
  case exists_refused => exact fun cause hc => hs.exists_refused ((herr cause).1 hc)
  case unknown => exact fun w ws hws hf => h.eq_of_find_none hws hf
  case held_of_refused_release =>
    intro cause id m hc ha
    obtain ⟨t, a, ha', hheld⟩ := h.held_of_refused hc
    rw [ha] at ha'
    cases ha'
    exact hheld
  case held_of_refused =>
    intro cause hc hne
    obtain ⟨t, a, ha, hheld⟩ := h.held_of_refused hc
    rw [hheld]
    apply Dispatcher.heldAfter_of_refused
    rintro id m rfl rfl
    exact hne id m ha
  case cursor =>
    intro x hx p
    exact moveCursor_of_mem_events (hs.events_prefix.subset (List.mem_map_of_mem hx)) p
  case kept => exact h.kept

/-- What a command delivers, its result and the simulator that it leaves go together, whatever the
devices refuse; on recording devices behind any link, the cursor stays where it is. -/
theorem send_failsafe (text : String) :
    (∀ (δ : Type) [Devices δ] (s : Simulator (Traced δ)),
      let o := send text s
      Failsafe text s (s.devices.since o.state.devices) o.result o.state) ∧
    ∀ s : Simulator (Traced (Flaky Recorder)),
      (send text s).state.devices.inner.inner.cursor = s.devices.inner.inner.cursor := by
  constructor
  · intro δ _ s
    obtain ⟨xs, hp, ha⟩ := send_answered text s
    simp only [hp.since_eq]
    exact ha.failsafe
  · intro s
    obtain ⟨xs, hp, ha⟩ := send_answered text s
    have hcur := Recorder.follows.flaky.traced.passed hp
    rw [show (send text s).state.devices.inner.inner.cursor = _ from hcur]
    have hstay : ∀ e ∈ delivered xs, ∀ p, Event.moveCursor p e = p := by
      intro e he
      obtain ⟨x, hx, rfl⟩ := List.mem_map.1 he
      exact ha.failsafe.cursor x (List.mem_filter.1 hx).1
    exact foldl_moveCursor_eq hstay _

/-- Sending all there is to send is not enough: there is nothing to send for an unknown key, and
still it is an error. -/
theorem send_unknown_not_ok :
    let s : Simulator (Traced Recorder) := .ofConfig {} 0 { inner := {} }
    let o := send "Foo" s
    ¬ (o.result = .ok () ↔ delivered (s.devices.since o.state.devices) = s.wouldSend "Foo") := by
  intro s o h
  have hwords : Text.words "Foo".toList = ["Foo".toList] := by decide
  have hfind : s.resolver.find (.ofList "Foo".toList) = none := by decide
  obtain ⟨xs, hp, ha⟩ := send_answered "Foo" s
  obtain ⟨hres, rfl, -⟩ := ha.failsafe.unknown _ _ hwords hfind
  have hwould : s.wouldSend "Foo" = [] := by
    rw [wouldSend_eq, events, Resolver.asks_of_find_none hwords hfind]
  rw [show o.result = _ from hres, hwould, hp.since_eq] at h
  cases h.2 rfl

end Simulator

end SyntheticInput
