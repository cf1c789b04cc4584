import SyntheticInput.Proofs.Dispatcher.Routing
import SyntheticInput.Proofs.Key.Aliases
import SyntheticInput.Proofs.Session.Quiet

/-!
# The two sides of a simulator

A task is about one of the two devices. It depends on nothing but what the tasks about its device see
of the simulator, and it changes nothing else.

* `Task.device`: the device that a task is about.
* `KeyboardSide`, `MouseSide`: what the tasks about a device see of the simulator.
* `eq_of_sides`: besides these sides a quiet simulator has nothing but the combined log.
* `Confined`: tasks about a device depend on one side of the simulator, and others leave it alone.
* `confined_keyboard`, `confined_mouse`: this holds of both devices.
-/

namespace SyntheticInput

namespace Session

/-- The device that a task is about. A command is about the mouse if its first word is the name of a
button, and a blank one is not. -/
def Task.device : Task → KeyClass
  | send text =>
    match Text.words text.toList with
    | [] => .keyboard
    | w :: _ => .ofName (.ofList w)
  | move .. => .mouse
  | setPosition _ => .mouse
  | cancel => .mouse

variable {text : String} {w : List Char} {ws : List (List Char)}

theorem device_of_blank (h : Text.words text.toList = []) : (Task.send text).device = .keyboard := by
  simp only [Task.device, h]

theorem device_of_words (h : Text.words text.toList = w :: ws) :
    (Task.send text).device = .ofName (.ofList w) := by
  simp only [Task.device, h]

/-- The target of a command belongs to the device that the command is about. -/
theorem device_of_asks {r : Resolver} {t : Target} {a : Action}
    (h : r.asks text = .ok (some (t, a))) : t.device = (Task.send text).device := by
  cases hw : Text.words text.toList with
  | nil =>
    rw [Resolver.asks_of_blank hw] at h
    cases h
  | cons w ws =>
    rw [device_of_words hw]
    have hclass := Command.ofName_eq_mouse_iff (.ofList w)
    rw [Resolver.asks_of_words hw, Command.aim] at h
    cases hf : r.find (.ofList w) with
    | none =>
      rw [hf] at h
      cases h
    | some f =>
      simp only [hf] at h
      cases hb : Button.ofName? (.ofList w) with
      | some b =>
        rw [hb] at h hclass
        cases h
        exact (hclass.2 rfl).symm
      | none =>
        rw [hb] at h hclass
        cases h
        cases hk : KeyClass.ofName (.ofList w) with
        | keyboard => rfl
        | mouse => cases hclass.1 hk

/-- A command about the mouse has a button as its target, whatever the aliases. -/
theorem asks_of_mouse (h : (Task.send text).device = .mouse) :
    ∃ b a, ∀ r : Resolver, r.asks text = .ok (some (.mouse b, a)) := by
  cases hw : Text.words text.toList with
  | nil =>
    rw [device_of_blank hw] at h
    cases h
  | cons w ws =>
    rw [device_of_words hw, Command.ofName_eq_mouse_iff] at h
    obtain ⟨b, hb⟩ := Option.isSome_iff_exists.1 h
    refine ⟨b, .asked (ws.head?.map .ofList), fun r => ?_⟩
    cases hid : KeyId.ofName? (.ofList w) with
    | none =>
      rw [Button.ofName?_eq_none hid] at hb
      cases hb
    | some id =>
      rw [Resolver.asks_of_words hw, Command.aim]
      simp only [Resolver.find_builtin hid r, hb]
      rfl

namespace Task

variable {t : Task} {s s' : State}

/-- Tasks send to the device that they are about. -/
theorem device_of_mem_events {e : Event} (he : e ∈ (t.effect s).events) : e.device = t.device := by
  cases t with
  | send text =>
    change e ∈ s.events text at he
    unfold Simulator.events at he
    split at he
    · next ha => exact (Dispatcher.device_of_mem_events he).trans (device_of_asks ha)
    · cases he
  | move target speed =>
    obtain ⟨dx, dy, rfl⟩ := eq_move_of_mem_moves he
    rfl
  | setPosition target =>
    rw [List.mem_singleton.1 he]
    rfl
  | cancel => cases he

/-- Only commands about the keyboard change the held modifiers. -/
theorem held_effect (h : t.device = .mouse) (s : State) : (t.effect s).held = s.held := by
  cases t with
  | send text =>
    obtain ⟨b, a, hasks⟩ := asks_of_mouse h
    change s.heldAfter text = s.held
    rw [Simulator.heldAfter, hasks]
    rfl
  | move | setPosition | cancel => rfl

/-- Tasks about the keyboard change neither the stream nor the token. -/
theorem draws_effect (h : t.device = .keyboard) (s : State) :
    (t.effect s).draws = s.draws ∧ (t.effect s).cancel = s.cancel := by
  cases t with
  | send text => exact ⟨rfl, rfl⟩
  | move | setPosition | cancel => cases h

end Task

/-! ## Sides of a simulator -/

/-- What the tasks about the keyboard see. -/
structure KeyboardSide where
  record : List KeyEvent
  held : Held
  resolver : Resolver

/-- What the tasks about the mouse see. -/
structure MouseSide where
  record : List MouseEvent
  cursor : Point
  cancel : CancelToken
  draws : Draws
  defaultSpeed : Float

/-- The side of the keyboard. -/
def keyboardSide (s : State) : KeyboardSide := ⟨s.devices.inner.keyboard, s.held, s.resolver⟩

/-- The side of the mouse. -/
def mouseSide (s : State) : MouseSide :=
  ⟨s.devices.inner.mouse, s.devices.inner.cursor, s.cancel, s.draws, s.defaultSpeed⟩

variable {s s' : State} {t : Task}

theorem keyboardSide_apply (h : s.devices.Quiet) (f : Effect) :
    keyboardSide (f.apply s) =
      { keyboardSide s with
        record := s.devices.inner.keyboard ++ f.events.filterMap Event.key?
        held := f.held } := by
  have hi : (f.apply s).devices.inner = _ := Rig.inner_record h f.events
  rw [keyboardSide, hi]
  rfl

theorem mouseSide_apply (h : s.devices.Quiet) (f : Effect) :
    mouseSide (f.apply s) =
      { mouseSide s with
        record := s.devices.inner.mouse ++ f.events.filterMap Event.mouse?
        cursor := f.events.foldl Event.moveCursor s.devices.inner.cursor
        cancel := f.cancel
        draws := f.draws } := by
  have hi : (f.apply s).devices.inner = _ := Rig.inner_record h f.events
  rw [mouseSide, hi]
  rfl

/-- Two simulators with the same sides differ in nothing but the log. -/
theorem eq_of_sides (h : s.devices.Quiet) (h' : s'.devices.Quiet)
    (hk : keyboardSide s = keyboardSide s') (hm : mouseSide s = mouseSide s') :
    mapRecorder (fun r => { r with log := s'.devices.inner.log }) s = s' := by
  obtain ⟨resolver, ⟨⟨⟨keyboard, mouse, cursor, failing, refuses, logging, log⟩, faults⟩, held⟩, draws,
    speed, cancel⟩ := s
  obtain ⟨resolver', ⟨⟨⟨keyboard', mouse', cursor', failing', refuses', logging', log'⟩, faults'⟩,
    held'⟩, draws', speed', cancel'⟩ := s'
  obtain ⟨rfl, rfl, rfl⟩ := KeyboardSide.mk.inj hk
  obtain ⟨rfl, rfl, rfl, rfl, rfl⟩ := MouseSide.mk.inj hm
  obtain rfl : faults = faults' := h.faults.trans h'.faults.symm
  obtain rfl : failing = failing' := h.failingKey.trans h'.failingKey.symm
  obtain rfl : refuses = refuses' := h.refusesPosition.trans h'.refusesPosition.symm
  obtain rfl : logging = logging' := h.logging.trans h'.logging.symm
  rfl

/-! ## What a task depends on -/

namespace Task

/-- What a task about the keyboard does is fixed by the side of the keyboard. -/
theorem effect_of_keyboard (hd : t.device = .keyboard) (hs : keyboardSide s = keyboardSide s') :
    t.effect s' = { t.effect s with draws := s'.draws, cancel := s'.cancel } := by
  obtain ⟨-, hheld, hresolver⟩ := KeyboardSide.mk.inj hs
  cases t with
  | send text =>
    have he : s.events text = s'.events text := by
      rw [Simulator.events, Simulator.events, hresolver, hheld]
    have hh : s.heldAfter text = s'.heldAfter text := by
      rw [Simulator.heldAfter, Simulator.heldAfter, hresolver, hheld]
    simp only [effect, hresolver, he, hh, Effect.idle]
  | move | setPosition | cancel => cases hd

/-- What a task about the mouse does is fixed by the side of the mouse. -/
theorem effect_of_mouse (hd : t.device = .mouse) (hs : mouseSide s = mouseSide s') :
    t.effect s' = { t.effect s with held := s'.held } := by
  obtain ⟨-, hcursor, hcancel, hdraws, hspeed⟩ := MouseSide.mk.inj hs
  cases t with
  | send text =>
    obtain ⟨b, a, hasks⟩ := asks_of_mouse hd
    have he : ∀ s : State, s.events text = Dispatcher.buttonEvents b a := fun s =>
      Simulator.events_of_asks (hasks s.resolver)
    have hh : ∀ s : State, s.heldAfter text = s.held := fun s =>
      held_effect (t := .send text) hd s
    simp only [effect, hasks, he, hh, Effect.idle, hdraws, hcancel]
  | move target speed =>
    have htraj : s.trajectory s.devices.inner.cursor target speed =
        s'.trajectory s'.devices.inner.cursor target speed := by
      rw [Simulator.trajectory, Simulator.trajectory, hcursor, hdraws, hspeed]
    simp only [effect, htraj, Effect.idle, hdraws, hcancel]
  | setPosition target => simp only [effect, Effect.idle, hdraws, hcancel]
  | cancel => simp only [effect, Effect.idle, hdraws, hcancel]

/-- The simulator behind a task. -/
def after (t : Task) (s : State) : State := (perform t.request s).state

theorem after_eq (h : s.devices.Quiet) (t : Task) : t.after s = (t.effect s).apply s :=
  (perform_eq h t).2

theorem quiet_after (h : s.devices.Quiet) (t : Task) : (t.after s).devices.Quiet := by
  rw [after_eq h]
  exact h.record _

end Task

/-- Tasks about the device `c` depend on one side of the simulator only, and other tasks leave this
side alone. -/
structure Confined {α : Type} (c : KeyClass) (side : State → α) : Prop where
  kept : ∀ (t : Task) (s : State), s.devices.Quiet → t.device ≠ c → side (t.after s) = side s
  fixed : ∀ (t : Task) (s s' : State), s.devices.Quiet → s'.devices.Quiet → t.device = c →
    side s = side s' →
      (t.effect s).result = (t.effect s').result ∧ (t.effect s).events = (t.effect s').events ∧
        side (t.after s) = side (t.after s')

theorem confined_keyboard : Confined .keyboard keyboardSide where
  kept := by
    intro t s h hne
    have hd : t.device = .mouse := KeyClass.eq_of_ne hne (by decide)
    rw [Task.after_eq h, keyboardSide_apply h, Task.held_effect hd,
      filterMap_key?_eq_nil fun e he => (Task.device_of_mem_events he).trans hd, List.append_nil]
    rfl
  fixed := by
    intro t s s' h h' hd hs
    have he := Task.effect_of_keyboard hd hs
    have hrecord : s.devices.inner.keyboard = s'.devices.inner.keyboard :=
      congrArg KeyboardSide.record hs
    refine ⟨by rw [he], by rw [he], ?_⟩
    rw [Task.after_eq h, Task.after_eq h', keyboardSide_apply h, keyboardSide_apply h', he, hs,
      hrecord]

theorem confined_mouse : Confined .mouse mouseSide where
  kept := by
    intro t s h hne
    have hd : t.device = .keyboard := KeyClass.eq_of_ne hne (by decide)
    have he : ∀ e ∈ (t.effect s).events, e.device = .keyboard := fun e he =>
      (Task.device_of_mem_events he).trans hd
    obtain ⟨hdraws, hcancel⟩ := Task.draws_effect hd s
    rw [Task.after_eq h, mouseSide_apply h, hdraws, hcancel, filterMap_mouse?_eq_nil he,
      foldl_moveCursor_of_keyboard he, List.append_nil]
    rfl
  fixed := by
    intro t s s' h h' hd hs
    have he := Task.effect_of_mouse hd hs
    have hrecord : s.devices.inner.mouse = s'.devices.inner.mouse := congrArg MouseSide.record hs
    have hcursor : s.devices.inner.cursor = s'.devices.inner.cursor := congrArg MouseSide.cursor hs
    refine ⟨by rw [he], by rw [he], ?_⟩
    rw [Task.after_eq h, Task.after_eq h', mouseSide_apply h, mouseSide_apply h', he, hs, hrecord,
      hcursor]

end Session

end SyntheticInput
