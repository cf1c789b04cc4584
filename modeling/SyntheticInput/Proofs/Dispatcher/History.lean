import SyntheticInput.Proofs.Device.Traced
import SyntheticInput.Proofs.Dispatcher.Dispatch

/-!
# Held modifiers over whole runs

A run of a dispatcher is a list of calls, each an action on a target. Over traced devices every call
gives an `Entry`: what was asked, the exchanges it made, and the modifiers held before and after it.
The devices may be of any type, so they may refuse any single event.

* `Entry.Sound`: what a single call can do; every entry of a run is sound (`entry_sound`).
* `HeldBy h m`: by the calls `h`, a press of `m` was delivered and no release was asked for since.
* `Sound.after_iff`: the step; a sound entry leaves `m` held iff it pressed `m`, or `m` was held
  before it and it did not ask for its release.
* `history_split`: the run; before every call just the modifiers of `HeldBy` are held.
* `history_debounced`: from a fresh dispatcher, every run is `Debounced`.
-/

namespace SyntheticInput

namespace Dispatcher

/-- A call of `dispatch` over traced devices, and what came of it. -/
structure Entry where
  target : Target
  action : Action
  /-- The events that were handed to the devices, with their answers. -/
  exchanges : List Exchange
  /-- The modifiers that were held before the call. -/
  before : Held
  /-- The modifiers that were held after it. -/
  after : Held

namespace Entry

/-- The call asked for action `a` on modifier `m`, under whatever key. -/
def Asks (e : Entry) (a : Action) (m : Modifier) : Prop :=
  e.action = a ∧ ∃ id, e.target = .key id (some m)

/-- The call handed `ev` to the devices, whatever they answered. -/
def Calls (e : Entry) (ev : Event) : Prop := ∃ x ∈ e.exchanges, x.event = ev

/-- The call asked to press `m`, and the press was delivered. -/
def Presses (e : Entry) (m : Modifier) : Prop :=
  e.action = .down ∧ ∃ id, e.target = .key id (some m) ∧ .keyDown id ∈ delivered e.exchanges

/-- The call asked to release `m`, whether the release was delivered or not. -/
abbrev Releases (e : Entry) (m : Modifier) : Prop := e.Asks .up m

/-- What one call can do: it hands over the events of its action, up to the first that is refused,
and leaves the modifiers of `heldAfter` held. -/
def Sound (e : Entry) : Prop :=
  ∃ r, Sent (events e.before e.target e.action) e.exchanges r ∧
    e.after = heldAfter e.before e.target e.action r.isOk

end Entry

/-- By the calls `h`, a press of `m` was delivered and no release of `m` was asked for since. -/
def HeldBy (h : List Entry) (m : Modifier) : Prop :=
  ∃ pre e post, h = pre ++ e :: post ∧ e.Presses m ∧ ∀ f ∈ post, ¬ f.Releases m

variable {δ : Type} [Devices δ]

/-- One call with what came of it. -/
def entry (t : Target) (a : Action) (d : Dispatcher (Traced δ)) : Entry :=
  let after := (dispatch t a d).state
  { target := t
    action := a
    exchanges := d.devices.since after.devices
    before := d.held
    after := after.held }

/-- Calls in order, each on what the one before it left. -/
def history : List (Target × Action) → Dispatcher (Traced δ) → List Entry
  | [], _ => []
  | (t, a) :: rs, d => entry t a d :: history rs (dispatch t a d).state

/-! ## One call -/

theorem entry_sound (t : Target) (a : Action) (d : Dispatcher (Traced δ)) :
    (entry t a d).Sound := by
  obtain ⟨xs, r, hp, hs, -, hh⟩ := dispatch_sent t a d
  have hx : (entry t a d).exchanges = xs := hp.since_eq
  exact ⟨r, by rw [hx]; exact hs, hh⟩

namespace Entry.Sound

variable {e : Entry} {m : Modifier} {id : KeyId}

/-- A press of a modifier is handed over iff the modifier is not held. -/
theorem calls_press_iff (h : e.Sound) (ht : e.target = .key id (some m)) (ha : e.action = .down) :
    e.Calls (.keyDown id) ↔ e.before.contains m = false := by
  obtain ⟨r, hs, -⟩ := h
  rw [ht, ha] at hs
  unfold Calls
  cases hm : e.before.contains m with
  | true =>
    simp only [events, hm, ↓reduceIte] at hs
    generalize e.exchanges = xs at hs ⊢
    cases hs
    simp
  | false =>
    simp only [events, hm, Bool.false_eq_true, ↓reduceIte] at hs
    generalize e.exchanges = xs at hs ⊢
    cases hs with
    | refused => simp
    | delivered => simp

/-- A press of a key that is no modifier is always handed over. -/
theorem events_press_key (h : e.Sound) (ht : e.target = .key id none) (ha : e.action = .down) :
    e.exchanges.map (·.event) = [.keyDown id] := by
  obtain ⟨r, hs, -⟩ := h
  rw [ht, ha] at hs
  simp only [events, keyEvents] at hs
  generalize e.exchanges = xs at hs ⊢
  cases hs with
  | refused => rfl
  | delivered _ _ hs => cases hs; rfl

/-- A call that asks neither for a press nor for a release of `m` leaves it as it was. -/
theorem after_of_not_asks (h : e.Sound) (hd : ¬ e.Asks .down m) (hu : ¬ e.Asks .up m) :
    e.after.contains m = e.before.contains m := by
  obtain ⟨r, -, hh⟩ := h
  unfold Asks at hd hu
  rw [hh]
  match ht : e.target, ha : e.action with
  | .mouse b, a => rfl
  | .key id none, a => rfl
  | .key id (some k), .click => rfl
  | .key id (some k), .down =>
    have hk : m ≠ k := fun hk => hd ⟨ha, id, by rw [ht, hk]⟩
    cases r.isOk <;> simp [heldAfter, hk]
  | .key id (some k), .up =>
    have hk : m ≠ k := fun hk => hu ⟨ha, id, by rw [ht, hk]⟩
    simp [heldAfter, hk]

/-- A press of `m` leaves it held iff it was held or the press was delivered. -/
theorem after_press_iff (h : e.Sound) (ht : e.target = .key id (some m)) (ha : e.action = .down) :
    e.after.contains m = true ↔
      .keyDown id ∈ delivered e.exchanges ∨ e.before.contains m = true := by
  obtain ⟨r, hs, hh⟩ := h
  rw [ht, ha] at hs hh
  rw [hh]
  cases hm : e.before.contains m with
  | true =>
    simp only [events, hm, ↓reduceIte] at hs
    generalize e.exchanges = xs at hs ⊢
    cases hs
    simp [heldAfter, Except.isOk, Except.toBool]
  | false =>
    simp only [events, hm, Bool.false_eq_true, ↓reduceIte] at hs
    generalize e.exchanges = xs at hs ⊢
    cases hs with
    | refused => simp [heldAfter, hm, Except.isOk, Except.toBool]
    | delivered _ _ hs =>
      cases hs
      simp [heldAfter, Except.isOk, Except.toBool]

/-- **The step.** A call leaves `m` held iff it pressed `m`, or `m` was held before and it did not
ask for its release. -/
theorem after_iff (h : e.Sound) :
    e.after.contains m = true ↔
      e.Presses m ∨ (e.before.contains m = true ∧ ¬ e.Releases m) := by
  by_cases hd : e.Asks .down m
  · obtain ⟨ha, id, ht⟩ := hd
    have hu : ¬ e.Releases m := fun hu => by rw [hu.1] at ha; cases ha
    rw [after_press_iff h ht ha]
    constructor
    · rintro (hp | hb)
      · exact .inl ⟨ha, id, ht, hp⟩
      · exact .inr ⟨hb, hu⟩
    · rintro (⟨-, id', ht', hp⟩ | ⟨hb, -⟩)
      · rw [ht] at ht'
        cases ht'
        exact .inl hp
      · exact .inr hb
  · have hp : ¬ e.Presses m := fun ⟨ha, id, ht, _⟩ => hd ⟨ha, id, ht⟩
    by_cases hu : e.Releases m
    · obtain ⟨r, -, hh⟩ := h
      obtain ⟨id, ht⟩ := hu.2
      rw [hh, ht, hu.1]
      simp [heldAfter, hp, hu]
    · rw [after_of_not_asks h hd hu]
      simp [hp, hu]

/-- A press that was delivered was of a modifier that was not held. -/
theorem before_of_presses (h : e.Sound) (hp : e.Presses m) : e.before.contains m = false := by
  obtain ⟨ha, id, ht, hx⟩ := hp
  rw [← calls_press_iff h ht ha]
  obtain ⟨x, hx, he⟩ := List.mem_map.1 hx
  exact ⟨x, (List.mem_filter.1 hx).1, he⟩

end Entry.Sound

/-! ## Whole runs -/

theorem not_heldBy_nil (m : Modifier) : ¬ HeldBy [] m := by
  rintro ⟨pre, e, post, h, -⟩
  simp at h

/-- `HeldBy` after one more call. -/
theorem heldBy_append_singleton {h : List Entry} {e : Entry} {m : Modifier} :
    HeldBy (h ++ [e]) m ↔ e.Presses m ∨ (HeldBy h m ∧ ¬ e.Releases m) := by
  constructor
  · rintro ⟨pre, f, post, heq, hp, hr⟩
    rcases List.eq_nil_or_concat post with rfl | ⟨post, g, rfl⟩
    · obtain ⟨-, hef⟩ := List.append_inj' heq rfl
      obtain rfl := List.singleton_inj.1 hef
      exact .inl hp
    · have heq' : h ++ [e] = (pre ++ f :: post) ++ [g] := by simpa using heq
      obtain ⟨rfl, heg⟩ := List.append_inj' heq' rfl
      obtain rfl := List.singleton_inj.1 heg
      exact .inr ⟨⟨pre, f, post, rfl, hp, fun g hg => hr g (by simp [hg])⟩, hr e (by simp)⟩
  · rintro (hp | ⟨⟨pre, f, post, rfl, hp, hr⟩, he⟩)
    · exact ⟨h, e, [], rfl, hp, by simp⟩
    · refine ⟨pre, f, post ++ [e], by simp, hp, fun g hg => ?_⟩
      rcases List.mem_append.1 hg with hg | hg
      · exact hr g hg
      · rw [List.mem_singleton.1 hg]
        exact he

/-- **The run.** If just the modifiers of the calls `past` are held at first, then every call of a
run is sound, and just the modifiers of `past` and the calls before it are held in front of it. -/
theorem history_split (rs : List (Target × Action)) (d : Dispatcher (Traced δ)) (past : List Entry)
    (hd : ∀ m, d.held.contains m = true ↔ HeldBy past m) {pre post : List Entry} {e : Entry}
    (hs : history rs d = pre ++ e :: post) :
    e.Sound ∧ ∀ m, e.before.contains m = true ↔ HeldBy (past ++ pre) m := by
  induction rs generalizing d past pre with
  | nil => simp [history] at hs
  | cons r rs ih =>
    obtain ⟨t, a⟩ := r
    simp only [history] at hs
    cases pre with
    | nil =>
      obtain ⟨rfl, -⟩ := List.cons.inj hs
      exact ⟨entry_sound t a d, fun m => by rw [List.append_nil]; exact hd m⟩
    | cons f pre =>
      obtain ⟨rfl, hrest⟩ := List.cons.inj hs
      have hnext : ∀ m, (dispatch t a d).state.held.contains m = true ↔
          HeldBy (past ++ [entry t a d]) m := by
        intro m
        rw [heldBy_append_singleton, ← hd m]
        exact (entry_sound t a d).after_iff
      simpa using ih (dispatch t a d).state (past ++ [entry t a d]) hnext hrest

theorem asked_history (rs : List (Target × Action)) (d : Dispatcher (Traced δ)) :
    (history rs d).map (fun e => (e.target, e.action)) = rs := by
  induction rs generalizing d with
  | nil => rfl
  | cons r rs ih => simp [history, ih, entry]

/-- What the bookkeeping of modifiers does for the calls of a whole run. -/
structure Debounced (h : List Entry) : Prop where
  /-- Before and after every call, a modifier is held iff some call so far pressed it and none since
  has asked for its release. -/
  held_iff : ∀ pre e post, h = pre ++ e :: post → ∀ m,
    (e.before.contains m = true ↔ HeldBy pre m) ∧
      (e.after.contains m = true ↔ HeldBy (pre ++ [e]) m)
  /-- A press of a modifier is handed to the devices iff the modifier is not held. -/
  press_iff : ∀ e ∈ h, ∀ id m, e.target = .key id (some m) → e.action = .down →
    (e.Calls (.keyDown id) ↔ e.before.contains m = false)
  /-- Between two presses of a modifier that were delivered, its release was asked for. -/
  released_between : ∀ pre e mid f post m, h = pre ++ e :: (mid ++ f :: post) → e.Presses m →
    f.Presses m → ∃ g ∈ mid, g.Releases m
  /-- Clicks, and all calls about something else, leave a modifier as it was. -/
  unchanged : ∀ e ∈ h, ∀ m, ¬ e.Asks .down m → ¬ e.Asks .up m →
    e.after.contains m = e.before.contains m
  /-- A press of a key that is no modifier is always handed to the devices. -/
  press_key : ∀ e ∈ h, ∀ id, e.target = .key id none → e.action = .down →
    e.exchanges.map (·.event) = [.keyDown id]

/-- From a fresh dispatcher every run is debounced, whatever the devices refuse. -/
theorem history_debounced (d : δ) (rs : List (Target × Action)) :
    (history rs { devices := { inner := d } }).map (fun e => (e.target, e.action)) = rs ∧
      Debounced (history rs { devices := { inner := d } }) := by
  refine ⟨asked_history rs _, ?_⟩
  generalize hh : history rs { devices := { inner := d } } = h
  have hfresh : ∀ m, (Held.none).contains m = true ↔ HeldBy [] m := by
    intro m
    simp [not_heldBy_nil]
  have hsplit : ∀ pre e post, h = pre ++ e :: post →
      e.Sound ∧ ∀ m, e.before.contains m = true ↔ HeldBy pre m := by
    intro pre e post hs
    simpa using history_split rs _ [] hfresh (hh.trans hs)
  have hsound : ∀ e ∈ h, e.Sound := by
    intro e he
    obtain ⟨pre, post, hs⟩ := List.append_of_mem he
    exact (hsplit pre e post hs).1
  constructor
  case held_iff =>
    intro pre e post hs m
    obtain ⟨he, hb⟩ := hsplit pre e post hs
    exact ⟨hb m, by rw [heldBy_append_singleton, ← hb m]; exact he.after_iff⟩
  case press_iff => exact fun e he id m ht ha => (hsound e he).calls_press_iff ht ha
  case released_between =>
    intro pre e mid f post m hs he hf
    obtain ⟨hfs, hb⟩ := hsplit (pre ++ e :: mid) f post (by simpa using hs)
    -- Were there no release in between, the first press would still count before the second.
    apply Classical.byContradiction
    intro hn
    have hheld : f.before.contains m = true :=
      (hb m).2 ⟨pre, e, mid, rfl, he, fun g hg hr => hn ⟨g, hg, hr⟩⟩
    rw [hfs.before_of_presses hf] at hheld
    cases hheld
  case unchanged => exact fun e he m hd hu => (hsound e he).after_of_not_asks hd hu
  case press_key => exact fun e he id ht ha => (hsound e he).events_press_key ht ha

end Dispatcher

end SyntheticInput
