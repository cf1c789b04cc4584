import SyntheticInput.Proofs.Session.Sides

/-!
# Keyboard and mouse do not interfere

The tasks about one device can be left out of a session, and those about the other do not notice. So
two tasks about different devices can change places, and only the combined log shows it.

* `entries`, `answers_entries`: a session, task by task, with the answers of its run.
* `Confined.purge`: what the tasks about a device see of a session is what they see without the
  others.
* `final_swap`: the sides of the simulator behind a session in which two tasks have changed places.
* `log_final`: what a session adds to the log is fixed by the two sides.
* `keyboard_and_mouse_apart`: all of this, for both devices.
-/

namespace SyntheticInput

namespace Session

/-- A task of a session, with the simulator before and behind it and the answer. -/
structure Entry where
  task : Task
  before : State
  answer : Answer
  after : State

/-- A session, task by task. -/
def entries : List Task → State → List Entry
  | [], _ => []
  | t :: ts, s =>
    let (answer, after, _) := step t.request s
    ⟨t, s, answer, after⟩ :: entries ts after

/-- The simulator behind a session. -/
def final (ts : List Task) (s : State) : State := (run (ts.map Task.request) s).2.1

/-- The answers of a session are those of its entries. -/
theorem answers_entries (ts : List Task) (s : State) :
    (run (ts.map Task.request) s).1 = (entries ts s).map (·.answer) := by
  induction ts generalizing s with
  | nil => rfl
  | cons t ts ih =>
    rw [List.map_cons, entries, List.map_cons, ← ih]
    rfl

theorem final_cons (t : Task) (ts : List Task) (s : State) :
    final (t :: ts) s = final ts (t.after s) := rfl

theorem final_append (ts us : List Task) (s : State) :
    final (ts ++ us) s = final us (final ts s) := by
  induction ts generalizing s with
  | nil => rfl
  | cons t ts ih => exact ih (t.after s)

variable {s s' : State} {t : Task}

theorem quiet_final (h : s.devices.Quiet) (ts : List Task) : (final ts s).devices.Quiet := by
  induction ts generalizing s with
  | nil => exact h
  | cons t ts ih => exact ih (Task.quiet_after h t)

/-! ## Leaving out tasks -/

/-- What one side of the simulator shows of a task. -/
structure Seen (α : Type) where
  task : Task
  before : α
  result : Except Failure Reply
  after : α

section Side

variable {α : Type} {c : KeyClass} {side : State → α}

/-- What a side of the simulator shows of an entry. -/
def Entry.seen (side : State → α) (e : Entry) : Seen α :=
  ⟨e.task, side e.before, e.answer.result, side e.after⟩

/-- The tasks about a device. -/
def only (c : KeyClass) (ts : List Task) : List Task := ts.filter (·.device = c)

/-- The entries of the tasks about a device. -/
def onlyEntries (c : KeyClass) (es : List Entry) : List Entry := es.filter (·.task.device = c)

namespace Confined

/-- Where a side is the same before a task, it is the same behind it. -/
theorem after_congr (hc : Confined c side) (h : s.devices.Quiet) (h' : s'.devices.Quiet)
    (hs : side s = side s') (t : Task) : side (t.after s) = side (t.after s') := by
  by_cases hd : t.device = c
  · exact (hc.fixed t s s' h h' hd hs).2.2
  · rw [hc.kept t s h hd, hc.kept t s' h' hd, hs]

/-- What the tasks about a device see of a session is what they see when the others are left out. -/
theorem purge (hc : Confined c side) (h : s.devices.Quiet) (h' : s'.devices.Quiet)
    (hs : side s = side s') (ts : List Task) :
    (onlyEntries c (entries ts s)).map (·.seen side) =
        (entries (only c ts) s').map (·.seen side) ∧
      side (final ts s) = side (final (only c ts) s') := by
  -- The two simulators run apart in what the other device records, not in their side.
  induction ts generalizing s s' with
  | nil => exact ⟨rfl, hs⟩
  | cons t ts ih =>
    by_cases hd : t.device = c
    · obtain ⟨hresult, -, hafter⟩ := hc.fixed t s s' h h' hd hs
      obtain ⟨hseen, hfinal⟩ := ih (Task.quiet_after h t) (Task.quiet_after h' t) hafter
      have honly : only c (t :: ts) = t :: only c ts := List.filter_cons_of_pos (by simp [hd])
      have hentry : (⟨t, side s, (perform t.request s).result, side (t.after s)⟩ : Seen α) =
          ⟨t, side s', (perform t.request s').result, side (t.after s')⟩ := by
        rw [(perform_eq h t).1, (perform_eq h' t).1, hs, hresult, hafter]
      refine ⟨?_, ?_⟩
      · rw [honly, entries, onlyEntries, List.filter_cons_of_pos (by simp [hd]), List.map_cons,
          entries, List.map_cons]
        exact List.cons_eq_cons.2 ⟨hentry, hseen⟩
      · rw [honly, final_cons, final_cons]
        exact hfinal
    · have hafter : side (t.after s) = side s' := (hc.kept t s h hd).trans hs
      obtain ⟨hseen, hfinal⟩ := ih (Task.quiet_after h t) h' hafter
      have honly : only c (t :: ts) = only c ts := List.filter_cons_of_neg (by simp [hd])
      refine ⟨?_, ?_⟩
      · rw [honly, entries, onlyEntries, List.filter_cons_of_neg (by simp [hd])]
        exact hseen
      · rw [honly, final_cons]
        exact hfinal

end Confined

end Side

/-! ## Changing places -/

section Swap

variable {k p : Task}

/-- Two tasks about different devices can change places among the tasks about one device. -/
theorem only_swap (hk : k.device = .keyboard) (hp : p.device = .mouse) (c : KeyClass)
    (pre post : List Task) : only c (pre ++ k :: p :: post) = only c (pre ++ p :: k :: post) := by
  cases c with
  | keyboard => simp [only, hk, hp]
  | mouse => simp [only, hk, hp]

/-- A side of the simulator does not show that two tasks about different devices changed places. -/
theorem final_swap {α : Type} {c : KeyClass} {side : State → α} (hc : Confined c side)
    (h : s.devices.Quiet) (hk : k.device = .keyboard) (hp : p.device = .mouse)
    (pre post : List Task) :
    side (final (pre ++ k :: p :: post) s) = side (final (pre ++ p :: k :: post) s) := by
  calc side (final (pre ++ k :: p :: post) s)
    _ = side (final (only c (pre ++ k :: p :: post)) s) := (hc.purge h h rfl _).2
    _ = side (final (only c (pre ++ p :: k :: post)) s) := by rw [only_swap hk hp]
    _ = side (final (pre ++ p :: k :: post) s) := (hc.purge h h rfl _).2.symm

theorem log_after (h : s.devices.Quiet) (t : Task) :
    (t.after s).devices.inner.log = s.devices.inner.log ++ (t.effect s).events := by
  have hi : ((t.effect s).apply s).devices.inner = _ := Rig.inner_record h (t.effect s).events
  rw [Task.after_eq h, hi]

/-- The events of a task are fixed by the two sides. -/
theorem events_congr (h : s.devices.Quiet) (h' : s'.devices.Quiet)
    (hk : keyboardSide s = keyboardSide s') (hm : mouseSide s = mouseSide s') (t : Task) :
    (t.effect s).events = (t.effect s').events := by
  cases hd : t.device with
  | keyboard => exact (confined_keyboard.fixed t s s' h h' hd hk).2.1
  | mouse => exact (confined_mouse.fixed t s s' h h' hd hm).2.1

/-- What a session adds to the log is fixed by the two sides. -/
theorem log_final (h : s.devices.Quiet) (h' : s'.devices.Quiet)
    (hk : keyboardSide s = keyboardSide s') (hm : mouseSide s = mouseSide s') (ts : List Task) :
    ∃ es, (final ts s).devices.inner.log = s.devices.inner.log ++ es ∧
      (final ts s').devices.inner.log = s'.devices.inner.log ++ es := by
  induction ts generalizing s s' with
  | nil => exact ⟨[], by simp [final, run], by simp [final, run]⟩
  | cons t ts ih =>
    obtain ⟨es, hlog, hlog'⟩ := ih (Task.quiet_after h t) (Task.quiet_after h' t)
      (confined_keyboard.after_congr h h' hk t) (confined_mouse.after_congr h h' hm t)
    refine ⟨(t.effect s).events ++ es, ?_, ?_⟩
    · rw [final_cons, hlog, log_after h, List.append_assoc]
    · rw [final_cons, hlog', log_after h', List.append_assoc, events_congr h h' hk hm t]

/-- Two tasks about different devices send the same whichever comes first. -/
theorem log_pair (h : s.devices.Quiet) (hk : k.device = .keyboard) (hp : p.device = .mouse) :
    (final [k, p] s).devices.inner.log =
        s.devices.inner.log ++ (k.effect s).events ++ (p.effect s).events ∧
      (final [p, k] s).devices.inner.log =
        s.devices.inner.log ++ (p.effect s).events ++ (k.effect s).events := by
  have hkq := Task.quiet_after h k
  have hpq := Task.quiet_after h p
  have hmouse : mouseSide (k.after s) = mouseSide s := confined_mouse.kept k s h (by simp [hk])
  have hkeyboard : keyboardSide (p.after s) = keyboardSide s :=
    confined_keyboard.kept p s h (by simp [hp])
  constructor
  · change (p.after (k.after s)).devices.inner.log = _
    rw [log_after hkq, log_after h, (confined_mouse.fixed p _ s hkq h hp hmouse).2.1]
  · change (k.after (p.after s)).devices.inner.log = _
    rw [log_after hpq, log_after h, (confined_keyboard.fixed k _ s hpq h hk hkeyboard).2.1]

/-- Where two tasks about different devices have changed places, the log has their events the other
way round. -/
theorem log_swap (h : s.devices.Quiet) (hk : k.device = .keyboard) (hp : p.device = .mouse)
    (pre post : List Task) :
    ∃ before es fs behind, (∀ e ∈ es, e.device = .keyboard) ∧ (∀ e ∈ fs, e.device = .mouse) ∧
      (final (pre ++ k :: p :: post) s).devices.inner.log = before ++ es ++ fs ++ behind ∧
      (final (pre ++ p :: k :: post) s).devices.inner.log = before ++ fs ++ es ++ behind := by
  have hpre : (final pre s).devices.Quiet := quiet_final h pre
  have hsplit : ∀ t u, final (pre ++ t :: u :: post) s = final post (final [t, u] (final pre s)) :=
    fun t u => final_append pre (t :: u :: post) s
  obtain ⟨hkp, hpk⟩ := log_pair hpre hk hp
  obtain ⟨behind, hlog, hlog'⟩ := log_final (quiet_final hpre [k, p]) (quiet_final hpre [p, k])
    (final_swap confined_keyboard hpre hk hp [] []) (final_swap confined_mouse hpre hk hp [] []) post
  rw [← hsplit, hkp] at hlog
  rw [← hsplit, hpk] at hlog'
  exact ⟨_, (k.effect (final pre s)).events, (p.effect (final pre s)).events, behind,
    fun e he => (Task.device_of_mem_events he).trans hk,
    fun e he => (Task.device_of_mem_events he).trans hp, hlog, hlog'⟩

end Swap

/-- **Keyboard and mouse do not interfere.** The entries of a session hold its answers. On quiet
devices, the tasks about the mouse see the same record, cursor, token and stream and are answered
alike whether or not there are commands for the keyboard between them, and the same holds the other
way round. So a command for the keyboard and a task about the mouse that follow each other can change
places; the simulator behind the session is the same, but for the order of their events in the log. -/
theorem keyboard_and_mouse_apart (h : s.devices.Quiet) :
    (∀ ts : List Task, (run (ts.map Task.request) s).1 = (entries ts s).map (·.answer)) ∧
    (∀ ts : List Task,
      (onlyEntries .mouse (entries ts s)).map (·.seen mouseSide) =
          (entries (only .mouse ts) s).map (·.seen mouseSide) ∧
        mouseSide (final ts s) = mouseSide (final (only .mouse ts) s)) ∧
    (∀ ts : List Task,
      (onlyEntries .keyboard (entries ts s)).map (·.seen keyboardSide) =
          (entries (only .keyboard ts) s).map (·.seen keyboardSide) ∧
        keyboardSide (final ts s) = keyboardSide (final (only .keyboard ts) s)) ∧
    ∀ (pre post : List Task) (k p : Task), k.device = .keyboard → p.device = .mouse →
      let o := final (pre ++ k :: p :: post) s
      let o' := final (pre ++ p :: k :: post) s
      mapRecorder (fun r => { r with log := o'.devices.inner.log }) o = o' ∧
        ∃ before es fs behind, (∀ e ∈ es, e.device = .keyboard) ∧ (∀ e ∈ fs, e.device = .mouse) ∧
          o.devices.inner.log = before ++ es ++ fs ++ behind ∧
          o'.devices.inner.log = before ++ fs ++ es ++ behind := by
  refine ⟨fun ts => answers_entries ts s, confined_mouse.purge h h rfl,
    confined_keyboard.purge h h rfl, ?_⟩
  intro pre post k p hk hp o o'
  refine ⟨?_, log_swap h hk hp pre post⟩
  exact eq_of_sides (quiet_final h _) (quiet_final h _)
    (final_swap confined_keyboard h hk hp pre post) (final_swap confined_mouse h hk hp pre post)

/-- Nothing fails when a session starts. -/
theorem quiet_start (c : Config) (entropy : UInt64) (cursor : Point) :
    (start c entropy cursor).devices.Quiet := ⟨rfl, rfl, rfl, rfl⟩

/-- The cursor is placed as if no key had been pressed before, and the key is held as if the cursor
had been placed before. -/
theorem keyboard_and_mouse_apart_start :
    let s := start {} 0 ⟨0, 0⟩
    let k : Task := .send "Shift down"
    let p : Task := .setPosition ⟨3, 4⟩
    (mouseSide (final [k, p] s)).cursor = ⟨3, 4⟩ ∧
      mapRecorder (fun r => { r with log := (final [p, k] s).devices.inner.log }) (final [k, p] s) =
        final [p, k] s := by
  intro s k p
  have hs : s.devices.Quiet := quiet_start {} 0 ⟨0, 0⟩
  obtain ⟨-, hmouse, -, hswap⟩ := keyboard_and_mouse_apart hs
  have hk : k.device = .keyboard := by decide
  have honly : only .mouse [k, p] = [p] := by
    simp [only, hk]
    rfl
  have hstate := (hswap [] [] k p hk rfl).1
  rw [List.nil_append, List.nil_append] at hstate
  refine ⟨?_, hstate⟩
  rw [(hmouse [k, p]).2, honly]
  rfl

end Session

end SyntheticInput
