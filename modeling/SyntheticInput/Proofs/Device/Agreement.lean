import Mathlib.Data.List.DropRight
import SyntheticInput.Proofs.Device.Reliable

/-!
# Records, log and cursor agree

Recording devices keep what they are handed in several places: each device in a record of its own,
both in the combined log, and the mouse in its cursor. A record can be cleared, the log and the
cursor cannot, so a record shows what was logged since it was last cleared, and the cursor is where
the whole log has taken it. The copies of a device share one state, so it makes no difference
through which of them a request is made.

* `Event.place`, `coordinates_foldl_moveCursor`: the cursor with coordinates that have no bounds,
  and that the bounds do not show as long as no addition overflows.
* `Request.Fails`, `perform_of_fails`, `perform_of_not_fails`: all that a request does.
* `after`, `loggedSince`: the devices behind some requests, and what was logged since the last
  clearing.
* `Shows.record_eq`: the invariant for a record, whichever device keeps it.
* `records_agree`: records, log and cursor agree behind any requests.
-/

namespace SyntheticInput

/-! ## The cursor -/

/-- The coordinates as numbers without bounds. -/
def Point.coordinates (p : Point) : Int × Int := (p.x.toInt, p.y.toInt)

/-- Where an event takes a cursor with coordinates that have no bounds. -/
def Event.place (c : Int × Int) : Event → Int × Int
  | mouse (.move dx dy) => (c.1 + dx.toInt, c.2 + dy.toInt)
  | mouse (.setPosition target) => target.coordinates
  | mouse (.button ..) => c
  | key _ => c

/-- As long as no addition overflows, the bounds of the coordinates do not show. -/
theorem coordinates_foldl_moveCursor {p : Point} {es : List Event} (h : Fits p es) :
    (es.foldl Event.moveCursor p).coordinates = es.foldl Event.place p.coordinates := by
  induction es generalizing p with
  | nil => rfl
  | cons e es ih =>
    obtain ⟨hx, hy, h⟩ := h
    have hstep : (Event.moveCursor p e).coordinates = Event.place p.coordinates e := by
      rcases e with ke | ⟨_ | ⟨dx, dy⟩ | target⟩
      · rfl
      · rfl
      · exact Prod.ext (toInt_add_of_inRange hx) (toInt_add_of_inRange hy)
      · rfl
    rw [List.foldl_cons, ih h, hstep, List.foldl_cons]

namespace Recorder

/-! ## One request -/

namespace Request

/-- The events that a request hands over. -/
def events : Request → List Event
  | keyDown key => [.keyDown key]
  | keyUp key => [.keyUp key]
  | keyPress key => [.keyDown key, .keyUp key]
  | button b down data => [.mouse (.button b down data)]
  | move dx dy => [.move dx dy]
  | setPosition target => [.setPosition target]
  | _ => []

/-- A request fails when its key is the failing one; a query for the cursor fails while such queries
are refused. -/
def Fails (r : Recorder) : Request → Prop
  | keyDown key => r.failingKey = some key
  | keyUp key => r.failingKey = some key
  | keyPress key => r.failingKey = some key
  | position => r.refusesPosition = true
  | _ => False

/-- What a request changes besides handing over events. -/
def settle : Request → Recorder → Recorder
  | failKey key, r => { r with failingKey := some key }
  | refusePosition refuse, r => { r with refusesPosition := refuse }
  | clearKeyboard, r => { r with keyboard := [] }
  | clearMouse, r => { r with mouse := [] }
  | _, r => r

end Request

variable {q : Request} {r : Recorder}

theorem deliver_of_refused {e : Event} {cause : DeviceError} (h : r.refusal? e = some cause) :
    deliver e r = ⟨.error cause, r, [.recording e]⟩ := by
  simp only [deliver, Devices.attempt, h]

theorem deliver_of_not_refused {e : Event} (h : r.refusal? e = none) :
    deliver e r = ⟨.ok (), r.accept e, [.recording e]⟩ := by
  rw [deliver, attempt_of_not_refused h]

theorem refusal?_key_eq_some {e : KeyEvent} (h : r.failingKey = some e.key) :
    ∃ cause, r.refusal? (.key e) = some cause := ⟨_, if_pos h⟩

theorem refusal?_key_eq_none {e : KeyEvent} (h : r.failingKey ≠ some e.key) :
    r.refusal? (.key e) = none := if_neg h

/-- A request that fails changes nothing. -/
theorem perform_of_fails (h : q.Fails r) :
    (∃ cause, (perform q r).result = .error cause) ∧ (perform q r).state = r := by
  -- A press fails before its release is tried, since both are about the same key.
  have hkey : ∀ (e : KeyEvent) (f : Unit → Act Recorder DeviceError Reply),
      r.failingKey = some e.key →
        (∃ cause, ((deliver (.key e) >>= f) r).result = .error cause) ∧
          ((deliver (.key e) >>= f) r).state = r := by
    intro e f he
    obtain ⟨cause, hc⟩ := refusal?_key_eq_some he
    rw [Act.bind_error (deliver_of_refused hc)]
    exact ⟨⟨cause, rfl⟩, rfl⟩
  cases q with
  | keyDown key => exact hkey (.down key) _ h
  | keyUp key => exact hkey (.up key) _ h
  | keyPress key =>
    obtain ⟨cause, hc⟩ := refusal?_key_eq_some (e := .down key) h
    have hpress : (SyntheticInput.keyPress key : Act Recorder DeviceError Unit) r =
        ⟨.error cause, r, [.recording (.keyDown key)]⟩ :=
      Act.bind_error (deliver_of_refused hc)
    rw [perform, Act.bind_error hpress]
    exact ⟨⟨cause, rfl⟩, rfl⟩
  | position =>
    have hp : (Devices.position : Act Recorder DeviceError Point) r =
        ⟨.error (.operation "injected cursor query failure"), r, []⟩ := by
      simp only [Devices.position, position?, if_pos (show r.refusesPosition = true from h)]
    rw [perform, Act.bind_error hp]
    exact ⟨⟨_, rfl⟩, rfl⟩
  | button | move | setPosition | failKey | refusePosition | clearKeyboard | clearMouse
  | keyboardRecord | mouseRecord | combinedLog => exact h.elim

/-- Any other request hands over all of its events. -/
theorem perform_of_not_fails (h : ¬ q.Fails r) :
    (∃ reply, (perform q r).result = .ok reply) ∧
      (perform q r).state = q.settle (q.events.foldl accept r) := by
  have hone : ∀ e : Event, r.refusal? e = none →
      (∃ reply, ((deliver e >>= fun _ => pure Reply.done) r).result = .ok reply) ∧
        ((deliver e >>= fun _ => pure Reply.done) r).state = r.accept e := by
    intro e he
    rw [Act.bind_ok (deliver_of_not_refused he)]
    exact ⟨⟨_, rfl⟩, rfl⟩
  cases q with
  | keyDown key => exact hone _ (refusal?_key_eq_none (e := .down key) h)
  | keyUp key => exact hone _ (refusal?_key_eq_none (e := .up key) h)
  | keyPress key =>
    have hdown : r.refusal? (.keyDown key) = none := refusal?_key_eq_none (e := .down key) h
    have hup : (r.accept (.keyDown key)).refusal? (.keyUp key) = none := by
      refine refusal?_key_eq_none ?_
      rw [(accept_frame r _).1]
      exact h
    have hpress :
        ((SyntheticInput.keyPress key : Act Recorder DeviceError Unit) r).result = .ok () ∧
        ((SyntheticInput.keyPress key : Act Recorder DeviceError Unit) r).state =
          (r.accept (.keyDown key)).accept (.keyUp key) := by
      unfold SyntheticInput.keyPress deliverAll deliverAll
      rw [Act.bind_ok (deliver_of_not_refused hdown)]
      simp only
      rw [Act.bind_ok (deliver_of_not_refused hup)]
      exact ⟨rfl, rfl⟩
    rw [perform, Act.result_bind_of_ok hpress.1, Act.state_bind_of_ok hpress.1]
    exact ⟨⟨_, rfl⟩, hpress.2⟩
  | position =>
    have hp : (Devices.position : Act Recorder DeviceError Point) r = ⟨.ok r.cursor, r, []⟩ := by
      simp only [Devices.position, position?, if_neg (show ¬ r.refusesPosition = true from h)]
    rw [perform, Act.bind_ok hp]
    exact ⟨⟨_, rfl⟩, rfl⟩
  | button b down data => exact hone (.mouse (.button b down data)) rfl
  | move dx dy => exact hone (.move dx dy) rfl
  | setPosition target => exact hone (.setPosition target) rfl
  | failKey | refusePosition | clearKeyboard | clearMouse | keyboardRecord | mouseRecord
  | combinedLog => exact ⟨⟨_, rfl⟩, rfl⟩

/-- Only requests that fail are answered with an error. -/
theorem perform_eq_error_iff : (∃ cause, (perform q r).result = .error cause) ↔ q.Fails r := by
  refine ⟨fun ⟨cause, hc⟩ => ?_, fun h => (perform_of_fails h).1⟩
  by_contra h
  obtain ⟨reply, hr⟩ := (perform_of_not_fails h).1
  rw [hc] at hr
  cases hr

/-- The events of a request that is answered, none of one that fails. -/
def Request.issued (q : Request) (r : Recorder) : List Event :=
  match (perform q r).result with
  | .ok _ => q.events
  | .error _ => []

/-- **All that a request does.** -/
theorem state_perform (q : Request) (r : Recorder) :
    (perform q r).state = q.settle ((q.issued r).foldl accept r) := by
  by_cases h : q.Fails r
  · obtain ⟨⟨cause, hc⟩, hs⟩ := perform_of_fails h
    rw [hs, Request.issued, hc]
    -- What can fail changes nothing on the side.
    cases q with
    | keyDown | keyUp | keyPress | position => rfl
    | button | move | setPosition | failKey | refusePosition | clearKeyboard | clearMouse
    | keyboardRecord | mouseRecord | combinedLog => exact h.elim
  · obtain ⟨⟨reply, hr⟩, hs⟩ := perform_of_not_fails h
    rw [hs, Request.issued, hr]

/-- What a request changes on the side is neither the log nor the cursor. -/
theorem settle_frame (q : Request) (r : Recorder) :
    (q.settle r).log = r.log ∧ (q.settle r).cursor = r.cursor ∧
      (q.settle r).logging = r.logging := by
  cases q <;> exact ⟨rfl, rfl, rfl⟩

/-- The log grows by the events of the request, and these take the cursor along. -/
theorem log_perform (h : r.logging = true) (q : Request) :
    (perform q r).state.log = r.log ++ q.issued r ∧
      (perform q r).state.cursor = (q.issued r).foldl Event.moveCursor r.cursor ∧
      (perform q r).state.logging = true := by
  obtain ⟨hlog, hcursor, hlogging⟩ := settle_frame q ((q.issued r).foldl accept r)
  rw [state_perform, hlog, hcursor, hlogging, foldl_accept, if_pos h]
  exact ⟨rfl, rfl, h⟩

/-! ## Requests one after the other -/

/-- The devices behind some requests, whether these fail or not. -/
def after (qs : List Request) (r : Recorder) : Recorder :=
  qs.foldl (fun r q => (perform q r).state) r

theorem after_concat (qs : List Request) (q : Request) (r : Recorder) :
    after (qs ++ [q]) r = (perform q (after qs r)).state := List.foldl_concat ..

/-- The log only grows, and the cursor is where the events of the log have taken it. -/
theorem log_after (h : r.logging = true) (qs : List Request) :
    ∃ es, (after qs r).log = r.log ++ es ∧
      (after qs r).cursor = es.foldl Event.moveCursor r.cursor ∧ (after qs r).logging = true := by
  induction qs generalizing r with
  | nil => exact ⟨[], (List.append_nil _).symm, rfl, h⟩
  | cons q qs ih =>
    obtain ⟨hlog, hcursor, hlogging⟩ := log_perform h q
    obtain ⟨es, hes, hes', hlast⟩ := ih hlogging
    rw [hlog, List.append_assoc] at hes
    rw [hcursor, ← List.foldl_append] at hes'
    exact ⟨q.issued r ++ es, hes, hes', hlast⟩

/-- What was logged since the last of the requests `clear`, or from the start where there is none.
-/
def loggedSince (clear : Request) (qs : List Request) (r : Recorder) : List Event :=
  (after qs r).log.drop (after (qs.rdropWhile (· ≠ clear)) r).log.length

theorem loggedSince_clear (clear : Request) (qs : List Request) (r : Recorder) :
    loggedSince clear (qs ++ [clear]) r = [] := by
  rw [loggedSince, List.rdropWhile_concat_neg _ _ _ (by simp), List.drop_length]

theorem loggedSince_concat (h : r.logging = true) {clear q : Request} (hq : q ≠ clear)
    (qs : List Request) :
    loggedSince clear (qs ++ [q]) r = loggedSince clear qs r ++ q.issued (after qs r) := by
  obtain ⟨-, -, -, hlogging⟩ := log_after h qs
  have hle : (after (qs.rdropWhile (· ≠ clear)) r).log.length ≤ (after qs r).log.length := by
    obtain ⟨rest, hrest⟩ := List.rdropWhile_prefix (· ≠ clear) qs
    obtain ⟨-, -, -, hfirst⟩ := log_after h (qs.rdropWhile (· ≠ clear))
    obtain ⟨es, hes, -⟩ := log_after hfirst rest
    have hsplit : after qs r = after rest (after (qs.rdropWhile (· ≠ clear)) r) := by
      conv => lhs; rw [← hrest]
      exact List.foldl_append
    rw [hsplit, hes, List.length_append]
    exact Nat.le_add_right ..
  rw [loggedSince, loggedSince, List.rdropWhile_concat_pos _ _ _ (by simpa using hq), after_concat,
    (log_perform hlogging q).1, List.drop_append_of_le_length hle]

/-! ## Records -/

/-- `record` keeps the inputs that `pick` takes from events, and the request `clear` clears it. -/
structure Shows {ε : Type} (record : Recorder → List ε) (pick : Event → Option ε)
    (clear : Request) : Prop where
  accepted : ∀ (es : List Event) (r : Recorder),
    record (es.foldl accept r) = record r ++ es.filterMap pick
  cleared : ∀ r, record (clear.settle r) = []
  kept : ∀ q r, q ≠ clear → record (q.settle r) = record r

theorem shows_keyboard : Shows keyboard Event.key? .clearKeyboard where
  accepted := fun es r => by rw [foldl_accept]
  cleared := fun _ => rfl
  kept := by
    intro q r hq
    cases q with
    | clearKeyboard => exact absurd rfl hq
    | _ => rfl

theorem shows_mouse : Shows mouse Event.mouse? .clearMouse where
  accepted := fun es r => by rw [foldl_accept]
  cleared := fun _ => rfl
  kept := by
    intro q r hq
    cases q with
    | clearMouse => exact absurd rfl hq
    | _ => rfl

/-- A record that is empty at first shows what was logged since it was last cleared. -/
theorem Shows.record_eq {ε : Type} {record : Recorder → List ε} {pick : Event → Option ε}
    {clear : Request} (hs : Shows record pick clear) (hl : r.logging = true)
    (he : record r = []) (hlog : r.log = []) (qs : List Request) :
    record (after qs r) = (loggedSince clear qs r).filterMap pick := by
  -- From the last request backwards: either it clears the record, or it adds to record and log.
  induction qs using List.reverseRecOn with
  | nil => rw [loggedSince, after, List.foldl_nil, he, hlog, List.drop_nil, List.filterMap_nil]
  | append_singleton qs q ih =>
    rw [after_concat, state_perform]
    by_cases hq : q = clear
    · subst hq
      rw [hs.cleared, loggedSince_clear, List.filterMap_nil]
    · rw [hs.kept _ _ hq, hs.accepted, ih, loggedSince_concat hl hq, List.filterMap_append]

/-! ## Everything together -/

/-- Devices that have recorded nothing yet, with a combined log and the cursor at `p`. -/
def fresh (p : Point) : Recorder := { cursor := p }

/-- How records, log and cursor go together behind the requests `qs`. -/
structure Agree (p : Point) (qs : List Request) (r : Recorder) : Prop where
  /-- The record of the keyboard shows the key inputs logged since it was last cleared. -/
  keyboard : r.keyboard = (loggedSince .clearKeyboard qs (fresh p)).filterMap Event.key?
  /-- The record of the mouse shows the mouse inputs logged since it was last cleared. -/
  mouse : r.mouse = (loggedSince .clearMouse qs (fresh p)).filterMap Event.mouse?
  /-- The cursor is where all logged events have taken it, within the bounds of coordinates. -/
  cursor : r.cursor = r.log.foldl Event.moveCursor p
  /-- It is there without bounds as well, as long as no addition overflows. -/
  coordinates : Fits p r.log → r.cursor.coordinates = r.log.foldl Event.place p.coordinates
  /-- A further request fails just when its key is the failing one or its query is refused. -/
  fails_iff : ∀ q, (∃ cause, (perform q r).result = .error cause) ↔ q.Fails r
  /-- Then neither records nor log nor cursor change, nor anything else. -/
  failed : ∀ q cause, (perform q r).result = .error cause → (perform q r).state = r
  /-- Otherwise all of its events are logged. -/
  logged : ∀ q reply, (perform q r).result = .ok reply → (perform q r).state.log = r.log ++ q.events

/-- Behind any requests, in any order and whether they fail or not, the records, the log and the
cursor agree. -/
theorem records_agree (p : Point) (qs : List Request) : Agree p qs (after qs (fresh p)) := by
  obtain ⟨es, hlog, hcursor, hlogging⟩ := log_after (r := fresh p) rfl qs
  obtain rfl : (after qs (fresh p)).log = es := hlog
  constructor
  case keyboard => exact shows_keyboard.record_eq rfl rfl rfl qs
  case mouse => exact shows_mouse.record_eq rfl rfl rfl qs
  case cursor => exact hcursor
  case coordinates =>
    intro hf
    rw [hcursor]
    exact coordinates_foldl_moveCursor hf
  case fails_iff => exact fun q => perform_eq_error_iff
  case failed => exact fun q cause hc => (perform_of_fails (perform_eq_error_iff.1 ⟨cause, hc⟩)).2
  case logged =>
    intro q reply hr
    rw [(log_perform hlogging q).1, Request.issued, hr]

/-- A cleared record, a request that fails, and a cursor that only the log accounts for. -/
theorem records_agree_cleared :
    let qs : List Request := [.keyDown 65, .move 4 (-1), .clearKeyboard, .clearMouse, .failKey 66,
      .keyPress 66, .keyUp 65, .move 1 1]
    let r := after qs (fresh ⟨2, 3⟩)
    r.keyboard = [.up 65] ∧ r.mouse = [.move 1 1] ∧ Fits ⟨2, 3⟩ r.log ∧
      r.cursor.coordinates = (7, 3) := by
  intro qs r
  have hagree : Agree ⟨2, 3⟩ qs r := records_agree ⟨2, 3⟩ qs
  have hlog : r.log = [.keyDown 65, .move 4 (-1), .keyUp 65, .move 1 1] := by decide
  have hfits : Fits ⟨2, 3⟩ r.log := by
    rw [hlog]
    exact ⟨⟨by decide, by decide⟩, ⟨by decide, by decide⟩, ⟨by decide, by decide⟩,
      ⟨by decide, by decide⟩, ⟨by decide, by decide⟩, ⟨by decide, by decide⟩,
      ⟨by decide, by decide⟩, ⟨by decide, by decide⟩, trivial⟩
  refine ⟨?_, ?_, hfits, ?_⟩
  · rw [hagree.keyboard]
    decide
  · rw [hagree.mouse]
    decide
  · rw [hagree.coordinates hfits, hlog]
    decide

end Recorder

end SyntheticInput
