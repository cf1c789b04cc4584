import SyntheticInput.Proofs.Script.Line
import SyntheticInput.Proofs.Simulator.Answered
import SyntheticInput.Proofs.Simulator.Move
import SyntheticInput.Session

/-!
# Turns of a simulator

A turn is something that happens to a simulator on devices of any type: somebody asks it for
something, or the devices change by themselves, so that from then on they refuse other calls.
However a turn ends, it leaves a simulator behind. Sessions over recording devices are made of
turns.

* `Turn`, `Turn.apply`: a turn, and the simulator it leaves behind.
* `Turn.move?`: the move that a turn asks for, itself or as a script line.
* `Turn.behind`: the simulator that some turns leave behind.
* `apply_of_move?`: a turn that asks for a move is that move.
* `apply_line`: a script line that asks for no move is a command, a placing, or nothing.
* `draws_apply`: a turn that asks for no move draws nothing, unless it is a seeding.
* `Session.state_run`: the state that a session leaves is that of its turns.
-/

namespace SyntheticInput

/-- Something that happens to a simulator. -/
inductive Turn (δ : Type) where
  | send (text : String)
  | line (text : String)
  | move (target : Point) (speed : Option Float)
  | setPosition (target : Point)
  | withSeed (seed : UInt64)
  | cancel
  /-- The devices change by themselves. -/
  | disturb (f : δ → δ)

variable {δ : Type} [Devices δ]

namespace Turn

/-- The simulator behind a turn, however the turn ended. -/
def apply : Turn δ → Simulator δ → Simulator δ
  | send text, s => (Simulator.send text s).state
  | line text, s => (runLine text s : Outcome _ ScriptError Bool).state
  | move target speed, s => (Simulator.moveTo target speed s).state
  | setPosition target, s => (Simulator.setPosition target s).state
  | withSeed seed, s => s.withSeed seed
  | cancel, s => s.requestCancel
  | disturb f, s => s.mapDevices f

/-- The simulator behind some turns. -/
def behind (us : List (Turn δ)) (s : Simulator δ) : Simulator δ := us.foldl (fun s u => u.apply s) s

/-- The move that a turn asks for, by its target and speed. -/
def move? {δ : Type} : Turn δ → Option (Point × Option Float)
  | move target speed => some (target, speed)
  | line text =>
    match Instruction.ofLine? text with
    | .ok (some (.move x y speed)) => some (⟨x, y⟩, speed)
    | _ => none
  | _ => none

end Turn

namespace Turn

variable {u : Turn δ} {s : Simulator δ}

theorem behind_concat (us : List (Turn δ)) (u : Turn δ) (s : Simulator δ) :
    behind (us ++ [u]) s = u.apply (behind us s) := by
  rw [behind, List.foldl_append]
  rfl

/-- A turn that asks for a move is that move. -/
theorem apply_of_move? {target : Point} {speed : Option Float} (h : u.move? = some (target, speed))
    (s : Simulator δ) : u.apply s = (Simulator.moveTo target speed s).state := by
  cases u with
  | move target' speed' =>
    cases h
    rfl
  | line text =>
    simp only [move?] at h
    rw [apply, state_runLine]
    split at h
    · next x y speed' hl =>
      cases h
      rw [hl]
      exact Instruction.state_execute _ s
    · cases h
  | send | setPosition | withSeed | cancel | disturb => cases h

/-- A line that asks for no move is a command, a placing, or nothing. -/
theorem apply_line {text : String} (h : (line text : Turn δ).move? = none) (s : Simulator δ) :
    (∃ command, (line text).apply s = (Simulator.send command s).state) ∨
      (∃ target, (line text).apply s = (Simulator.setPosition target s).state) ∨
      (line text).apply s = s := by
  simp only [move?] at h
  rw [apply, state_runLine]
  cases hl : Instruction.ofLine? text with
  | error e => exact .inr (.inr rfl)
  | ok asked =>
    cases asked with
    | none => exact .inr (.inr rfl)
    | some i =>
      simp only
      rw [Instruction.state_execute]
      cases i with
      | move x y speed => simp [hl] at h
      | setPosition x y => exact .inr (.inl ⟨⟨x, y⟩, rfl⟩)
      | sleep pause => exact .inr (.inr rfl)
      | key command => exact .inl ⟨command, rfl⟩

theorem draws_send (text : String) (s : Simulator δ) :
    (Simulator.send text s).state.draws = s.draws := by
  obtain ⟨xs, -, ha⟩ := Simulator.send_answered text s
  exact ha.kept.2.1

theorem draws_setPosition (target : Point) (s : Simulator δ) :
    (Simulator.setPosition target s).state.draws = s.draws := by
  rw [(Simulator.setPosition_eq target s).2]

/-- A turn that asks for no move draws nothing, unless it is a seeding. -/
theorem draws_apply (h : u.move? = none) (hs : ∀ seed, u ≠ .withSeed seed) (s : Simulator δ) :
    (u.apply s).draws = s.draws := by
  cases u with
  | send text => exact draws_send text s
  | line text =>
    obtain ⟨command, hs⟩ | ⟨target, hs⟩ | hs := apply_line h s
    · rw [hs, draws_send]
    · rw [hs, draws_setPosition]
    · rw [hs]
  | move target speed => cases h
  | setPosition target => exact draws_setPosition target s
  | withSeed seed => exact absurd rfl (hs seed)
  | cancel => rfl
  | disturb f => rfl

end Turn

/-! ## Sessions -/

namespace Session

/-- What a request of a session does to the simulator. Looking at the records does nothing. -/
def Request.turn : Request → Turn Rig
  | .send command => .send command
  | .line text => .line text
  | .move target speed => .move target speed
  | .setPosition target => .setPosition target
  | .withSeed seed => .withSeed seed
  | .cancel => .cancel
  | .fail faults => .disturb fun d => { d with faults }
  | .failKey key => .disturb fun d => { d with inner := { d.inner with failingKey := some key } }
  | .refusePosition refuse =>
    .disturb fun d => { d with inner := { d.inner with refusesPosition := refuse } }
  | .clear => .disturb fun d => { d with inner := { d.inner with keyboard := [], mouse := [] } }
  | .records => .disturb id

/-- What is answered behind an operation does not change its state. -/
theorem state_reply {σ ε ε' α β : Type} (f : ε → ε') (a : Act σ ε α) (g : α → β) (s : σ) :
    ((do return g (← Act.mapError f a)) s : Outcome σ ε' β).state = (a s).state :=
  congrArg (·.state) (Act.bind_pure_apply (Act.mapError f a) g s)

/-- It is an answer to its result. -/
theorem result_reply {σ ε ε' α β : Type} (f : ε → ε') (a : Act σ ε α) (g : α → β) (s : σ) :
    ((do return g (← Act.mapError f a)) s : Outcome σ ε' β).result =
      ((a s).result.mapError f).map g :=
  congrArg (·.result) (Act.bind_pure_apply (Act.mapError f a) g s)

theorem state_perform (r : Request) (s : State) : (perform r s).state = r.turn.apply s := by
  cases r with
  | send command =>
    exact state_reply Failure.command (Simulator.send command) (fun _ => Reply.done) s
  | line text =>
    exact state_reply Failure.script (runLine text)
      (fun asked => if asked then Reply.done else .blank) s
  | move target speed =>
    exact state_reply Failure.device (Simulator.moveTo target speed) Reply.report s
  | setPosition target =>
    exact state_reply Failure.device (Simulator.setPosition target) (fun _ => Reply.done) s
  | withSeed | cancel | fail | failKey | refusePosition | clear | records => rfl

/-- The state that a session leaves is that of its turns. -/
theorem state_run (rs : List Request) (s : State) :
    (run rs s).2.1 = Turn.behind (rs.map Request.turn) s := by
  induction rs generalizing s with
  | nil => rfl
  | cons r rs ih =>
    rw [List.map_cons, Turn.behind, List.foldl_cons, ← state_perform r s]
    exact ih _

end Session

end SyntheticInput
