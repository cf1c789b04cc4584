import Mathlib.Data.List.Induction
import SyntheticInput.Proofs.Simulator.Turn
import SyntheticInput.Proofs.Trajectory.Account

/-!
# One cancellation stops at most one move

A cancellation that is asked for between two moves waits for the next of them, and every move,
however it ends, takes the cancellation with it. So between turns the token is set just when a
cancellation was asked for behind the last move.

* `Turn.Pending`: a cancellation was asked for behind the last move of some turns.
* `isSet_apply`: the step; a move clears the token, a cancellation sets it, nothing else changes it.
* `isSet_behind`: the run; behind some turns the token tells whether a cancellation is pending.
* `Simulator.Heeds`: what a move makes of a cancellation, before it and during it.
* `one_cancel_one_move`: all this for sessions of any length, whatever the devices refuse.
-/

namespace SyntheticInput

variable {δ : Type} [Devices δ]

/-! ## Between turns -/

namespace Turn

variable {u : Turn δ} {us : List (Turn δ)}

/-- A cancellation is asked for in some turns, and no move behind it. -/
def Pending {δ : Type} (us : List (Turn δ)) : Prop :=
  ∃ pre post, us = pre ++ .cancel :: post ∧ ∀ u ∈ post, u.move? = none

omit [Devices δ] in
/-- What is pending behind one more turn. -/
theorem pending_concat :
    Pending (us ++ [u]) ↔ u.move? = none ∧ (u = .cancel ∨ Pending us) := by
  constructor
  · rintro ⟨pre, post, heq, hpost⟩
    cases post using List.reverseRecOn with
    | nil =>
      obtain ⟨-, hu⟩ := List.append_inj' heq rfl
      obtain rfl := List.singleton_inj.1 hu
      exact ⟨rfl, .inl rfl⟩
    | append_singleton post v =>
      rw [← List.cons_append, ← List.append_assoc] at heq
      obtain ⟨hus, hu⟩ := List.append_inj' heq rfl
      obtain rfl := List.singleton_inj.1 hu
      refine ⟨hpost u (by simp), .inr ⟨pre, post, hus, fun w hw => hpost w (by simp [hw])⟩⟩
  · rintro ⟨hu, rfl | ⟨pre, post, rfl, hpost⟩⟩
    · exact ⟨us, [], rfl, by simp⟩
    · refine ⟨pre, post ++ [u], by simp, fun w hw => ?_⟩
      rcases List.mem_append.1 hw with hw | hw
      · exact hpost w hw
      · rwa [List.mem_singleton.1 hw]

theorem cancel_send (text : String) (s : Simulator δ) :
    (Simulator.send text s).state.cancel = s.cancel := by
  obtain ⟨xs, -, ha⟩ := Simulator.send_answered text s
  exact ha.kept.2.2.2

theorem cancel_setPosition (target : Point) (s : Simulator δ) :
    (Simulator.setPosition target s).state.cancel = s.cancel := by
  rw [(Simulator.setPosition_eq target s).2]

/-- A turn that asks for no move does not change the token, unless it is a cancellation. -/
theorem cancel_apply (h : u.move? = none) (hc : u ≠ .cancel) (s : Simulator δ) :
    (u.apply s).cancel = s.cancel := by
  cases u with
  | send text => exact cancel_send text s
  | line text =>
    obtain ⟨command, hs⟩ | ⟨target, hs⟩ | hs := apply_line h s
    · rw [hs, cancel_send]
    · rw [hs, cancel_setPosition]
    · rw [hs]
  | move target speed => cases h
  | setPosition target => exact cancel_setPosition target s
  | withSeed seed => rfl
  | cancel => exact absurd rfl hc
  | disturb f => rfl

/-- A move clears the token, however it ends. -/
theorem isSet_moveTo (target : Point) (speed : Option Float) (s : Simulator δ) :
    (Simulator.moveTo target speed s).state.cancel.isSet = false := rfl

/-- **The step.** The token is set behind a turn that is a cancellation, and behind one that asks
for no move if it was set before. -/
theorem isSet_apply (u : Turn δ) (s : Simulator δ) :
    (u.apply s).cancel.isSet = true ↔ u.move? = none ∧ (u = .cancel ∨ s.cancel.isSet = true) := by
  cases hm : u.move? with
  | some asked =>
    rw [apply_of_move? hm, isSet_moveTo]
    simp
  | none =>
    by_cases hc : u = .cancel
    · subst hc
      simp [apply, Simulator.requestCancel, CancelToken.cancel]
    · simp [cancel_apply hm hc, hc]

/-- **The run.** Where the token was clear at first, it is set behind some turns just when a
cancellation is pending. -/
theorem isSet_behind {s : Simulator δ} (h : s.cancel.isSet = false) (us : List (Turn δ)) :
    (behind us s).cancel.isSet = true ↔ Pending us := by
  -- From the last turn backwards: it alone decides, or leaves it to the turns before.
  induction us using List.reverseRecOn with
  | nil =>
    refine ⟨fun hs => absurd hs (by simp [behind, h]), ?_⟩
    rintro ⟨pre, post, heq, -⟩
    simp at heq
  | append_singleton us u ih =>
    rw [pending_concat, ← ih, behind_concat]
    exact isSet_apply u (behind us s)

end Turn

/-! ## During a move -/

namespace Simulator

/-- What a move makes of a cancellation, in terms of the exchanges that it makes. -/
structure Heeds (target : Point) (speed : Option Float) (s : Simulator (Traced δ)) : Prop where
  /-- It leaves the token clear, however it ends. -/
  cleared : (moveTo target speed s).state.cancel.isSet = false
  /-- Asked for before the move, a cancellation swallows all of it. -/
  swallowed : s.cancel.isSet = true → s.query.result.isOk = true →
    (moveTo target speed s).result = .ok ⟨0, 0, true⟩ ∧
      s.devices.since (moveTo target speed s).state.devices = []
  /-- A report tells of a cancellation just when it was asked for before the move, or during the
  move of a step that was not the last. -/
  reported : ∀ report, (moveTo target speed s).result = .ok report →
    ∃ start, s.query.result = .ok start ∧
      let ss := (s.trajectory start target speed).steps.toList
      let xs := s.devices.since (moveTo target speed s).state.devices
      (report.cancelled = true ↔
        s.cancel.isSet = true ∨ ∃ k < ss.length, Stage.SetBefore false ss xs k)

/-- The steps of a move are accounted for by the exchanges that the move adds to the trace. -/
theorem moveTo_accounted {s : Simulator (Traced δ)} {start : Point}
    (h : s.query.result = .ok start) (target : Point) (speed : Option Float) :
    Stage.Accounted s.cancel.isSet (s.trajectory start target speed).steps.toList
      (s.devices.since (moveTo target speed s).state.devices) (moveTo target speed s).result := by
  obtain ⟨hr, hs⟩ := moveTo_of_answered target speed h
  obtain ⟨xs, hp, he⟩ := Stage.emit_emitted (s.trajectory start target speed).steps {} s.stage
  -- The query leaves no trace.
  have hxs : s.devices.since (moveTo target speed s).state.devices = xs := by
    rw [hs]
    exact hp.since_eq
  rw [hr, hxs]
  exact he.accounted

theorem heeds (target : Point) (speed : Option Float) (s : Simulator (Traced δ)) :
    s.Heeds target speed := by
  have hne : ∀ start, (s.trajectory start target speed).steps.toList ≠ [] := by
    intro start
    rw [← List.length_pos_iff, Trajectory.length_steps]
    exact Nat.succ_pos _
  refine ⟨rfl, fun hset hq => ?_, fun report hres => ?_⟩
  · cases hstart : s.query.result with
    | error cause =>
      rw [hstart] at hq
      cases hq
    | ok start =>
      have hacc := moveTo_accounted hstart target speed
      rw [hset] at hacc
      exact hacc.swallowed (hne start)
  · cases hstart : s.query.result with
    | error cause =>
      rw [(moveTo_of_refused target speed hstart).1] at hres
      cases hres
    | ok start =>
      have hacc := moveTo_accounted hstart target speed
      rw [hres] at hacc
      refine ⟨start, rfl, ?_⟩
      rw [hacc.cancelled_iff]
      constructor
      · rintro ⟨k, hlt, hset | hset⟩
        · exact .inl hset
        · exact .inr ⟨k, hlt, .inr hset⟩
      · rintro (hset | ⟨k, hlt, hset⟩)
        · exact ⟨0, List.length_pos_iff.2 (hne start), .inl hset⟩
        · exact ⟨k, hlt, .inr (hset.resolve_left Bool.false_ne_true)⟩

end Simulator

/-! ## Whole sessions -/

/-- Between the turns of a session the token tells whether a cancellation was asked for behind the
last move, and whatever happened before, a turn that asks for a move heeds the cancellation and
takes it away. The devices may be of any type, so any of their calls may be refused, and during any
relative move a cancellation may be asked for. Sessions over recording devices are among these. -/
theorem one_cancel_one_move :
    (∀ (δ : Type) [Devices δ] (s : Simulator δ) (us : List (Turn δ)), s.cancel.isSet = false →
      ((Turn.behind us s).cancel.isSet = true ↔ Turn.Pending us)) ∧
    (∀ (δ : Type) [Devices δ] (s : Simulator (Traced δ)) (u : Turn (Traced δ)) (target : Point)
      (speed : Option Float), u.move? = some (target, speed) →
        u.apply s = (Simulator.moveTo target speed s).state ∧ s.Heeds target speed) ∧
    ∀ (c : Config) (entropy : UInt64) (cursor : Point) (rs : List Session.Request),
      (Session.run rs (Session.start c entropy cursor)).2.1.cancel.isSet = true ↔
        Turn.Pending (rs.map Session.Request.turn) := by
  refine ⟨?_, ?_, ?_⟩
  · intro δ _ s us h
    exact Turn.isSet_behind h us
  · intro δ _ s u target speed hm
    exact ⟨Turn.apply_of_move? hm s, s.heeds target speed⟩
  · intro c entropy cursor rs
    rw [Session.state_run]
    exact Turn.isSet_behind rfl _

/-- Two cancellations before a line that moves stop that move and not the one behind it. -/
theorem one_cancel_one_move_line :
    let s : Simulator (Traced Recorder) := .ofConfig {} 0 { inner := {} }
    let us : List (Turn (Traced Recorder)) := [.cancel, .send "a", .cancel]
    let line : Turn (Traced Recorder) := .line "move 30 40"
    s.cancel.isSet = false ∧ line.move? = some (⟨30, 40⟩, none) ∧
      (Turn.behind us s).cancel.isSet = true ∧
      (Simulator.moveTo ⟨30, 40⟩ none (Turn.behind us s)).result = .ok ⟨0, 0, true⟩ ∧
      (Turn.behind (us ++ [line]) s).cancel.isSet = false := by
  intro s us line
  have hs : s.cancel.isSet = false := rfl
  have hm : line.move? = some (⟨30, 40⟩, none) := by decide
  have hset : (Turn.behind us s).cancel.isSet = true :=
    (one_cancel_one_move.1 _ s us hs).2 ⟨[.cancel, .send "a"], [], rfl, by simp⟩
  obtain ⟨happly, hheeds⟩ := one_cancel_one_move.2.1 _ (Turn.behind us s) line _ _ hm
  refine ⟨hs, hm, hset, (hheeds.swallowed hset rfl).1, ?_⟩
  rw [Turn.behind_concat]
  exact (congrArg (·.cancel.isSet) happly).trans hheeds.cleared

end SyntheticInput
