import SyntheticInput.Device.Recorder
import SyntheticInput.Proofs.Command.Target
import SyntheticInput.Proofs.Device.Traced
import SyntheticInput.Proofs.Simulator.Answered
import SyntheticInput.Proofs.Text.Caseless

/-!
# Commands in another case

Actions and aliases are compared by their lowercase form, buttons, modifiers and built-in names by
their folded form, and a lone character by its uppercase form. None of them tells texts apart that
differ in ASCII case only, so such texts are one command, up to the name that an error gives.

* `Resolver.find_of_sameName`: the key of a name.
* `Command.Alike`, `Command.parse_alike`: the commands of such texts have one action and one target.
* `Simulator.send_of_sameName`: such texts do the same.
* `Simulator.case_ignored`: the texts are read alike and do the same.
-/

namespace SyntheticInput

/-! ## Keys -/

theorem KeyId.ofCharacter?_of_sameName {a b : String} (h : Text.sameName a b = true) :
    ofCharacter? a = ofCharacter? b := by
  have hm := Text.map_toLower_of_sameName h
  unfold ofCharacter?
  match ha : a.toList, hb : b.toList with
  | [], [] => rfl
  | [c], [d] =>
    rw [ha, hb] at hm
    have hcd : c.toLower = d.toLower := (List.cons.inj hm).1
    have hupper : Text.upperChar c = Text.upperChar d := by
      rw [← Text.upperChar_toLower, hcd, Text.upperChar_toLower]
    simp only [hupper]
  | _ :: _ :: _, _ :: _ :: _ => rfl
  | [], _ :: _ | _ :: _, [] | [_], _ :: _ :: _ | _ :: _ :: _, [_] =>
    rw [ha, hb] at hm
    simp at hm

/-- Names that differ in ASCII case stand for one key, found in one way. -/
theorem Resolver.find_of_sameName {a b : String} (h : Text.sameName a b = true) (r : Resolver) :
    r.find a = r.find b := by
  unfold find alias?
  rw [KeyId.ofName?_of_sameName h, Text.lower_of_sameName h, KeyId.ofCharacter?_of_sameName h]

/-! ## Commands -/

namespace Command

/-- Both are one target, or both tell of an unknown key. -/
inductive SameTarget : Except CommandError Target → Except CommandError Target → Prop
  | found (t : Target) : SameTarget (.ok t) (.ok t)
  | unknown (m n : String) : SameTarget (.error (.unknownKey m)) (.error (.unknownKey n))

/-- There is no command, or there are two with one action and, whatever the names of keys, with one
target. -/
inductive Alike : Option Command → Option Command → Prop
  | blank : Alike none none
  | command {c d : Command} : c.action = d.action →
      (∀ (σ : Type) (s : σ) (r : Resolver), SameTarget (c.target r s).result (d.target r s).result) →
      Alike (some c) (some d)

theorem aim_of_sameName {c d : Command} (h : Text.sameName c.key d.key = true) (r : Resolver) :
    SameTarget (c.aim r) (d.aim r) := by
  unfold aim
  rw [Resolver.find_of_sameName h, Button.ofName?_of_sameName h, Modifier.ofName?_of_sameName h]
  cases r.find d.key with
  | none => exact .unknown _ _
  | some f =>
    simp only
    split
    · exact .found _
    · exact .found _

/-- The commands of texts that differ in ASCII case: none, or two with one action and with names
that differ in ASCII case. -/
theorem parse_of_sameName {a b : String} (h : Text.sameName a b = true) :
    (parse a = none ∧ parse b = none) ∨
      ∃ c d, parse a = some c ∧ parse b = some d ∧ c.action = d.action ∧
        Text.sameName c.key d.key = true := by
  have hw := Text.map_words_of_sameName h
  unfold parse
  match ha : Text.words a.toList, hb : Text.words b.toList with
  | [], [] => exact .inl ⟨rfl, rfl⟩
  | [], _ :: _ | _ :: _, [] =>
    rw [ha, hb] at hw
    cases hw
  | v :: vs, w :: ws =>
    rw [ha, hb, List.map_cons, List.map_cons] at hw
    obtain ⟨hkey, hrest⟩ := List.cons.inj hw
    refine .inr ⟨_, _, rfl, rfl, ?_, Text.sameName_ofList hkey⟩
    match vs, ws with
    | [], [] => rfl
    | [], _ :: _ | _ :: _, [] => cases hrest
    | v' :: _, w' :: _ =>
      have hlower := Text.lower_of_sameName (Text.sameName_ofList (List.cons.inj hrest).1)
      simp only [List.head?_cons, Option.map_some, Action.asked, hlower]

/-- Texts that differ in ASCII case hold commands that are alike. -/
theorem parse_alike {a b : String} (h : Text.sameName a b = true) : Alike (parse a) (parse b) := by
  rcases parse_of_sameName h with ⟨ha, hb⟩ | ⟨c, d, ha, hb, hact, hkey⟩
  · rw [ha, hb]
    exact .blank
  · rw [ha, hb]
    refine .command hact fun σ s r => ?_
    rw [(c.target_eq r s).1, (d.target_eq r s).1]
    exact aim_of_sameName hkey r

end Command

/-- Texts that differ in ASCII case ask for one thing, or both for an unknown key. -/
theorem Resolver.asks_of_sameName {a b : String} (h : Text.sameName a b = true) (r : Resolver) :
    r.asks a = r.asks b ∨
      ∃ m n, r.asks a = .error (.unknownKey m) ∧ r.asks b = .error (.unknownKey n) := by
  unfold asks
  rcases Command.parse_of_sameName h with ⟨ha, hb⟩ | ⟨c, d, ha, hb, hact, hkey⟩
  · rw [ha, hb]
    exact .inl rfl
  · rw [ha, hb]
    have htarget := Command.aim_of_sameName hkey r
    simp only [hact]
    generalize c.aim r = x at htarget ⊢
    generalize d.aim r = y at htarget ⊢
    cases htarget with
    | found t => exact .inl rfl
    | unknown m n => exact .inr ⟨m, n, rfl, rfl⟩

/-! ## What they do -/

namespace Simulator

variable {δ : Type} [Devices δ]

/-- Both ended in the same way, or both in an unknown key. -/
inductive SameEnd : Except CommandError Unit → Except CommandError Unit → Prop
  | same (res : Except CommandError Unit) : SameEnd res res
  | unknown (m n : String) : SameEnd (.error (.unknownKey m)) (.error (.unknownKey n))

/-- Texts that differ in ASCII case do the same, whatever the devices refuse. -/
theorem send_of_sameName {a b : String} (h : Text.sameName a b = true) (s : Simulator δ) :
    SameEnd (send a s).result (send b s).result ∧ (send a s).state = (send b s).state := by
  obtain ⟨hra, hsa⟩ := send_eq_dispatch a s
  obtain ⟨hrb, hsb⟩ := send_eq_dispatch b s
  rw [hra, hsa, hrb, hsb]
  rcases Resolver.asks_of_sameName h s.resolver with hask | ⟨m, n, ha, hb⟩
  · rw [hask]
    exact ⟨.same _, rfl⟩
  · rw [ha, hb]
    exact ⟨.unknown m n, rfl⟩

/-- **Texts that differ in ASCII case are one command.** They are read alike, so both are blank or
neither is; they have one action and, with any aliases, one target; and on equal simulators with any
devices they end alike and leave equal simulators. Devices that keep a trace have been handed the
same events, and have answered them in the same way. -/
theorem case_ignored {a b : String} (h : Text.sameName a b = true) :
    (∀ (σ ε : Type) (s : σ), ∃ x y,
      (Command.read a s : Outcome σ ε (Option Command)).result = .ok x ∧
        (Command.read b s : Outcome σ ε (Option Command)).result = .ok y ∧ Command.Alike x y) ∧
    (∀ (δ : Type) [Devices δ] (s : Simulator δ),
      SameEnd (send a s).result (send b s).result ∧ (send a s).state = (send b s).state) ∧
    ∀ (δ : Type) [Devices δ] (s : Simulator (Traced δ)),
      s.devices.since (send a s).state.devices = s.devices.since (send b s).state.devices := by
  refine ⟨?_, ?_, ?_⟩
  · intro σ ε s
    exact ⟨_, _, (Command.read_eq a s).1, (Command.read_eq b s).1, Command.parse_alike h⟩
  · intro δ _ s
    exact send_of_sameName h s
  · intro δ _ s
    rw [(send_of_sameName h s).2]

/-- A sigma that ends a word ends it behind a small and behind a capital letter. -/
theorem case_ignored_sigma :
    let s : Simulator Recorder :=
      { Simulator.ofConfig {} 0 {} with resolver := .ofAliases [("Oς", 0x20)] }
    Text.sameName "oΣ down" "OΣ DOWN" = true ∧
      SameEnd (send "oΣ down" s).result (send "OΣ DOWN" s).result ∧
      (send "oΣ down" s).state = (send "OΣ DOWN" s).state := by
  intro s
  have h : Text.sameName "oΣ down" "OΣ DOWN" = true := by decide
  exact ⟨h, (case_ignored h).2.1 Recorder s⟩

end Simulator

end SyntheticInput
