import SyntheticInput.Command.Basic

/-!
# What a text asks for

Reading a text and finding its target change nothing and depend on nothing but the text and the
names of keys, so both are functions of these two.

* `Action.asked`, `Command.parse`: the action of a word, the command of a text.
* `Command.aim`: the target of a command. A name that is classed as a button is that of one, so the
  only error is an unknown key.
* `result_read`, `result_target`: reading and finding the target end in just these.
* `Resolver.asks`: the target and the action that a text asks for.
-/

namespace SyntheticInput

variable {σ ε : Type}

/-- The action that a word asks for: a click unless the word is one of the other two. -/
def Action.asked : Option String → Action
  | none => .click
  | some token =>
    if Text.lower token = "down" then .down
    else if Text.lower token = "up" then .up
    else .click

theorem Action.ofToken_eq (token : Option String) (s : σ) :
    (ofToken token s : Outcome σ ε Action).result = .ok (asked token) ∧
      (ofToken token s : Outcome σ ε Action).state = s := by
  cases token with
  | none => exact ⟨rfl, rfl⟩
  | some token =>
    simp only [ofToken, asked]
    by_cases hd : Text.lower token = "down"
    · rw [if_pos hd, if_pos hd]
      exact ⟨rfl, rfl⟩
    · rw [if_neg hd, if_neg hd]
      by_cases hu : Text.lower token = "up"
      · rw [if_pos hu, if_pos hu]
        exact ⟨rfl, rfl⟩
      · rw [if_neg hu, if_neg hu]
        split
        · exact ⟨rfl, rfl⟩
        · exact ⟨rfl, rfl⟩

theorem Resolver.state_resolve (r : Resolver) (name : String) (s : σ) :
    (r.resolve name s).state = s := by
  unfold resolve
  split
  · rfl
  · rfl

namespace Command

/-- The command in a text, none in a blank one. -/
def parse (text : String) : Option Command :=
  match Text.words text.toList with
  | [] => none
  | w :: ws => some ⟨.ofList w, .asked (ws.head?.map .ofList)⟩

theorem read_eq (text : String) (s : σ) :
    (read text s : Outcome σ ε (Option Command)).result = .ok (parse text) ∧
      (read text s : Outcome σ ε (Option Command)).state = s := by
  unfold read parse
  cases Text.words text.toList with
  | nil => exact ⟨rfl, rfl⟩
  | cons w ws =>
    obtain ⟨hr, hs⟩ := Action.ofToken_eq (ε := ε) (ws.head?.map String.ofList) s
    simp only
    rw [Act.result_bind_of_ok hr, Act.state_bind_of_ok hr, hs]
    exact ⟨rfl, rfl⟩

/-- A text holds no command just when it has no words. -/
theorem read_eq_none_iff (text : String) (s : σ) :
    (read text s : Outcome σ ε (Option Command)).result = .ok none ↔
      Text.words text.toList = [] := by
  rw [(read_eq text s).1, parse]
  cases Text.words text.toList with
  | nil => simp
  | cons w ws => simp

/-- What a command acts on, if the name of its key is known. -/
def aim (c : Command) (r : Resolver) : Except CommandError Target :=
  match r.find c.key with
  | none => .error (.unknownKey c.key)
  | some f =>
    match Button.ofName? c.key with
    | some b => .ok (.mouse b)
    | none => .ok (.key f.id (Modifier.ofName? c.key))

/-- The names that are classed as mouse buttons are those of the buttons. -/
theorem ofName_eq_mouse_iff (name : String) :
    KeyClass.ofName name = .mouse ↔ (Button.ofName? name).isSome := by
  have hn : buttonNames = Button.all.map Button.name := by decide
  rw [KeyClass.ofName, Button.ofName?, hn, List.any_map, List.find?_isSome]
  simp

theorem target_eq (c : Command) (r : Resolver) (s : σ) :
    (c.target r s).result = c.aim r ∧ (c.target r s).state = s := by
  unfold target aim
  cases hf : r.find c.key with
  | none =>
    have hr : (r.resolve c.key s).result = .error (.unknownKey c.key) := by
      rw [Resolver.resolve, hf]
    rw [Act.result_bind_of_error hr, Act.state_bind_of_error hr]
    exact ⟨rfl, Resolver.state_resolve ..⟩
  | some f =>
    have hr : (r.resolve c.key s).result = .ok f.id := by
      rw [Resolver.resolve, hf]
    rw [Act.result_bind_of_ok hr, Act.state_bind_of_ok hr, Resolver.state_resolve]
    have hclass := ofName_eq_mouse_iff c.key
    cases hb : Button.ofName? c.key with
    | some b =>
      rw [hclass.2 (by rw [hb]; rfl)]
      exact ⟨rfl, rfl⟩
    | none =>
      have hk : KeyClass.ofName c.key = .keyboard := by
        cases hc : KeyClass.ofName c.key with
        | keyboard => rfl
        | mouse =>
          have hsome := hclass.1 hc
          rw [hb] at hsome
          cases hsome
      rw [hk]
      exact ⟨rfl, rfl⟩

end Command

/-- The target and the action that a text asks for: neither in a blank text, and an error where the
name of its key is unknown. -/
def Resolver.asks (r : Resolver) (text : String) :
    Except CommandError (Option (Target × Action)) :=
  match Command.parse text with
  | none => .ok none
  | some c => (c.aim r).map fun t => some (t, c.action)

namespace Resolver

variable {r : Resolver} {text : String} {w : List Char} {ws : List (List Char)}

theorem asks_of_blank (h : Text.words text.toList = []) : r.asks text = .ok none := by
  simp only [asks, Command.parse, h]

theorem asks_of_words (h : Text.words text.toList = w :: ws) :
    r.asks text = (Command.aim ⟨.ofList w, .asked (ws.head?.map .ofList)⟩ r).map
      fun t => some (t, .asked (ws.head?.map .ofList)) := by
  simp only [asks, Command.parse, h]

/-- An unknown key is the error that names it. -/
theorem asks_of_find_none (h : Text.words text.toList = w :: ws)
    (hf : r.find (.ofList w) = none) : r.asks text = .error (.unknownKey (.ofList w)) := by
  rw [asks_of_words h, Command.aim, hf]
  rfl

/-- A known key gives a target. -/
theorem asks_of_find_some {f : Finding} (h : Text.words text.toList = w :: ws)
    (hf : r.find (.ofList w) = some f) : ∃ t a, r.asks text = .ok (some (t, a)) := by
  rw [asks_of_words h, Command.aim, hf]
  simp only
  split
  · exact ⟨_, _, rfl⟩
  · exact ⟨_, _, rfl⟩

/-- The only error is an unknown key. -/
theorem unknown_of_asks {e : CommandError} (h : r.asks text = .error e) :
    ∃ name, e = .unknownKey name := by
  cases hw : Text.words text.toList with
  | nil =>
    rw [asks_of_blank hw] at h
    cases h
  | cons w ws =>
    cases hf : r.find (.ofList w) with
    | none =>
      rw [asks_of_find_none hw hf] at h
      cases h
      exact ⟨_, rfl⟩
    | some f =>
      obtain ⟨t, a, ha⟩ := asks_of_find_some hw hf
      rw [ha] at h
      cases h

end Resolver

end SyntheticInput
