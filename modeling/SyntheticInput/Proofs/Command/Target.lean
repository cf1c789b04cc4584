import SyntheticInput.Proofs.Command.Reading
import SyntheticInput.Proofs.Key.Aliases

/-!
# Which names are those of buttons and modifiers

Buttons and modifiers are told by their own names, keys by the built-in names, the aliases and lone
characters. The names of buttons and modifiers are built in, no two of them are the same, and
built-in names come first, so aliases have no say in what they stand for.

* `find?_sameName_eq_some_iff`: among values with different names, one is found by its own name.
* `Button.ofName?_eq_some_iff`, `Modifier.ofName?_eq_some_iff`: so are buttons and modifiers.
* `KeyId.ofName?_of_sameName`: built-in names ignore ASCII case.
* `Command.aim_button`, `Command.aim_modifier`, `Command.aim_plain`: the target by the name.
* `Command.DecidedByName`, `Command.target_decided`: the target of a command goes by the name of its
  key, and the aliases count for plain keys only.
-/

namespace SyntheticInput

/-! ## Names in another case -/

theorem KeyId.ofName?_of_sameName {a b : String} (h : Text.sameName a b = true) :
    ofName? a = ofName? b := by
  rw [ofName?, ofName?, Text.sameName_iff.1 h]

theorem Text.sameName_congr {a b : String} (h : sameName a b = true) (name : String) :
    sameName name a = sameName name b := by
  rw [sameName, sameName, sameName_iff.1 h]

theorem Button.ofName?_of_sameName {a b : String} (h : Text.sameName a b = true) :
    ofName? a = ofName? b := by
  simp only [ofName?, Text.sameName_congr h]

theorem Modifier.ofName?_of_sameName {a b : String} (h : Text.sameName a b = true) :
    ofName? a = ofName? b := by
  simp only [ofName?, Text.sameName_congr h]

/-! ## Values by their names -/

/-- Among values with different names, one is found by its own name, in any ASCII case. -/
theorem find?_sameName_eq_some_iff {α : Type} {all : List α} {label : α → String}
    (hall : ∀ a, a ∈ all) (hinj : ∀ a b, Text.sameName (label a) (label b) = true → a = b)
    {name : String} {a : α} :
    all.find? (fun a => Text.sameName (label a) name) = some a ↔
      Text.sameName (label a) name = true := by
  constructor
  · intro h
    have hfound := List.find?_some h
    exact hfound
  · intro h
    cases hf : all.find? (fun a => Text.sameName (label a) name) with
    | none => exact absurd h (List.find?_eq_none.1 hf a (hall a))
    | some b =>
      have hfound := List.find?_some hf
      have hsame : Text.sameName (label b) (label a) = true := by
        rw [Text.sameName_congr h]
        exact hfound
      rw [hinj b a hsame]

theorem Button.ofName?_eq_some_iff {name : String} {b : Button} :
    ofName? name = some b ↔ Text.sameName b.name name = true :=
  find?_sameName_eq_some_iff mem_all fun a b h => by
    cases a <;> cases b <;> first | rfl | exact absurd h (by decide)

theorem Modifier.ofName?_eq_some_iff {name : String} {m : Modifier} :
    ofName? name = some m ↔ Text.sameName m.name name = true :=
  find?_sameName_eq_some_iff mem_all fun a b h => by
    cases a <;> cases b <;> first | rfl | exact absurd h (by decide)

/-- No name is that of a button and of a modifier. -/
theorem Button.ofName?_of_modifier {name : String} {m : Modifier}
    (h : Text.sameName m.name name = true) : ofName? name = none := by
  cases hb : ofName? name with
  | none => rfl
  | some b =>
    have hsame : Text.sameName b.name m.name = true := by
      rw [Text.sameName_congr h]
      exact ofName?_eq_some_iff.1 hb
    cases b <;> cases m <;> exact absurd hsame (by decide)

/-! ## Targets -/

namespace Command

variable {c : Command} {r : Resolver}

/-- The name of a button stands for that button, whatever the aliases. -/
theorem aim_button {b : Button} (h : Text.sameName b.name c.key = true) :
    c.aim r = .ok (.mouse b) := by
  obtain ⟨id, hid⟩ : ∃ id, KeyId.ofName? b.name = some id :=
    Option.ne_none_iff_exists'.1 (Button.builtin_name b)
  rw [KeyId.ofName?_of_sameName h] at hid
  rw [aim, Resolver.find_builtin hid, Button.ofName?_eq_some_iff.2 h]

/-- The name of a modifier stands for that modifier, on its built-in key. -/
theorem aim_modifier {m : Modifier} {id : KeyId} (h : Text.sameName m.name c.key = true)
    (hid : KeyId.ofName? m.name = some id) : c.aim r = .ok (.key id (some m)) := by
  rw [KeyId.ofName?_of_sameName h] at hid
  rw [aim, Resolver.find_builtin hid, Button.ofName?_of_modifier h,
    Modifier.ofName?_eq_some_iff.2 h]
  rfl

/-- Aliases and lone characters stand for plain keys. -/
theorem aim_plain {f : Resolver.Finding} (hf : r.find c.key = some f)
    (hb : KeyId.ofName? c.key = none) : c.aim r = .ok (.key f.id none) := by
  rw [aim, hf, Button.ofName?_eq_none hb, Modifier.ofName?_eq_none hb]

theorem ofName?_of_aim_mouse {b : Button} (h : c.aim r = .ok (.mouse b)) :
    Button.ofName? c.key = some b := by
  unfold aim at h
  split at h
  · cases h
  · split at h
    · next b' hb' =>
      cases h
      exact hb'
    · cases h

theorem ofName?_of_aim_key {id : KeyId} {m : Modifier} (h : c.aim r = .ok (.key id (some m))) :
    Modifier.ofName? c.key = some m := by
  unfold aim at h
  split at h
  · cases h
  · split at h
    · cases h
    · cases hm : Modifier.ofName? c.key with
      | none =>
        rw [hm] at h
        cases h
      | some m' =>
        rw [hm] at h
        cases h
        rfl

/-- The name of a key decides whether its target `res` is a button or a modifier, and which. -/
structure DecidedByName (name : String) (r : Resolver) (res : Except CommandError Target) :
    Prop where
  /-- What is classed as a button is one. -/
  not_unknownButton : ∀ n, res ≠ .error (.unknownButton n)
  /-- The names of a button stand for it, and no others do. -/
  mouse_iff : ∀ b, res = .ok (.mouse b) ↔ Text.sameName b.name name = true
  /-- The names of a modifier stand for it, and no others do. -/
  modifier_iff : ∀ m, (∃ id, res = .ok (.key id (some m))) ↔ Text.sameName m.name name = true
  /-- The key of a modifier is the built-in one. -/
  modifier_key : ∀ id m, res = .ok (.key id (some m)) → KeyId.ofName? m.name = some id
  /-- A key that was found among the aliases or by its character is a plain one. -/
  plain : ∀ f, r.find name = some f → (∀ id, f ≠ .builtin id) → res = .ok (.key f.id none)

theorem aim_decided (c : Command) (r : Resolver) : DecidedByName c.key r (c.aim r) where
  not_unknownButton := by
    intro n h
    unfold aim at h
    split at h
    · cases h
    · split at h <;> cases h
  mouse_iff := fun b =>
    ⟨fun h => Button.ofName?_eq_some_iff.1 (ofName?_of_aim_mouse h), aim_button⟩
  modifier_iff := by
    intro m
    constructor
    · rintro ⟨id, h⟩
      exact Modifier.ofName?_eq_some_iff.1 (ofName?_of_aim_key h)
    · intro h
      obtain ⟨id, hid⟩ := Option.ne_none_iff_exists'.1 m.builtin_name
      exact ⟨id, aim_modifier h hid⟩
  modifier_key := by
    intro id m h
    obtain ⟨id', hid⟩ := Option.ne_none_iff_exists'.1 m.builtin_name
    have hm := Modifier.ofName?_eq_some_iff.1 (ofName?_of_aim_key h)
    rw [aim_modifier hm hid] at h
    cases h
    exact hid
  plain := by
    intro f hf hne
    cases hb : KeyId.ofName? c.key with
    | none => exact aim_plain hf hb
    | some id =>
      rw [Resolver.find_builtin hb] at hf
      exact absurd (Option.some.inj hf).symm (hne id)

/-- The target of a command goes by the name of its key: buttons and modifiers have their own names,
with aliases of any kind, and what has the name of a button or a modifier has one target whatever
the aliases are. -/
theorem target_decided {σ : Type} (c : Command) (s : σ) :
    (∀ r, DecidedByName c.key r (c.target r s).result) ∧
      ∀ r r' : Resolver,
        ((∃ b : Button, Text.sameName b.name c.key = true) ∨
          ∃ m : Modifier, Text.sameName m.name c.key = true) →
        (c.target r s).result = (c.target r' s).result := by
  constructor
  · intro r
    rw [(c.target_eq r s).1]
    exact c.aim_decided r
  · intro r r' h
    rw [(c.target_eq r s).1, (c.target_eq r' s).1]
    rcases h with ⟨b, hb⟩ | ⟨m, hm⟩
    · rw [aim_button hb, aim_button hb]
    · obtain ⟨id, hid⟩ := Option.ne_none_iff_exists'.1 m.builtin_name
      rw [aim_modifier hm hid, aim_modifier hm hid]

/-- An alias of a modifier does not redirect it. -/
theorem target_decided_shift :
    Text.sameName Modifier.shift.name "sHIFT" = true ∧
      (target ⟨"sHIFT", .down⟩ (.ofAliases [("shift", 0x41)]) ()).result =
        (target ⟨"sHIFT", .down⟩ (.ofAliases []) ()).result := by
  have hname : Text.sameName Modifier.shift.name "sHIFT" = true := by decide
  exact ⟨hname, (target_decided ⟨"sHIFT", .down⟩ ()).2 _ _ (.inr ⟨.shift, hname⟩)⟩

end Command

end SyntheticInput
