import SyntheticInput.Proofs.Config.Validation
import SyntheticInput.Proofs.Device.Traced
import SyntheticInput.Proofs.Key.Aliases
import SyntheticInput.Proofs.Script.Line
import SyntheticInput.Proofs.Simulator.Answered

/-!
# Aliases in scripts

A valid alias at the start of a script line is a key command, unless it starts with a number sign:
such a line is a comment, and still the alias is valid.

* `LineOf name suffix line`: the line is a name and perhaps one more word, among blanks.
* `Works`: a line does on every simulator of a configuration what its text does as a command, which
  is an action on the key of the alias.
* `alias_works_iff`: just when the aliases of a valid configuration work.
-/

namespace SyntheticInput

/-- `line` is `name`, perhaps with one more word behind it, with blanks around and between them. -/
inductive LineOf (name : String) : Option String → String → Prop
  | alone {pre post : List Char} (hpre : ∀ c ∈ pre, Text.isBlank c = true)
      (hpost : ∀ c ∈ post, Text.isBlank c = true) :
      LineOf name none (.ofList (pre ++ name.toList ++ post))
  | suffixed {pre gap post : List Char} {word : String}
      (hpre : ∀ c ∈ pre, Text.isBlank c = true) (hgap : ∀ c ∈ gap, Text.isBlank c = true)
      (hpost : ∀ c ∈ post, Text.isBlank c = true) (hne : gap ≠ [])
      (hword : word.toList ≠ []) (hletters : ∀ c ∈ word.toList, Text.isBlank c = false) :
      LineOf name (some word) (.ofList (pre ++ name.toList ++ gap ++ word.toList ++ post))

/-- The words of such a line. -/
theorem LineOf.words_eq {name line : String} {suffix : Option String} (h : LineOf name suffix line)
    (hne : name.toList ≠ []) (hn : ∀ c ∈ name.toList, Text.isBlank c = false) :
    Text.words line.toList = name.toList :: suffix.toList.map (·.toList) := by
  cases h with
  | @alone pre post hpre hpost =>
    have hl : Text.LaidOut [name.toList] (pre ++ name.toList ++ post) := .last hpre hpost
    rw [String.toList_ofList]
    exact hl.words_eq (by simp [hne]) (by simpa using hn)
  | @suffixed pre gap post word hpre hgap hpost hgne hword hletters =>
    have hl : Text.LaidOut [name.toList, word.toList]
        (pre ++ name.toList ++ gap ++ ([] ++ word.toList ++ post)) :=
      .cons hpre hgap hgne (.last (by simp) hpost)
    rw [String.toList_ofList, List.append_assoc _ word.toList post]
    exact hl.words_eq (by simp [hne, hword]) (by simpa using ⟨hn, hletters⟩)

namespace Simulator

/-- A command that consists of the name of an alias, and perhaps one more word, asks for an action
on the key of the alias. -/
theorem asks_alias {c : Config} {name line : String} {id : KeyId} {suffix : Option String}
    (hn : (c.keys.toList.map (Text.lower ·.1)).Nodup) (hm : (name, id) ∈ c.keys.toList)
    (hb : KeyId.ofName? name = none)
    (hw : Text.words line.toList = name.toList :: suffix.toList.map (·.toList)) :
    (Resolver.ofAliases c.keys.toList).asks line =
      .ok (some (.key id none, .asked suffix)) := by
  have hsuffix : ((suffix.toList.map (·.toList)).head?.map String.ofList) = suffix := by
    cases suffix <;> simp
  rw [Resolver.asks_of_words hw, hsuffix, String.ofList_toList, Command.aim,
    Resolver.find_alias hn hm hb, Button.ofName?_eq_none hb, Modifier.ofName?_eq_none hb]
  rfl

end Simulator

/-- The line is a key command, and on every simulator with the names of `c` it does what its text
does as a command: it sends the events of the action `suffix` on the key `id`. -/
def Works (c : Config) (id : KeyId) (suffix : Option String) (line : String) : Prop :=
  ∃ command, Instruction.ofLine? line = .ok (some (.key command)) ∧
    ∀ (δ : Type) [Devices δ] (entropy : UInt64) (d : Traced δ) (s : Simulator (Traced δ)),
      s.resolver = (Simulator.ofConfig c entropy d).resolver →
        let o := (Instruction.key command).execute s
        o.result = (Simulator.send line s).result.mapError .command ∧
          o.state = (Simulator.send line s).state ∧
          ∃ r, Sent (Dispatcher.keyEvents id (.asked suffix)) (s.devices.since o.state.devices) r ∧
            o.result = (r.mapError .device).mapError .command

theorem works_of_asks {c : Config} {name line : String} {id : KeyId} {suffix : Option String}
    (hw : Text.words line.toList = name.toList :: suffix.toList.map (·.toList))
    (hc : name.toList.head? ≠ some '#') (hd : Config.isDirective name = false)
    (ha : (Resolver.ofAliases c.keys.toList).asks line =
      .ok (some (.key id none, .asked suffix))) : Works c id suffix line := by
  refine ⟨_, Instruction.ofLine?_key hw hc hd, ?_⟩
  intro δ _ entropy d s hs
  obtain ⟨hres, hst⟩ := Instruction.execute_key (.ofList (Text.trim line.toList)) s
  have hwords : Text.words (String.ofList (Text.trim line.toList)).toList =
      Text.words line.toList := by
    rw [String.toList_ofList, Text.words_trim]
  rw [Simulator.send_congr hwords] at hres hst
  have has : s.resolver.asks line = .ok (some (.key id none, .asked suffix)) := by
    rw [hs]
    exact ha
  obtain ⟨xs, hp, hans⟩ := Simulator.send_answered line s
  refine ⟨hres, hst, ?_⟩
  rw [hst, show s.devices.since (Simulator.send line s).state.devices = xs from hp.since_eq, hres]
  obtain ⟨r, hsent, hr⟩ := hans.sent_of_asks has
  exact ⟨r, hsent, by rw [hr]⟩

/-- The aliases of a valid configuration work just when they do not start with a number sign; if
they do, the line asks for nothing. -/
theorem alias_works_iff {σ : Type} {t : σ} {c : Config} {name line : String} {id : KeyId}
    {suffix : Option String} (hv : (c.validate t).result = .ok ()) (hk : c.keys[name]? = some id)
    (hb : KeyId.ofName? name = none) (hl : LineOf name suffix line) :
    (Works c id suffix line ↔ name.toList.head? ≠ some '#') ∧
      (name.toList.head? = some '#' → Instruction.ofLine? line = .ok none) := by
  obtain ⟨hown, hnodup⟩ := Config.validate_ok hv
  have hmem : (name, id) ∈ c.keys.toList := Std.TreeMap.mem_toList_iff_getElem?_eq_some.2 hk
  obtain ⟨hne, hletters, hdir⟩ := Config.ownFault?_eq_none (hown _ hmem)
  have hw := hl.words_eq hne hletters
  refine ⟨⟨?_, ?_⟩, Instruction.ofLine?_comment hw⟩
  · rintro ⟨command, hkey, -⟩ hc
    rw [Instruction.ofLine?_comment hw hc] at hkey
    cases hkey
  · intro hc
    exact works_of_asks hw hc hdir (Simulator.asks_alias hnodup hmem hb hw)

/-- The configuration with a single alias. -/
def Config.ofAlias (name : String) (id : KeyId) : Config where
  keys := (∅ : AliasMap).insert name id

/-- An alias that works. -/
theorem alias_works_fire :
    ((Config.ofAlias "fire" 0x20).validate () : Outcome Unit ConfigFault Unit).result = .ok () ∧
      LineOf "fire" (some "down") " fire down" ∧
      Works (.ofAlias "fire" 0x20) 0x20 (some "down") " fire down" := by
  have hv : ((Config.ofAlias "fire" 0x20).validate () : Outcome Unit ConfigFault Unit).result =
      .ok () := rfl
  have hblank : ∀ c ∈ [' '], Text.isBlank c = true := List.all_eq_true.1 (by decide)
  have hletters : ∀ c ∈ "down".toList, Text.isBlank c = false :=
    Text.letters_of_any (by decide)
  have hl : LineOf "fire" (some "down") " fire down" :=
    @LineOf.suffixed "fire" [' '] [' '] [] "down" hblank hblank (by simp) (by simp) (by decide)
      hletters
  exact ⟨hv, hl, (alias_works_iff hv (by decide) (by decide) hl).1.2 (by decide)⟩

/-- A valid alias that starts with a number sign does not work: its line is a comment. -/
theorem alias_comment_not_works :
    ((Config.ofAlias "#a" 65).validate () : Outcome Unit ConfigFault Unit).result = .ok () ∧
      (Config.ofAlias "#a" 65).keys["#a"]? = some 65 ∧ KeyId.ofName? "#a" = none ∧
      LineOf "#a" none "#a" ∧ ¬ Works (.ofAlias "#a" 65) 65 none "#a" := by
  have hl : LineOf "#a" none "#a" := @LineOf.alone "#a" [] [] (by simp) (by simp)
  refine ⟨rfl, by decide, by decide, hl, ?_⟩
  rintro ⟨command, hkey, -⟩
  have hw : Text.words "#a".toList = "#a".toList :: [] := by decide
  rw [Instruction.ofLine?_comment hw (by decide)] at hkey
  cases hkey

end SyntheticInput
