import Mathlib.Data.List.Nodup
import SyntheticInput.Proofs.Config.Validation
import SyntheticInput.Proofs.Dispatcher.Routing
import SyntheticInput.Proofs.Key.Aliases
import SyntheticInput.Proofs.Simulator.Working

/-!
# Aliases from the configuration to the devices

A valid configuration has no two aliases with the same lowercase form, and resolvers go by that form.
So every alias has an entry of its own, and a command reaches its key under any spelling that is not
built in.

* `StandsFor r t id`: with the names of `r`, the name `t` stands for the key `id`: for what it is
  found as, what a command with it acts on and what that sends.
* `standsFor_of_find`: it is enough that the name is found as an alias.
* `valid_aliases_kept`: the aliases of a valid configuration stand for their keys, one entry each.
-/

namespace SyntheticInput

/-- With the names of `r`, the name `t` stands for the key `id`, which is no modifier. -/
structure StandsFor (r : Resolver) (t : String) (id : KeyId) : Prop where
  /-- It is found among the aliases, not among the built-in names and not as a lone character. -/
  found : r.find t = some (.byAlias id)
  resolved : ∀ (σ : Type) (s : σ), (r.resolve t s).result = .ok id
  /-- A command with this name acts on the key, which is no modifier. -/
  aimed : ∀ (σ : Type) (s : σ) (a : Action), ((⟨t, a⟩ : Command).target r s).result = .ok (.key id none)
  /-- A command that begins with this name hands the events of its action to devices that work, and
  changes nothing else. -/
  sent : ∀ (δ : Type) [Devices δ] (good : δ → Prop), Reliable good →
    ∀ (s : Simulator (Traced δ)) (text : String) (ws : List (List Char)),
      s.resolver = r → good s.devices.inner → Text.words text.toList = t.toList :: ws →
        let o := Simulator.send text s
        o.result = .ok () ∧
          delivered (s.devices.since o.state.devices) =
            Dispatcher.keyEvents id (.asked (ws.head?.map .ofList)) ∧
          o.state = { s with dispatcher := ⟨o.state.devices, s.held⟩ }
  /-- On recording devices, these events are all that is recorded. -/
  recorded : ∀ (s : Simulator Recorder) (text : String) (ws : List (List Char)),
    s.resolver = r → s.devices.failingKey = none → Text.words text.toList = t.toList :: ws →
      let o := Simulator.send text s
      let es := Dispatcher.keyEvents id (.asked (ws.head?.map .ofList))
      o.result = .ok () ∧ o.state.held = s.held ∧
        o.state.devices.keyboard = s.devices.keyboard ++ es.filterMap Event.key? ∧
        o.state.devices.mouse = s.devices.mouse ∧ o.state.devices.cursor = s.devices.cursor

namespace Simulator

variable {δ : Type} {s : Simulator δ} {text : String} {id : KeyId} {a : Action}

theorem events_key (h : s.resolver.asks text = .ok (some (.key id none, a))) :
    s.events text = Dispatcher.keyEvents id a := by
  rw [events_of_asks h]
  cases a <;> rfl

theorem heldAfter_key (h : s.resolver.asks text = .ok (some (.key id none, a))) :
    s.heldAfter text = s.held := by
  rw [heldAfter, h]
  rfl

end Simulator

/-- A name that is found as an alias stands for the key of the alias. -/
theorem standsFor_of_find {r : Resolver} {t : String} {id : KeyId}
    (hf : r.find t = some (.byAlias id)) (ht : KeyId.ofName? t = none) : StandsFor r t id := by
  have haim : ∀ a, (⟨t, a⟩ : Command).aim r = .ok (.key id none) := by
    intro a
    rw [Command.aim, hf]
    simp only [Button.ofName?_eq_none ht, Modifier.ofName?_eq_none ht]
    rfl
  have hasks : ∀ {text : String} {ws : List (List Char)}, Text.words text.toList = t.toList :: ws →
      r.asks text = .ok (some (.key id none, .asked (ws.head?.map .ofList))) := by
    intro text ws hw
    rw [Resolver.asks_of_words hw, String.ofList_toList, haim]
    rfl
  constructor
  case found => exact hf
  case resolved =>
    intro σ s
    rw [Resolver.resolve, hf]
    rfl
  case aimed =>
    intro σ s a
    rw [(Command.target_eq ⟨t, a⟩ r s).1, haim]
  case sent =>
    rintro δ _ good hgood s text ws rfl hs hw
    obtain ⟨⟨xs, hp, hok, hevents⟩, hres, hstate⟩ := Simulator.send_reliable hgood.traced hs text
    have ha := hasks hw
    rw [Simulator.events_key ha] at hevents
    rw [Simulator.heldAfter_key ha] at hstate
    refine ⟨?_, ?_, hstate⟩
    · rw [hres, ha]
      rfl
    · rw [hp.since_eq, delivered_eq_map hok, hevents]
  case recorded =>
    rintro s text ws rfl hs hw
    obtain ⟨⟨xs, hp, hok, hevents⟩, hres, hstate⟩ := Simulator.send_reliable Recorder.reliable hs text
    have ha := hasks hw
    rw [Simulator.events_key ha] at hevents
    rw [Simulator.heldAfter_key ha] at hstate
    have hdevices := Recorder.passed_eq hp hs
    have hkeyboard : ∀ e ∈ Dispatcher.keyEvents id (.asked (ws.head?.map .ofList)),
        e.device = .keyboard := fun e he => Dispatcher.device_of_mem_keyEvents he
    rw [hevents, Recorder.foldl_accept, filterMap_mouse?_eq_nil hkeyboard,
      foldl_moveCursor_of_keyboard hkeyboard, List.append_nil] at hdevices
    refine ⟨?_, ?_, ?_, ?_, ?_⟩
    · rw [hres, ha]
      rfl
    · rw [hstate]
      rfl
    · rw [hdevices]
    · rw [hdevices]
    · rw [hdevices]

/-- In a valid configuration every alias stands for its key, under every name with its lowercase form
that is not built in, and has an entry of its own, in whatever order the aliases are taken. -/
theorem valid_aliases_kept {σ : Type} {s : σ} {c : Config} (hv : (c.validate s).result = .ok ()) :
    (∀ (δ : Type) [Devices δ] (entropy : UInt64) (d : δ) (name t : String) (id : KeyId),
      c.keys[name]? = some id → KeyId.ofName? t = none → Text.lower t = Text.lower name →
        StandsFor (Simulator.ofConfig c entropy d).resolver t id) ∧
      (∀ (name name' : String), name ∈ c.keys → name' ∈ c.keys →
        Text.lower name = Text.lower name' → name = name') ∧
      ∀ as : List (String × KeyId), as.Perm c.keys.toList →
        (Resolver.ofAliases as).aliases.size = c.keys.size ∧
          ∀ (form : String) (id : KeyId), (Resolver.ofAliases as).aliases[form]? = some id ↔
            ∃ name, c.keys[name]? = some id ∧ Text.lower name = form := by
  obtain ⟨-, hnodup⟩ := Config.validate_ok hv
  refine ⟨?_, ?_, ?_⟩
  · intro δ _ entropy d name t id hk ht hl
    have hmem : (name, id) ∈ c.keys.toList := Std.TreeMap.mem_toList_iff_getElem?_eq_some.2 hk
    exact standsFor_of_find (Resolver.find_of_lower_eq hnodup hmem ht hl) ht
  · intro name name' hname hname' hl
    obtain ⟨id, hid⟩ := Option.isSome_iff_exists.1 (Std.TreeMap.mem_iff_isSome_getElem?.1 hname)
    obtain ⟨id', hid'⟩ := Option.isSome_iff_exists.1 (Std.TreeMap.mem_iff_isSome_getElem?.1 hname')
    have hm : (name, id) ∈ c.keys.toList := Std.TreeMap.mem_toList_iff_getElem?_eq_some.2 hid
    have hm' : (name', id') ∈ c.keys.toList := Std.TreeMap.mem_toList_iff_getElem?_eq_some.2 hid'
    have heq : (name, id) = (name', id') := List.inj_on_of_nodup_map hnodup hm hm' hl
    exact congrArg Prod.fst heq
  · intro as hp
    have hn : (as.map (Text.lower ·.1)).Nodup := (hp.map _).nodup_iff.2 hnodup
    refine ⟨?_, ?_⟩
    · rw [Resolver.size_ofAliases hn, hp.length_eq, Std.TreeMap.length_toList]
    · intro form id
      rw [Resolver.getElem?_ofAliases_iff hn]
      simp only [hp.mem_iff, Std.TreeMap.mem_toList_iff_getElem?_eq_some]

/-- A configuration with two aliases, one of them with a sigma at the end of its name. -/
def Config.ofFireAndSigma : Config where
  keys := (∅ : AliasMap).insert "Fire" 0x20 |>.insert "σας" 77

/-- Capital sigmas are found, at the end of the name as well as before. -/
theorem valid_aliases_kept_sigma :
    (Config.ofFireAndSigma.validate () : Outcome Unit ConfigFault Unit).result = .ok () ∧
      StandsFor (Simulator.ofConfig .ofFireAndSigma 0 ({} : Recorder)).resolver "ΣΑΣ" 77 ∧
      (Resolver.ofAliases Config.ofFireAndSigma.keys.toList.reverse).aliases.size = 2 := by
  have hv : (Config.ofFireAndSigma.validate () : Outcome Unit ConfigFault Unit).result = .ok () :=
    rfl
  have hl : Text.lower "ΣΑΣ" = Text.lower "σας" := by decide +kernel
  obtain ⟨hstands, -, hentries⟩ := valid_aliases_kept hv
  refine ⟨hv, hstands Recorder 0 {} "σας" "ΣΑΣ" 77 (by decide) (by decide) hl, ?_⟩
  rw [(hentries _ (List.reverse_perm _)).1]
  rfl

end SyntheticInput
