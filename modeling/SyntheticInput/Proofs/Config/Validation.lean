import SyntheticInput.Proofs.Config.Culprit

/-!
# Valid configurations, and what the others are refused for

A configuration is valid or it is not, and if it is not, there is one thing to blame: its speed, or
else the first alias that is wrong.

* `Config.Valid`, `Config.Refused`: valid configurations, and what the others are refused for.
* `Config.validate_cases`: a check finds one or the other.
* `Config.validate_ok`: the aliases of a valid configuration have no fault of their own, and their
  lowercase forms differ.
* `Config.ownFault?_eq_none`: an alias without a fault of its own is one word, not that of a
  directive.
* `Config.validity_decided`: a check finds just what the definitions say.
-/

namespace SyntheticInput

/-- A configuration that is valid. -/
structure Config.Valid (c : Config) : Prop where
  finite : c.settings.defaultSpeed.isFinite = true
  positive : 0 < c.settings.defaultSpeed
  /-- Names are single words that start no directive, and no key is zero. -/
  wellFormed : ∀ name id, c.keys[name]? = some id →
    name ≠ "" ∧ (∀ ch ∈ name.toList, Text.isBlank ch = false) ∧
      (∀ d : Directive, Text.sameName d.word name = false) ∧ id ≠ 0
  /-- No two names have the same lowercase form. -/
  distinct : ∀ name ∈ c.keys, ∀ other ∈ c.keys, Text.lower name = Text.lower other → name = other

/-- What a configuration is refused for: its speed, or else its first alias that is wrong. -/
inductive Config.Refused (c : Config) : ConfigFault → Prop
  | speed : ¬ (c.settings.defaultSpeed.isFinite = true ∧ 0 < c.settings.defaultSpeed) →
      c.Refused .speed
  | badAlias (name : String) (fault : AliasFault) :
      c.settings.defaultSpeed.isFinite = true → 0 < c.settings.defaultSpeed →
      c.keys.Culprit name fault → c.Refused (.badAlias name fault)

namespace Config

open AliasMap

variable {σ : Type} {c : Config}

theorem isSpeed_iff {x : Float} : isSpeed x = true ↔ x.isFinite = true ∧ 0 < x := by
  simp [isSpeed]

/-- A configuration is valid if its speed is and nothing is wrong with its aliases. -/
theorem valid_iff :
    c.Valid ↔ isSpeed c.settings.defaultSpeed = true ∧
      ∀ name id, c.keys[name]? = some id → ¬ c.keys.Wrong name id := by
  constructor
  · intro hv
    refine ⟨isSpeed_iff.2 ⟨hv.finite, hv.positive⟩, fun name id hid => ?_⟩
    obtain ⟨hne, hblank, hdir, hzero⟩ := hv.wellFormed name id hid
    rintro (((hword | ⟨ch, hch, hword⟩) | ⟨d, hword⟩ | hword) | ⟨other, hother, hlt, hform⟩)
    · exact hne hword
    · simp [hblank ch hch] at hword
    · simp [hdir d] at hword
    · exact hzero hword
    · obtain rfl := hv.distinct other hother name (mem_iff.2 ⟨id, hid⟩) hform
      exact String.lt_irrefl other hlt
  · rintro ⟨hspeed, hgood⟩
    obtain ⟨hfinite, hpos⟩ := isSpeed_iff.1 hspeed
    refine ⟨hfinite, hpos, fun name id hid => ?_, ?_⟩
    · have hwrong := hgood name id hid
      simp only [Wrong, IllFormed, NotOneWord, IsDirective, not_or, not_exists, not_and,
        Bool.not_eq_true] at hwrong
      obtain ⟨⟨⟨hne, hblank⟩, hdir, hzero⟩, -⟩ := hwrong
      exact ⟨hne, hblank, hdir, hzero⟩
    · intro name hname other hother hform
      obtain ⟨id, hid⟩ := mem_iff.1 hname
      obtain ⟨id', hid'⟩ := mem_iff.1 hother
      -- Of two names with the same form, the greater one repeats the smaller one.
      rcases Std.lt_trichotomy name other with hlt | heq | hgt
      · exact absurd (.inr ⟨name, hname, hlt, hform⟩) (hgood other id' hid')
      · exact heq
      · exact absurd (.inr ⟨other, hother, hgt, hform.symm⟩) (hgood name id hid)

theorem validate_of_speed (h : isSpeed c.settings.defaultSpeed = true) (s : σ) :
    c.validate s = checkAliases [] c.keys.toList s := by
  rw [validate, if_pos h]

theorem validate_of_not_speed (h : ¬ isSpeed c.settings.defaultSpeed = true) (s : σ) :
    c.validate s = ⟨.error .speed, s, []⟩ := by
  rw [validate, if_neg h]
  rfl

/-- What is refused is not valid. -/
theorem Refused.not_valid {fault : ConfigFault} (h : c.Refused fault) : ¬ c.Valid := by
  intro hv
  cases h with
  | speed hspeed => exact hspeed ⟨hv.finite, hv.positive⟩
  | badAlias name fault _ _ hculprit =>
    obtain ⟨id, hid, hcause⟩ := hculprit.cause
    exact (valid_iff.1 hv).2 name id hid hcause.wrong

/-- There is just one thing that a configuration is refused for. -/
theorem Refused.unique {fault fault' : ConfigFault} (h : c.Refused fault) (h' : c.Refused fault') :
    fault = fault' := by
  cases h with
  | speed hspeed =>
    cases h' with
    | speed => rfl
    | badAlias _ _ hfinite hpos => exact absurd ⟨hfinite, hpos⟩ hspeed
  | badAlias name fault hfinite hpos hculprit =>
    cases h' with
    | speed hspeed => exact absurd ⟨hfinite, hpos⟩ hspeed
    | badAlias name' fault' _ _ hculprit' =>
      obtain ⟨rfl, rfl⟩ := hculprit.unique hculprit'
      rfl

/-- A check ends well with a valid configuration, or in what the configuration is refused for. -/
theorem validate_cases (c : Config) (s : σ) :
    (c.validate s).result = .ok () ∧ c.Valid ∨
      ∃ fault, (c.validate s).result = .error fault ∧ c.Refused fault := by
  by_cases hs : isSpeed c.settings.defaultSpeed = true
  · obtain ⟨hcases, -⟩ := checkAliases_decided (checked_nil c.keys) s
    rw [validate_of_speed hs]
    rcases hcases with ⟨hok, hgood⟩ | ⟨name, fault, herror, hculprit⟩
    · exact .inl ⟨hok, valid_iff.2 ⟨hs, hgood⟩⟩
    · obtain ⟨hfinite, hpos⟩ := isSpeed_iff.1 hs
      exact .inr ⟨_, herror, .badAlias name fault hfinite hpos hculprit⟩
  · rw [validate_of_not_speed hs]
    exact .inr ⟨_, rfl, .speed (mt isSpeed_iff.2 hs)⟩

/-- A check that ends well has found the configuration valid. -/
theorem valid_of_validate {s : σ} (h : (c.validate s).result = .ok ()) : c.Valid := by
  rcases validate_cases c s with ⟨-, hv⟩ | ⟨fault, herror, -⟩
  · exact hv
  · rw [h] at herror
    cases herror

theorem state_validate (c : Config) (s : σ) : (c.validate s).state = s := by
  by_cases hs : isSpeed c.settings.defaultSpeed = true
  · rw [validate_of_speed hs]
    exact (checkAliases_decided (checked_nil c.keys) s).2
  · rw [validate_of_not_speed hs]

/-- With a valid speed, a check reports the aliases that it looks at and that have no effect. -/
theorem mem_notes_validate (c : Config) (s : σ) (n : Note) :
    n ∈ (c.validate s).notes ↔
      c.settings.defaultSpeed.isFinite = true ∧ 0 < c.settings.defaultSpeed ∧
        ∃ name, n = .aliasIgnored name ∧ c.keys.Reported name := by
  rw [← and_assoc, ← isSpeed_iff]
  by_cases hs : isSpeed c.settings.defaultSpeed = true
  · rw [validate_of_speed hs, mem_notes_checkAliases (checked_nil c.keys)]
    constructor
    · rintro ⟨a, -, hn⟩
      exact ⟨hs, a.1, hn⟩
    · rintro ⟨-, name, hn, id, hid, hrep⟩
      exact ⟨(name, id), Std.TreeMap.mem_toList_iff_getElem?_eq_some.2 hid, hn, id, hid, hrep⟩
  · rw [validate_of_not_speed hs]
    simp [hs]

/-! ## What a valid configuration guarantees -/

theorem ownFault?_eq_none {name : String} {id : KeyId} (h : ownFault? name id = none) :
    name.toList ≠ [] ∧ (∀ c ∈ name.toList, Text.isBlank c = false) ∧ isDirective name = false := by
  have hwell := ownFault?_eq_none_iff.1 h
  rw [IllFormed, ← notOneWord_iff, ← isDirective_iff, not_or, not_or] at hwell
  obtain ⟨hword, hdir, -⟩ := hwell
  simp only [Bool.or_eq_true, not_or, List.isEmpty_iff, List.any_eq_true, not_exists, not_and,
    Bool.not_eq_true] at hword hdir
  exact ⟨hword.1, hword.2, hdir⟩

/-- The aliases of a valid configuration have no fault of their own, and their lowercase forms
differ. -/
theorem validate_ok {c : Config} {s : σ} (h : (c.validate s).result = .ok ()) :
    (∀ a ∈ c.keys.toList, ownFault? a.1 a.2 = none) ∧
      (c.keys.toList.map (Text.lower ·.1)).Nodup := by
  have hgood := (valid_iff.1 (valid_of_validate h)).2
  have hright : ∀ a ∈ c.keys.toList, ¬ c.keys.Wrong a.1 a.2 := by
    intro a ha
    exact hgood a.1 a.2 (Std.TreeMap.mem_toList_iff_getElem?_eq_some.1 ha)
  constructor
  · intro a ha
    exact ownFault?_eq_none_iff.2 (not_or.1 (hright a ha)).1
  · rw [List.Nodup, List.pairwise_map]
    refine (sorted_toList c.keys).imp_of_mem fun {a b} ha hb hlt hform => ?_
    -- Of two aliases with the same form, the later would repeat the earlier.
    have hmem := mem_iff.2 ⟨a.2, Std.TreeMap.mem_toList_iff_getElem?_eq_some.1 ha⟩
    exact hright b hb (.inr ⟨a.1, hmem, hlt, hform⟩)

/-! ## Checking -/

/-- **Configurations are checked exactly.** A check ends well just where the configuration is valid.
Otherwise it ends in what the configuration is refused for: its speed, or else the first alias that
is wrong, with the first cause. It changes nothing, and all that it reports is which of the aliases
it came to have no effect because their names are built in. -/
theorem validity_decided (c : Config) (s : σ) :
    let o := c.validate s
    (o.result = .ok () ↔ c.Valid) ∧
      (∀ fault, o.result = .error fault ↔ c.Refused fault) ∧
      o.state = s ∧
      ∀ n, n ∈ o.notes ↔ c.settings.defaultSpeed.isFinite = true ∧ 0 < c.settings.defaultSpeed ∧
        ∃ name, n = .aliasIgnored name ∧ c.keys.Reported name := by
  have hcases := validate_cases c s
  refine ⟨⟨valid_of_validate, ?_⟩, fun fault => ⟨?_, ?_⟩, state_validate c s,
    mem_notes_validate c s⟩
  · intro hv
    rcases hcases with ⟨hok, -⟩ | ⟨fault, -, hr⟩
    · exact hok
    · exact absurd hv hr.not_valid
  · intro herror
    rcases hcases with ⟨hok, -⟩ | ⟨fault', herror', hr⟩
    · rw [hok] at herror
      cases herror
    · rw [herror] at herror'
      cases herror'
      exact hr
  · intro hr
    rcases hcases with ⟨-, hv⟩ | ⟨fault', herror', hr'⟩
    · exact absurd hv hr.not_valid
    · rw [herror', hr'.unique hr]

/-- The later of two names is to blame, and a key of zero is looked for before the earlier name. -/
example :
    (({ keys := ((∅ : AliasMap).insert "fire" 0).insert "FIRE" 1 } : Config).validate () :
      Outcome Unit ConfigFault Unit).result = .error (.badAlias "fire" .zeroKey) := rfl

end Config

end SyntheticInput
