import Mathlib.Tactic.SplitIfs
import SyntheticInput.Config.Validation

/-!
# The first alias that is wrong

Aliases are checked in the order of their names, with the lowercase forms of those before at hand.
What the check finds can be said without that list: nothing is wrong with any alias, or there is a
first one that is wrong, and a first cause.

* `AliasMap.IllFormed`, `AliasMap.Repeats`, `AliasMap.Wrong`: what can be wrong with an alias.
* `AliasMap.Cause`: the first cause for which an alias is refused.
* `AliasMap.Culprit`: the first alias that is wrong, and the cause.
* `AliasMap.Reported`: the aliases that a warning is given about.
* `Config.Checked`: the invariant of the loop, what is known of the aliases that have passed.
* `Config.checkAliases_decided`, `Config.mem_notes_checkAliases`: what the loop finds and reports.
-/

namespace SyntheticInput

namespace AliasMap

/-! ## What is wrong with an alias -/

/-- The name is empty or holds a blank. -/
def NotOneWord (name : String) : Prop := name = "" ∨ ∃ c ∈ name.toList, Text.isBlank c = true

/-- The name is the word of a directive, in any ASCII case. -/
def IsDirective (name : String) : Prop := ∃ d : Directive, Text.sameName d.word name = true

/-- Something is wrong with the alias itself. -/
def IllFormed (name : String) (id : KeyId) : Prop := NotOneWord name ∨ IsDirective name ∨ id = 0

/-- The name has the lowercase form of a name before it in the order of code points. -/
def Repeats (m : AliasMap) (name : String) : Prop :=
  ∃ other ∈ m, other < name ∧ Text.lower other = Text.lower name

/-- Something is wrong with the alias, by itself or next to those before it. -/
def Wrong (m : AliasMap) (name : String) (id : KeyId) : Prop := IllFormed name id ∨ m.Repeats name

/-- The first cause for which an alias is refused. -/
inductive Cause (m : AliasMap) (name : String) (id : KeyId) : AliasFault → Prop
  | notOneWord : NotOneWord name → Cause m name id .notOneWord
  | directive : ¬ NotOneWord name → IsDirective name → Cause m name id .directive
  | zeroKey : ¬ NotOneWord name → ¬ IsDirective name → id = 0 → Cause m name id .zeroKey
  | duplicate : ¬ IllFormed name id → m.Repeats name → Cause m name id .duplicate

/-- Nothing is wrong with the aliases before `name`. -/
def GoodBefore (m : AliasMap) (name : String) : Prop :=
  ∀ other id, m[other]? = some id → other < name → ¬ m.Wrong other id

/-- Of the aliases that are wrong, `name` is the first, and `fault` is the cause. -/
structure Culprit (m : AliasMap) (name : String) (fault : AliasFault) : Prop where
  cause : ∃ id, m[name]? = some id ∧ m.Cause name id fault
  first : m.GoodBefore name

/-- The alias is reported as one that has no effect: its name is built in, nothing is wrong with it
alone, and it is looked at, because nothing is wrong with those before it. -/
def Reported (m : AliasMap) (name : String) : Prop :=
  ∃ id, m[name]? = some id ∧ ¬ IllFormed name id ∧ KeyId.ofName? name ≠ none ∧ m.GoodBefore name

variable {m : AliasMap} {name : String} {id : KeyId} {fault : AliasFault}

theorem mem_iff : name ∈ m ↔ ∃ id, m[name]? = some id := by
  rw [Std.TreeMap.mem_iff_isSome_getElem?, Option.isSome_iff_exists]

/-- What is refused for some cause is wrong. -/
theorem Cause.wrong (h : m.Cause name id fault) : m.Wrong name id := by
  cases h with
  | notOneWord hword => exact .inl (.inl hword)
  | directive _ hdir => exact .inl (.inr (.inl hdir))
  | zeroKey _ _ hid => exact .inl (.inr (.inr hid))
  | duplicate _ hrep => exact .inr hrep

/-- There is just one first cause. -/
theorem Cause.unique {fault' : AliasFault} (h : m.Cause name id fault)
    (h' : m.Cause name id fault') : fault = fault' := by
  cases h <;> cases h' <;> simp_all [IllFormed]

/-- There is just one culprit. -/
theorem Culprit.unique {name' : String} {fault' : AliasFault} (h : m.Culprit name fault)
    (h' : m.Culprit name' fault') : name = name' ∧ fault = fault' := by
  obtain ⟨id, hid, hcause⟩ := h.cause
  obtain ⟨id', hid', hcause'⟩ := h'.cause
  rcases Std.lt_trichotomy name name' with hlt | rfl | hgt
  · exact absurd hcause.wrong (h'.first name id hid hlt)
  · obtain rfl : id = id' := Option.some.inj (hid.symm.trans hid')
    exact ⟨rfl, hcause.unique hcause'⟩
  · exact absurd hcause'.wrong (h.first name' id' hid' hgt)

end AliasMap

namespace Config

open AliasMap

/-! ## One alias -/

section OneAlias

variable {m : AliasMap} {seen : List String} {name : String} {id : KeyId} {fault : AliasFault}

theorem notOneWord_iff :
    (name.toList.isEmpty || name.toList.any Text.isBlank) = true ↔ NotOneWord name := by
  simp [NotOneWord]

theorem isDirective_iff : isDirective name = true ↔ IsDirective name := by
  rw [isDirective, List.any_eq_true]
  constructor
  · rintro ⟨d, -, hd⟩
    exact ⟨d, hd⟩
  · rintro ⟨d, hd⟩
    exact ⟨d, by cases d <;> simp [Directive.all], hd⟩

theorem ownFault?_eq_none_iff : ownFault? name id = none ↔ ¬ IllFormed name id := by
  rw [ownFault?, IllFormed, ← notOneWord_iff, ← isDirective_iff]
  split_ifs <;> simp_all

/-- With the lowercase forms of the names before at hand, the first cause is found. -/
theorem aliasFault?_eq_some_iff (hseen : Text.lower name ∈ seen ↔ m.Repeats name) :
    aliasFault? seen name id = some fault ↔ m.Cause name id fault := by
  constructor
  · intro h
    unfold aliasFault? at h
    split at h
    · next own howned =>
      obtain rfl : own = fault := Option.some.inj h
      unfold ownFault? at howned
      split_ifs at howned with hword hdir hid
      all_goals obtain rfl := Option.some.inj howned
      · exact .notOneWord (notOneWord_iff.1 hword)
      · exact .directive (mt notOneWord_iff.2 hword) (isDirective_iff.1 hdir)
      · exact .zeroKey (mt notOneWord_iff.2 hword) (mt isDirective_iff.2 hdir) hid
    · next hown =>
      split_ifs at h with hmem
      obtain rfl := Option.some.inj h
      exact .duplicate (ownFault?_eq_none_iff.1 hown) (hseen.1 (List.contains_iff_mem.1 hmem))
  · intro h
    unfold aliasFault?
    cases h with
    | notOneWord hword => rw [ownFault?, if_pos (notOneWord_iff.2 hword)]
    | directive hword hdir =>
      rw [ownFault?, if_neg (mt notOneWord_iff.1 hword), if_pos (isDirective_iff.2 hdir)]
    | zeroKey hword hdir hid =>
      rw [ownFault?, if_neg (mt notOneWord_iff.1 hword), if_neg (mt isDirective_iff.1 hdir),
        if_pos hid]
    | duplicate hown hrep =>
      rw [ownFault?_eq_none_iff.2 hown]
      exact if_pos (List.contains_iff_mem.2 (hseen.2 hrep))

/-- A fault is found just where something is wrong. -/
theorem aliasFault?_eq_none_iff (hseen : Text.lower name ∈ seen ↔ m.Repeats name) :
    aliasFault? seen name id = none ↔ ¬ m.Wrong name id := by
  rw [aliasFault?, Wrong, not_or, ← ownFault?_eq_none_iff, ← hseen, ← List.contains_iff_mem]
  split <;> simp_all

end OneAlias

/-! ## The loop over all aliases -/

section Loop

variable {σ : Type} {m : AliasMap} {seen : List String} {pre as rest : List (String × KeyId)}
  {name : String} {id : KeyId}

/-- Aliases are listed in the order of their names. -/
theorem sorted_toList (m : AliasMap) : m.toList.Pairwise (fun a b => a.1 < b.1) := by
  have hsorted : m.toList.Pairwise (fun a b => compare a.1 b.1 = .lt) :=
    Std.TreeMap.ordered_keys_toList
  exact hsorted.imp compareOfLessAndEq_eq_lt.1

/-- The aliases in front of one in the list are those with a smaller name. -/
theorem mem_front_iff (h : m.toList = pre ++ (name, id) :: rest) {other : String} {id' : KeyId} :
    (other, id') ∈ pre ↔ m[other]? = some id' ∧ other < name := by
  have hsorted := sorted_toList m
  rw [h, List.pairwise_append, List.pairwise_cons] at hsorted
  obtain ⟨-, ⟨hbehind, -⟩, hfront⟩ := hsorted
  rw [← Std.TreeMap.mem_toList_iff_getElem?_eq_some, h]
  constructor
  · intro hpre
    exact ⟨List.mem_append_left _ hpre, hfront _ hpre _ List.mem_cons_self⟩
  · rintro ⟨hmem, hlt⟩
    rcases List.mem_append.1 hmem with hpre | hmem
    · exact hpre
    · rcases List.mem_cons.1 hmem with heq | hrest
      · rw [(Prod.mk.inj heq).1] at hlt
        exact absurd hlt (String.lt_irrefl name)
      · exact absurd hlt (String.lt_asymm (hbehind _ hrest))

/-- The aliases `pre` have passed, and `seen` holds their lowercase forms; `as` are to be checked. -/
structure Checked (m : AliasMap) (seen : List String) (pre as : List (String × KeyId)) : Prop where
  split : m.toList = pre ++ as
  seen : ∀ form, form ∈ seen ↔ ∃ a ∈ pre, Text.lower a.1 = form
  good : ∀ a ∈ pre, ¬ m.Wrong a.1 a.2

/-- Before the first alias none has passed. -/
theorem checked_nil (m : AliasMap) : Checked m [] [] m.toList where
  split := rfl
  seen := by simp
  good := by simp

/-- For the alias to be checked next, the forms at hand are those of the smaller names. -/
theorem Checked.repeats_iff (h : Checked m seen pre ((name, id) :: rest)) :
    Text.lower name ∈ seen ↔ m.Repeats name := by
  rw [h.seen]
  constructor
  · rintro ⟨⟨other, id'⟩, hpre, hform⟩
    obtain ⟨hother, hlt⟩ := (mem_front_iff h.split).1 hpre
    exact ⟨other, mem_iff.2 ⟨id', hother⟩, hlt, hform⟩
  · rintro ⟨other, hmem, hlt, hform⟩
    obtain ⟨id', hother⟩ := mem_iff.1 hmem
    exact ⟨(other, id'), (mem_front_iff h.split).2 ⟨hother, hlt⟩, hform⟩

theorem Checked.goodBefore (h : Checked m seen pre ((name, id) :: rest)) : m.GoodBefore name := by
  intro other id' hother hlt
  exact h.good _ ((mem_front_iff h.split).2 ⟨hother, hlt⟩)

/-- **The step.** An alias with which nothing is wrong has passed, too. -/
theorem Checked.step (h : Checked m seen pre ((name, id) :: rest)) (hgood : ¬ m.Wrong name id) :
    Checked m (Text.lower name :: seen) (pre ++ [(name, id)]) rest where
  split := by rw [h.split, List.append_assoc]; rfl
  seen := by
    intro form
    rw [List.mem_cons, h.seen]
    simp [or_comm, eq_comm, or_and_right, exists_or]
  good := by
    intro a ha
    rcases List.mem_append.1 ha with hpre | hlast
    · exact h.good a hpre
    · rw [List.mem_singleton.1 hlast]
      exact hgood

theorem Checked.getElem? (h : Checked m seen pre ((name, id) :: rest)) : m[name]? = some id := by
  rw [← Std.TreeMap.mem_toList_iff_getElem?_eq_some, h.split]
  exact List.mem_append_right _ List.mem_cons_self

theorem Checked.lt_of_mem (h : Checked m seen pre ((name, id) :: rest)) {a : String × KeyId}
    (ha : a ∈ rest) : name < a.1 := by
  have hsorted := sorted_toList m
  rw [h.split, List.pairwise_append, List.pairwise_cons] at hsorted
  exact hsorted.2.1.1 a ha

/-- An alias is reported just when nothing is wrong with it alone and its name is built in. -/
theorem mem_aliasNotes {n : Note} : n ∈ aliasNotes name id ↔
    n = .aliasIgnored name ∧ ¬ IllFormed name id ∧ KeyId.ofName? name ≠ none := by
  rw [aliasNotes, ← ownFault?_eq_none_iff]
  split_ifs with h <;> simp_all [Option.isSome_iff_ne_none]

theorem checkAliases_of_fault {fault : AliasFault} (h : aliasFault? seen name id = some fault)
    (s : σ) : checkAliases seen ((name, id) :: rest) s =
      ⟨.error (.badAlias name fault), s, aliasNotes name id⟩ := by
  rw [checkAliases, Act.bind_ok (Act.forM_note _ s), h]
  simp [Act.fail]

theorem checkAliases_of_good (h : aliasFault? seen name id = none) (s : σ) :
    checkAliases seen ((name, id) :: rest) s =
      let o := checkAliases (Text.lower name :: seen) rest s
      ⟨o.result, o.state, aliasNotes name id ++ o.notes⟩ := by
  rw [checkAliases, Act.bind_ok (Act.forM_note _ s), h]

/-- **The run.** Either nothing is wrong with any alias, or the first that is wrong is blamed. -/
theorem checkAliases_decided (h : Checked m seen pre as) (s : σ) :
    let o := checkAliases seen as s
    (o.result = .ok () ∧ (∀ name id, m[name]? = some id → ¬ m.Wrong name id) ∨
        ∃ name fault, o.result = .error (.badAlias name fault) ∧ m.Culprit name fault) ∧
      o.state = s := by
  induction as generalizing seen pre with
  | nil =>
    refine ⟨.inl ⟨rfl, fun name id hk => ?_⟩, rfl⟩
    have hmem := Std.TreeMap.mem_toList_iff_getElem?_eq_some.2 hk
    rw [h.split, List.append_nil] at hmem
    exact h.good _ hmem
  | cons a rest ih =>
    obtain ⟨name, id⟩ := a
    cases hf : aliasFault? seen name id with
    | some fault =>
      rw [checkAliases_of_fault hf]
      have hcause := (aliasFault?_eq_some_iff h.repeats_iff).1 hf
      exact ⟨.inr ⟨name, fault, rfl, ⟨id, h.getElem?, hcause⟩, h.goodBefore⟩, rfl⟩
    | none =>
      rw [checkAliases_of_good hf]
      exact ih (h.step ((aliasFault?_eq_none_iff h.repeats_iff).1 hf))

/-- The run reports the aliases that are looked at and have no effect. -/
theorem mem_notes_checkAliases (h : Checked m seen pre as) (s : σ) (n : Note) :
    n ∈ (checkAliases seen as s).notes ↔
      ∃ a ∈ as, n = .aliasIgnored a.1 ∧ m.Reported a.1 := by
  induction as generalizing seen pre with
  | nil => simp [checkAliases]
  | cons a rest ih =>
    obtain ⟨name, id⟩ := a
    have hhead : n ∈ aliasNotes name id ↔ n = .aliasIgnored name ∧ m.Reported name := by
      rw [mem_aliasNotes, Reported]
      simp [h.getElem?, h.goodBefore]
    cases hf : aliasFault? seen name id with
    | some fault =>
      rw [checkAliases_of_fault hf, hhead]
      have hwrong := ((aliasFault?_eq_some_iff h.repeats_iff).1 hf).wrong
      -- The names behind have a wrong one before them.
      have hbehind : ∀ a ∈ rest, ¬ m.Reported a.1 := by
        rintro a ha ⟨id', -, -, -, hgood⟩
        refine hgood name id h.getElem? (h.lt_of_mem ha) hwrong
      constructor
      · intro hn
        exact ⟨_, List.mem_cons_self, hn⟩
      · rintro ⟨a, ha, hn⟩
        rcases List.mem_cons.1 ha with rfl | ha
        · exact hn
        · exact absurd hn.2 (hbehind a ha)
    | none =>
      have hstep := h.step ((aliasFault?_eq_none_iff h.repeats_iff).1 hf)
      rw [checkAliases_of_good hf]
      simp only [List.mem_append, ih hstep, hhead, List.mem_cons, exists_eq_or_imp]

end Loop

end Config

end SyntheticInput
