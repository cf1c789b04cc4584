import SyntheticInput.Command.Basic

/-!
# What names stand for

* `Button.ofName?_eq_none`, `Modifier.ofName?_eq_none`: buttons and modifiers have built-in names.
* `getElem?_foldl_insert`: the key of an alias whose lowercase form no other alias has.
* `Resolver.find_builtin`: a built-in name stands for its key, whatever the aliases.
* `Resolver.find_of_lower_eq`: a name that is not built in stands for the key of the alias with its
  lowercase form.
* `Resolver.getElem?_ofAliases_iff`, `Resolver.size_ofAliases`: the entries of a resolver are its
  aliases, one each.
-/

namespace SyntheticInput

/-- Among values whose names are all built in, none has a name that is not. -/
theorem find?_sameName_eq_none {α : Type} {all : List α} {label : α → String}
    (hall : ∀ a, KeyId.ofName? (label a) ≠ none) {name : String} (h : KeyId.ofName? name = none) :
    all.find? (fun a => Text.sameName (label a) name) = none := by
  rw [List.find?_eq_none]
  intro a _ hs
  have hk := hall a
  rw [KeyId.ofName?, Text.sameName_iff.1 hs] at hk
  exact hk h

theorem Button.builtin_name (b : Button) : KeyId.ofName? b.name ≠ none := by
  cases b <;> decide

theorem Modifier.builtin_name (m : Modifier) : KeyId.ofName? m.name ≠ none := by
  cases m <;> decide

/-- The names of buttons are built in. -/
theorem Button.ofName?_eq_none {name : String} (h : KeyId.ofName? name = none) :
    Button.ofName? name = none :=
  find?_sameName_eq_none builtin_name h

/-- The names of modifiers are built in. -/
theorem Modifier.ofName?_eq_none {name : String} (h : KeyId.ofName? name = none) :
    Modifier.ofName? name = none :=
  find?_sameName_eq_none builtin_name h

/-! ## Aliases -/

/-- Aliases with other lowercase forms do not change what a form stands for. -/
theorem getElem?_foldl_insert_of_not_mem {as : List (String × KeyId)} {form : String}
    (h : form ∉ as.map (Text.lower ·.1)) (m : AliasMap) :
    (as.foldl (fun m a => m.insert (Text.lower a.1) a.2) m)[form]? = m[form]? := by
  induction as generalizing m with
  | nil => rfl
  | cons a as ih =>
    rw [List.map_cons, List.mem_cons, not_or] at h
    rw [List.foldl_cons, ih h.2, Std.TreeMap.getElem?_insert, if_neg]
    rw [Std.LawfulEqCmp.compare_eq_iff_eq]
    exact Ne.symm h.1

/-- What a form stands for behind some aliases depends on the map in front of them only through
what the form stands for there. -/
theorem getElem?_foldl_insert_congr {m m' : AliasMap} {form : String} (h : m[form]? = m'[form]?)
    (as : List (String × KeyId)) :
    (as.foldl (fun m a => m.insert (Text.lower a.1) a.2) m)[form]? =
      (as.foldl (fun m a => m.insert (Text.lower a.1) a.2) m')[form]? := by
  induction as generalizing m m' with
  | nil => exact h
  | cons a as ih =>
    rw [List.foldl_cons, List.foldl_cons]
    apply ih
    rw [Std.TreeMap.getElem?_insert, Std.TreeMap.getElem?_insert, h]

/-- An alias whose lowercase form no other has stands for its key. -/
theorem getElem?_foldl_insert {as : List (String × KeyId)}
    (hn : (as.map (Text.lower ·.1)).Nodup) {name : String} {id : KeyId} (h : (name, id) ∈ as)
    (m : AliasMap) :
    (as.foldl (fun m a => m.insert (Text.lower a.1) a.2) m)[Text.lower name]? = some id := by
  induction as generalizing m with
  | nil => cases h
  | cons a as ih =>
    rw [List.map_cons, List.nodup_cons] at hn
    rw [List.foldl_cons]
    -- What is inserted first stays, as no later alias has its form.
    rcases List.mem_cons.1 h with rfl | h
    · rw [getElem?_foldl_insert_of_not_mem hn.1, Std.TreeMap.getElem?_insert_self]
    · exact ih hn.2 h _

/-- A built-in name stands for its key, whatever the aliases. -/
theorem Resolver.find_builtin {name : String} {id : KeyId} (h : KeyId.ofName? name = some id)
    (r : Resolver) : r.find name = some (.builtin id) := by
  rw [Resolver.find, h]

namespace Resolver

variable {as : List (String × KeyId)} {name : String} {id : KeyId}

/-- A name that is not built in stands for the key of the alias with its lowercase form. -/
theorem find_of_lower_eq (hn : (as.map (Text.lower ·.1)).Nodup) (h : (name, id) ∈ as) {t : String}
    (ht : KeyId.ofName? t = none) (hl : Text.lower t = Text.lower name) :
    (ofAliases as).find t = some (.byAlias id) := by
  have ha : (ofAliases as).alias? t = some id := by
    rw [alias?, hl]
    exact getElem?_foldl_insert hn h ∅
  rw [find, ht, ha]

/-- A name that is not built in stands for the key of its alias. -/
theorem find_alias (hn : (as.map (Text.lower ·.1)).Nodup) (h : (name, id) ∈ as)
    (hb : KeyId.ofName? name = none) : (ofAliases as).find name = some (.byAlias id) :=
  find_of_lower_eq hn h hb rfl

/-- The entries of a resolver are its aliases, under their lowercase forms. -/
theorem getElem?_ofAliases_iff (hn : (as.map (Text.lower ·.1)).Nodup) {form : String} :
    (ofAliases as).aliases[form]? = some id ↔ ∃ name, (name, id) ∈ as ∧ Text.lower name = form := by
  constructor
  · intro h
    by_cases hf : form ∈ as.map (Text.lower ·.1)
    · obtain ⟨⟨name, key⟩, hm, rfl⟩ := List.mem_map.1 hf
      have hkey : (ofAliases as).aliases[Text.lower name]? = some key :=
        getElem?_foldl_insert hn hm ∅
      obtain rfl : key = id := Option.some.inj (hkey.symm.trans h)
      exact ⟨name, hm, rfl⟩
    · have hnone : (ofAliases as).aliases[form]? = none := by
        rw [ofAliases, getElem?_foldl_insert_of_not_mem hf]
        rfl
      rw [hnone] at h
      cases h
  · rintro ⟨name, hm, rfl⟩
    exact getElem?_foldl_insert hn hm ∅

end Resolver

theorem size_foldl_insert {as : List (String × KeyId)} (hn : (as.map (Text.lower ·.1)).Nodup)
    {m : AliasMap} (hm : ∀ a ∈ as, Text.lower a.1 ∉ m) :
    (as.foldl (fun m a => m.insert (Text.lower a.1) a.2) m).size = m.size + as.length := by
  induction as generalizing m with
  | nil => rfl
  | cons a as ih =>
    rw [List.map_cons, List.nodup_cons] at hn
    have hnext : ∀ b ∈ as, Text.lower b.1 ∉ m.insert (Text.lower a.1) a.2 := by
      intro b hb hmem
      rw [Std.TreeMap.mem_insert, Std.LawfulEqCmp.compare_eq_iff_eq] at hmem
      rcases hmem with heq | hmem
      · exact hn.1 (heq ▸ List.mem_map_of_mem hb)
      · exact hm b (List.mem_cons_of_mem a hb) hmem
    have hfresh : ¬ m.contains (Text.lower a.1) = true :=
      fun hc => hm a List.mem_cons_self (Std.TreeMap.mem_iff_contains.2 hc)
    rw [List.foldl_cons, ih hn.2 hnext, Std.TreeMap.size_insert, if_neg hfresh, List.length_cons]
    omega

/-- A resolver has one entry for each alias. -/
theorem Resolver.size_ofAliases {as : List (String × KeyId)}
    (hn : (as.map (Text.lower ·.1)).Nodup) : (ofAliases as).aliases.size = as.length := by
  rw [ofAliases, size_foldl_insert hn fun a _ => Std.TreeMap.not_mem_emptyc]
  exact Nat.zero_add _

end SyntheticInput
