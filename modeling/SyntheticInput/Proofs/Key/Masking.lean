import SyntheticInput.Proofs.Key.Aliases
import SyntheticInput.Proofs.Text.Lowercase

/-!
# Aliases of built-in names

Built-in names are looked up before aliases and ignore ASCII case, aliases go by their lowercase
form. An alias with a built-in name is therefore out of reach of all names that fold to it, and all
others with its lowercase form hold a Kelvin sign: these it captures.

* `KeyId.ascii_of_ofName?`: built-in names are in ASCII.
* `kelvinSign_mem_of_lower_eq`: a name with the lowercase form of a built-in name is built in as
  well, or it holds a Kelvin sign.
* `Resolver.find_insert`: an alias matters only to names with its lowercase form.
* `Resolver.builtin_alias_inert_iff`: just when an alias of a built-in name changes nothing for a
  name.
-/

namespace SyntheticInput

open Text (kelvinSign)

/-! ## Built-in names -/

theorem ascii_of_mem_keyNames {name : String} {id : KeyId} (h : (name, id) ∈ keyNames) :
    Text.Ascii name.toList := by
  have hall : (keyNames.all fun e => e.1.toList.all fun c => decide (c.toNat < 128)) = true := by
    decide +kernel
  intro c hc
  exact of_decide_eq_true (List.all_eq_true.1 (List.all_eq_true.1 hall _ h) c hc)

theorem mem_of_lookup_eq_some {α β : Type} [BEq α] [LawfulBEq α] {l : List (α × β)} {k : α} {v : β}
    (h : l.lookup k = some v) : (k, v) ∈ l := by
  obtain ⟨as, bs, rfl, -⟩ := List.lookup_eq_some_iff.1 h
  exact List.mem_append_right as List.mem_cons_self

/-- Built-in names are in ASCII. -/
theorem KeyId.ascii_of_ofName? {name : String} (h : KeyId.ofName? name ≠ none) :
    Text.Ascii name.toList := by
  obtain ⟨id, hid⟩ := Option.ne_none_iff_exists'.1 h
  rw [KeyId.ofName?] at hid
  have hmem : (Text.foldAscii name, id) ∈ keyNames := mem_of_lookup_eq_some hid
  exact Text.ascii_foldAscii.1 (ascii_of_mem_keyNames hmem)

theorem KeyId.ofName?_of_kelvinSign {name : String} (h : kelvinSign ∈ name.toList) :
    KeyId.ofName? name = none := by
  cases hn : KeyId.ofName? name with
  | none => rfl
  | some id =>
    have hlt := KeyId.ascii_of_ofName? (Option.ne_none_iff_exists'.2 ⟨id, hn⟩) kelvinSign h
    exact absurd hlt (by decide)

/-- A name with the lowercase form of a built-in name is built in as well, or it holds a Kelvin
sign. -/
theorem kelvinSign_mem_of_lower_eq {a n : String} (ha : KeyId.ofName? a ≠ none)
    (hn : KeyId.ofName? n = none) (h : Text.lower n = Text.lower a) : kelvinSign ∈ n.toList := by
  apply Classical.byContradiction
  intro hk
  have ha' : Text.Ascii a.toList := KeyId.ascii_of_ofName? ha
  have hlower : Text.lower n = Text.foldAscii a := h.trans (Text.lower_of_ascii ha')
  have hfold : Text.Ascii (Text.foldAscii a).toList := Text.ascii_foldAscii.2 ha'
  -- Without a Kelvin sign both folds agree on the name, so it folds to a built-in name.
  have hn' : Text.Ascii n.toList := Text.ascii_of_lower (hlower ▸ hfold) hk
  have hsame : Text.foldAscii n = Text.foldAscii a := (Text.lower_of_ascii hn').symm.trans hlower
  rw [KeyId.ofName?, hsame] at hn
  exact ha hn

namespace Resolver

variable {a n : String}

/-! ## One more alias -/

/-- One more alias, at whatever place, matters only to names with its lowercase form. -/
theorem find_insert (h : Text.lower n ≠ Text.lower a) (as bs : List (String × KeyId))
    (id : KeyId) : (ofAliases (as ++ (a, id) :: bs)).find n = (ofAliases (as ++ bs)).find n := by
  have halias : (ofAliases (as ++ (a, id) :: bs)).alias? n = (ofAliases (as ++ bs)).alias? n := by
    unfold alias? ofAliases
    rw [List.foldl_append, List.foldl_append, List.foldl_cons]
    apply getElem?_foldl_insert_congr
    rw [Std.TreeMap.getElem?_insert, if_neg]
    rw [Std.LawfulEqCmp.compare_eq_iff_eq]
    exact Ne.symm h
  rw [find, find, halias]

theorem resolve_of_find {σ : Type} {r r' : Resolver} (h : r.find n = r'.find n) :
    (r.resolve n : Act σ CommandError KeyId) = r'.resolve n := by
  funext s
  rw [resolve, resolve, h]

/-- An alias of `a`, with whatever key and at whatever place among others, does not change the key
of `n`. -/
def Inert (a n : String) : Prop :=
  ∀ (σ : Type) (s : σ) (as bs : List (String × KeyId)) (id : KeyId),
    ((ofAliases (as ++ (a, id) :: bs)).resolve n s).result =
      ((ofAliases (as ++ bs)).resolve n s).result

/-- A lone alias is the key of a name that has its lowercase form and is not built in. -/
theorem result_resolve_alone {σ : Type} (h : Text.lower n = Text.lower a)
    (hn : KeyId.ofName? n = none) (id : KeyId) (s : σ) :
    ((ofAliases [(a, id)]).resolve n s).result = .ok id := by
  have halias : (ofAliases [(a, id)]).alias? n = some id := by
    rw [alias?, h]
    exact Std.TreeMap.getElem?_insert_self
  have hfind : (ofAliases [(a, id)]).find n = some (.byAlias id) := by
    rw [find, hn, halias]
  rw [resolve, hfind]
  rfl

/-- An alias of a built-in name changes nothing for a name, except for one with a Kelvin sign and the
lowercase form of the alias. -/
theorem builtin_alias_inert_iff (ha : KeyId.ofName? a ≠ none) (n : String) :
    Inert a n ↔ ¬ (kelvinSign ∈ n.toList ∧ Text.lower n = Text.lower a) := by
  constructor
  · rintro h ⟨hk, hl⟩
    have hn : KeyId.ofName? n = none := KeyId.ofName?_of_kelvinSign hk
    -- The key of the alias shows, and it can be any.
    have hkey : ∀ id, ((ofAliases []).resolve n ()).result = .ok id := by
      intro id
      rw [← result_resolve_alone hl hn id ()]
      exact (h Unit () [] [] id).symm
    have h01 : (.ok 0 : Except CommandError KeyId) = .ok 1 := (hkey 0).symm.trans (hkey 1)
    cases h01
  · intro h σ s as bs id
    cases hn : KeyId.ofName? n with
    | some key =>
      have hfind : (ofAliases (as ++ (a, id) :: bs)).find n = (ofAliases (as ++ bs)).find n :=
        (find_builtin hn _).trans (find_builtin hn _).symm
      rw [resolve_of_find hfind]
    | none =>
      have hl : Text.lower n ≠ Text.lower a :=
        fun hl => h ⟨kelvinSign_mem_of_lower_eq ha hn hl, hl⟩
      rw [resolve_of_find (find_insert hl as bs id)]

/-- A Kelvin sign is not captured by an alias with another lowercase form. -/
theorem a_alias_inert_kelvinSign : KeyId.ofName? "a" ≠ none ∧ Inert "a" "\u212A" := by
  have ha : KeyId.ofName? "a" ≠ none := by decide
  exact ⟨ha, (builtin_alias_inert_iff ha _).2 fun h => absurd h.2 (by decide)⟩

/-- The alias of a built-in name that captures the Kelvin sign, which without it stands for its own
number. -/
theorem k_alias_captures_kelvinSign :
    KeyId.ofName? "k" ≠ none ∧
      ((ofAliases []).resolve "\u212A" ()).result = .ok 0x212A ∧
      ((ofAliases [("k", 5)]).resolve "\u212A" ()).result = .ok 5 ∧ ¬ Inert "k" "\u212A" := by
  have hfind : (ofAliases []).find "\u212A" = some (.character 0x212A) := by decide
  have halone : ((ofAliases []).resolve "\u212A" ()).result = .ok 0x212A := by
    rw [resolve, hfind]
    rfl
  have hkey : ((ofAliases [("k", 5)]).resolve "\u212A" ()).result = .ok 5 :=
    result_resolve_alone (by decide) (by decide) 5 ()
  refine ⟨by decide, halone, hkey, fun h => ?_⟩
  have heq := h Unit () [] [] 5
  rw [List.nil_append, List.append_nil, hkey, halone] at heq
  cases heq

end Resolver

end SyntheticInput
