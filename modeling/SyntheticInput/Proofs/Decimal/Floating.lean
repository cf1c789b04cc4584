import SyntheticInput.Proofs.Decimal.Reader

/-!
# The texts that are floating-point numbers

Digits on at least one side of a point, an exponent and a sign make a number, and so do the words
for infinity and for what is no number, in any case.

* `Exponent`, `Mantissa`, `Bare`, `Floating`: the grammar, from the parts to the whole.
* `span_digits`: where a run of digits ends; `exists_mantissa` and `Mantissa.split` for mantissas.
* `readExponent?_isSome_iff`, `readUnsigned?_isSome_iff`, `readFloat?_isSome_iff`: what is read is
  what the grammar has.
-/

namespace SyntheticInput.Decimal

open Text (foldAscii)

/-! ## The grammar -/

/-- An `e` in either case with a signed numeral, or nothing. -/
inductive Exponent : List Char → Prop
  | none : Exponent []
  | some {e : Char} {cs : List Char} {i : Int} (he : e = 'e' ∨ e = 'E') (h : Signed cs i) :
      Exponent (e :: cs)

/-- Digits on at least one side of an optional point. -/
inductive Mantissa : List Char → Prop
  | whole {ds : List Char} {n : Nat} (h : Numeral ds n) : Mantissa ds
  | point {front back : List Char} (hf : ∀ c ∈ front, isDecimalDigit c = true)
      (hb : ∀ c ∈ back, isDecimalDigit c = true) (hne : front ≠ [] ∨ back ≠ []) :
      Mantissa (front ++ '.' :: back)

/-- A floating-point number without a sign, or one of the words for what is none. -/
inductive Bare : List Char → Prop
  | word {cs : List Char} (h : foldAscii (.ofList cs) ∈ ["inf", "infinity", "nan"]) :
      Bare cs
  | number {m e : List Char} (hm : Mantissa m) (he : Exponent e) : Bare (m ++ e)

/-- The same behind an optional sign. -/
inductive Floating : List Char → Prop
  | plain {cs : List Char} (h : Bare cs) : Floating cs
  | plus {cs : List Char} (h : Bare cs) : Floating ('+' :: cs)
  | minus {cs : List Char} (h : Bare cs) : Floating ('-' :: cs)

/-! ## Reading -/

theorem readExponent?_isSome_iff {cs : List Char} :
    (readExponent? cs).isSome = true ↔ Exponent cs := by
  constructor
  · intro h
    unfold readExponent? at h
    split at h
    · exact .none
    · next c cs =>
      split at h
      · next he =>
        obtain ⟨i, hi⟩ := Option.isSome_iff_exists.1 h
        exact .some he (readInt?_eq_some_iff.1 hi)
      · cases h
  · rintro (_ | ⟨he, h⟩)
    · rfl
    · rw [readExponent?, if_pos he, readInt?_eq_some_iff.2 h]
      rfl

/-- No exponent starts with a digit or a point. -/
theorem Exponent.head {cs : List Char} (h : Exponent cs) :
    ∀ c ∈ cs.head?, isDecimalDigit c = false ∧ c ≠ '.' := by
  rintro c hc
  cases h with
  | none => cases hc
  | some he h =>
    obtain rfl : _ = c := Option.some.inj hc
    rcases he with rfl | rfl <;> decide

/-- The digits at the front of a text and what follows them. -/
theorem span_digits {ds r : List Char} (hd : ∀ c ∈ ds, isDecimalDigit c = true)
    (hr : ∀ c ∈ r.head?, isDecimalDigit c = false) :
    (ds ++ r).takeWhile isDecimalDigit = ds ∧ (ds ++ r).dropWhile isDecimalDigit = r := by
  have hr' : r.takeWhile isDecimalDigit = [] ∧ r.dropWhile isDecimalDigit = r := by
    cases r with
    | nil => exact ⟨rfl, rfl⟩
    | cons c r =>
      have hc := hr c rfl
      exact ⟨List.takeWhile_cons_of_neg (by simp [hc]), List.dropWhile_cons_of_neg (by simp [hc])⟩
  rw [List.takeWhile_append_of_pos hd, List.dropWhile_append_of_pos hd, hr'.1, hr'.2]
  exact ⟨List.append_nil ds, rfl⟩

/-- What follows the digits in front of a point: the digits behind it, and the rest. -/
def behindPoint : List Char → List Char × List Char
  | '.' :: cs => (cs.takeWhile isDecimalDigit, cs.dropWhile isDecimalDigit)
  | cs => ([], cs)

theorem behindPoint_eq {cs : List Char} (h : ∀ c ∈ cs.head?, c ≠ '.') :
    behindPoint cs = ([], cs) := by
  unfold behindPoint
  split
  · exact absurd rfl (h '.' rfl)
  · rfl

/-- A number is read when there is a digit on either side of the point and an exponent, if any,
behind it. -/
theorem readUnsigned?_isSome (negative : Bool) (cs : List Char) :
    (readUnsigned? negative cs).isSome = true ↔
      ¬ (cs.takeWhile isDecimalDigit = [] ∧ (behindPoint (cs.dropWhile isDecimalDigit)).1 = []) ∧
        (readExponent? (behindPoint (cs.dropWhile isDecimalDigit)).2).isSome = true := by
  change (if ((cs.takeWhile isDecimalDigit).isEmpty &&
      (behindPoint (cs.dropWhile isDecimalDigit)).1.isEmpty) = true then none
    else (readExponent? (behindPoint (cs.dropWhile isDecimalDigit)).2).bind fun e =>
      some (ofDecimal negative _ (e - _))).isSome = true ↔ _
  split
  · next h =>
    rw [Bool.and_eq_true, List.isEmpty_iff, List.isEmpty_iff] at h
    exact iff_of_false Bool.false_ne_true fun hne => hne.1 h
  · next h =>
    rw [Bool.and_eq_true, List.isEmpty_iff, List.isEmpty_iff] at h
    rw [Option.isSome_bind, and_iff_right h]
    cases readExponent? (behindPoint (cs.dropWhile isDecimalDigit)).2 <;> rfl

/-- Digits, what stands behind a point and an exponent make up the text. -/
theorem exists_mantissa {cs : List Char}
    (hne : ¬ (cs.takeWhile isDecimalDigit = [] ∧
      (behindPoint (cs.dropWhile isDecimalDigit)).1 = [])) :
    ∃ m, Mantissa m ∧ cs = m ++ (behindPoint (cs.dropWhile isDecimalDigit)).2 := by
  have hdigits (ds : List Char) : ∀ c ∈ ds.takeWhile isDecimalDigit, isDecimalDigit c = true :=
    List.all_eq_true.1 List.all_takeWhile
  have hcs : cs.takeWhile isDecimalDigit ++ cs.dropWhile isDecimalDigit = cs :=
    List.takeWhile_append_dropWhile
  have hfront := hdigits cs
  generalize cs.takeWhile isDecimalDigit = front at hcs hfront hne
  generalize cs.dropWhile isDecimalDigit = rest at hcs hne ⊢
  subst hcs
  by_cases hp : ∃ r, rest = '.' :: r
  · obtain ⟨r, rfl⟩ := hp
    rw [behindPoint] at hne ⊢
    refine ⟨front ++ '.' :: r.takeWhile isDecimalDigit, ?_, ?_⟩
    · exact .point hfront (hdigits r) (not_and_or.1 hne)
    · rw [List.append_assoc, List.cons_append, List.takeWhile_append_dropWhile]
  · have hp' : ∀ c ∈ rest.head?, c ≠ '.' := by
      rintro c hc rfl
      exact hp (List.head?_eq_some_iff.1 hc)
    rw [behindPoint_eq hp'] at hne ⊢
    have hne' : front ≠ [] := fun h => hne ⟨h, rfl⟩
    exact ⟨front, .whole (numeral_of_digits hne' hfront), rfl⟩

/-- A mantissa is split off in front of an exponent. -/
theorem Mantissa.split {m e : List Char} (hm : Mantissa m) (he : Exponent e) :
    ¬ ((m ++ e).takeWhile isDecimalDigit = [] ∧
        (behindPoint ((m ++ e).dropWhile isDecimalDigit)).1 = []) ∧
      (behindPoint ((m ++ e).dropWhile isDecimalDigit)).2 = e := by
  have hdigit : ∀ c ∈ e.head?, isDecimalDigit c = false := fun c hc => (he.head c hc).1
  cases hm with
  | whole h =>
    obtain ⟨hfront, hrest⟩ := span_digits h.digits hdigit
    rw [hfront, hrest, behindPoint_eq fun c hc => (he.head c hc).2]
    exact ⟨fun hnil => h.ne_nil hnil.1, rfl⟩
  | @point front back hf hb hne =>
    have hpoint : ∀ c ∈ ('.' :: (back ++ e)).head?, isDecimalDigit c = false := by
      rintro c ⟨⟩
      decide
    obtain ⟨hfront, hrest⟩ := span_digits hf hpoint
    obtain ⟨hback, hend⟩ := span_digits hb hdigit
    rw [List.append_assoc, List.cons_append, hfront, hrest, behindPoint, hback, hend]
    exact ⟨not_and_or.2 hne, rfl⟩

/-- A number without a sign is read just when it is a mantissa with an exponent. -/
theorem readUnsigned?_isSome_iff {negative : Bool} {cs : List Char} :
    (readUnsigned? negative cs).isSome = true ↔ ∃ m e, Mantissa m ∧ Exponent e ∧ cs = m ++ e := by
  rw [readUnsigned?_isSome]
  constructor
  · rintro ⟨hne, he⟩
    obtain ⟨m, hm, hcs⟩ := exists_mantissa hne
    exact ⟨m, _, hm, readExponent?_isSome_iff.1 he, hcs⟩
  · rintro ⟨m, e, hm, he, rfl⟩
    obtain ⟨hne, hrest⟩ := hm.split he
    exact ⟨hne, by rw [hrest, readExponent?_isSome_iff.2 he]⟩

theorem Mantissa.head_ne {m : List Char} (h : Mantissa m) {c : Char}
    (hc : isDecimalDigit c = false) (hp : c ≠ '.') (cs e : List Char) : m ++ e ≠ c :: cs := by
  cases h with
  | @whole ds n h =>
    obtain ⟨d, ds', rfl⟩ := List.exists_cons_of_ne_nil h.ne_nil
    rintro heq
    exact h.head_ne hc ds' (by rw [(List.cons.inj heq).1])
  | @point front back hf hb hne =>
    rintro heq
    cases front with
    | nil => exact hp (List.cons.inj heq).1.symm
    | cons d ds =>
      have hd := hf d List.mem_cons_self
      rw [(List.cons.inj heq).1, hc] at hd
      cases hd

/-- What has no sign does not start with one. -/
theorem Bare.head_ne {cs : List Char} (h : Bare cs) {c : Char}
    (hc : c = '+' ∨ c = '-') (ds : List Char) : cs ≠ c :: ds := by
  cases h with
  | word h =>
    have hwords : ∀ w ∈ ["inf", "infinity", "nan"],
        w.toList.head? ≠ some '+' ∧ w.toList.head? ≠ some '-' := by decide
    rintro rfl
    have hw := hwords _ h
    rw [foldAscii, String.toList_ofList, String.toList_ofList] at hw
    rcases hc with rfl | rfl
    · exact hw.1 rfl
    · exact hw.2 rfl
  | number hm he =>
    rcases hc with rfl | rfl
    · exact hm.head_ne (by decide) (by decide) ds _
    · exact hm.head_ne (by decide) (by decide) ds _

/-- What is read behind a sign. -/
theorem readFloat?_eq (s : String) : readFloat? s =
    if foldAscii (.ofList (splitSign s.toList).2) = "inf" ∨
        foldAscii (.ofList (splitSign s.toList).2) = "infinity" then
      some (infinity (splitSign s.toList).1)
    else if foldAscii (.ofList (splitSign s.toList).2) = "nan" then some (0 / 0)
    else readUnsigned? (splitSign s.toList).1 (splitSign s.toList).2 :=
  rfl

/-- A floating-point number is read just when it is one. -/
theorem readFloat?_isSome_iff {s : String} : (readFloat? s).isSome = true ↔ Floating s.toList := by
  have hbody : (readFloat? s).isSome = true ↔ Bare (splitSign s.toList).2 := by
    rw [readFloat?_eq]
    obtain ⟨negative, cs⟩ := splitSign s.toList
    dsimp only
    split
    · next h =>
      exact iff_of_true rfl (.word (by rcases h with h | h <;> simp [h]))
    · split
      · next h => exact iff_of_true rfl (.word (by simp [h]))
      · next hinf hnan =>
        rw [readUnsigned?_isSome_iff]
        constructor
        · rintro ⟨m, e, hm, he, heq⟩
          exact heq ▸ .number hm he
        · rintro (h | ⟨hm, he⟩)
          · simp_all
          · exact ⟨_, _, hm, he, rfl⟩
  rw [hbody]
  constructor
  · intro h
    unfold splitSign at h
    split at h
    · next heq => exact heq ▸ .minus h
    · next heq => exact heq ▸ .plus h
    · exact .plain h
  · intro h
    generalize s.toList = cs at h
    cases h with
    | plain h => rwa [splitSign_eq (h.head_ne (.inl rfl)) (h.head_ne (.inr rfl))]
    | plus h => exact h
    | minus h => exact h

end SyntheticInput.Decimal
