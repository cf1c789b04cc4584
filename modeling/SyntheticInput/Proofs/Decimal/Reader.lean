import Mathlib.Data.List.Induction
import SyntheticInput.Decimal.Reader
import SyntheticInput.Proofs.Text.Numeral
import SyntheticInput.Text.Blank

/-!
# The texts that are integers

A reader walks over a text. Here the texts are given by a grammar, and each reader takes exactly the
texts of its grammar, as the number that they stand for.

* `Numeral`: digits and the number they stand for. `Unsigned` allows a plus sign in front of them,
  `Signed` a minus sign, too.
* `readUInt64?_eq_some_iff`, `readInt32?_eq_some_iff`: the integers of either type are read from
  the texts that stand for them, and from no others.
* `readUInt64?_decimal`, `readInt32?_signed`: reading undoes printing, up to the ends of the types.
-/

namespace SyntheticInput.Decimal

open Text (digit digitsBefore digitsValue)

/-! ## Digits -/

/-- One or more decimal digits, and the number that they stand for. -/
inductive Numeral : List Char → Nat → Prop
  | single {d : Nat} (hd : d < 10) : Numeral [digit d] d
  | concat {ds : List Char} {n d : Nat} (h : Numeral ds n) (hd : d < 10) :
      Numeral (ds ++ [digit d]) (10 * n + d)

theorem isDecimalDigit_iff {c : Char} : isDecimalDigit c = true ↔ ∃ d < 10, c = digit d := by
  constructor
  · intro h
    unfold isDecimalDigit Text.isDigitOf at h
    split at h
    · next v hv =>
      have hlt : v < 10 := of_decide_eq_true h
      refine ⟨v, hlt, ?_⟩
      unfold Text.digitValue? at hv
      split at hv
      · next hc =>
        have hle : 48 ≤ c.toNat := hc.1
        obtain rfl : c.toNat - 48 = v := Option.some.inj hv
        rw [digit, if_pos hlt, show 48 + (c.toNat - 48) = c.toNat by omega, Char.ofNat_toNat]
      · -- A letter stands for ten or more.
        split at hv
        · next hc =>
          have hle : 97 ≤ c.toNat := hc.1
          obtain rfl : c.toNat - 87 = v := Option.some.inj hv
          omega
        · split at hv
          · next hc =>
            have hle : 65 ≤ c.toNat := hc.1
            obtain rfl : c.toNat - 55 = v := Option.some.inj hv
            omega
          · cases hv
    · cases h
  · rintro ⟨d, hd, rfl⟩
    exact Text.isDigitOf_digit (by omega) hd

theorem digitsValue_concat {ds : List Char} {d : Nat} (hd : d < 10) :
    digitsValue 10 (ds ++ [digit d]) = 10 * digitsValue 10 ds + d := by
  rw [digitsValue, List.foldl_append, List.foldl_cons, List.foldl_nil,
    Text.digitValue?_digit d (by omega), Option.getD_some, Nat.mul_comm, digitsValue]

theorem Numeral.ne_nil {ds : List Char} {n : Nat} (h : Numeral ds n) : ds ≠ [] := by
  cases h <;> simp

theorem Numeral.digits {ds : List Char} {n : Nat} (h : Numeral ds n) :
    ∀ c ∈ ds, isDecimalDigit c = true := by
  induction h with
  | single hd =>
    rintro c hc
    exact isDecimalDigit_iff.2 ⟨_, hd, List.mem_singleton.1 hc⟩
  | concat h hd ih =>
    intro c hc
    rcases List.mem_append.1 hc with hc | hc
    · exact ih c hc
    · exact isDecimalDigit_iff.2 ⟨_, hd, List.mem_singleton.1 hc⟩

theorem Numeral.value {ds : List Char} {n : Nat} (h : Numeral ds n) : digitsValue 10 ds = n := by
  induction h with
  | @single d hd =>
    rw [← List.nil_append [digit d], digitsValue_concat hd]
    exact Nat.zero_add d
  | concat h hd ih => rw [digitsValue_concat hd, ih]

theorem numeral_of_digits {ds : List Char} (hne : ds ≠ []) (h : ∀ c ∈ ds, isDecimalDigit c = true) :
    Numeral ds (digitsValue 10 ds) := by
  -- From the right, as the value of the digits grows.
  induction ds using List.reverseRecOn with
  | nil => exact absurd rfl hne
  | append_singleton ds c ih =>
    obtain ⟨d, hd, rfl⟩ := isDecimalDigit_iff.1 (h c (by simp))
    rw [digitsValue_concat hd]
    cases ds with
    | nil => exact (Nat.zero_add d).symm ▸ .single hd
    | cons c cs =>
      exact .concat (ih (List.cons_ne_nil c cs) fun x hx => h x (List.mem_append_left _ hx)) hd

/-- Digits are read as the number they stand for. -/
theorem readDigits?_eq_some_iff {cs : List Char} {n : Nat} :
    readDigits? cs = some n ↔ Numeral cs n := by
  unfold readDigits?
  constructor
  · intro h
    split at h
    · next hc =>
      obtain ⟨hne, hall⟩ := Bool.and_eq_true_iff.1 hc
      obtain rfl : digitsValue 10 cs = n := Option.some.inj h
      exact numeral_of_digits (by simpa using hne) (List.all_eq_true.1 hall)
    · cases h
  · intro h
    have hne : cs.isEmpty = false := by simpa using h.ne_nil
    rw [if_pos (by rw [hne, List.all_eq_true.2 h.digits]; rfl), h.value]

/-- A sign is not a digit, so no numeral starts with one. -/
theorem Numeral.head_ne {ds : List Char} {n : Nat} (h : Numeral ds n) {c : Char}
    (hc : isDecimalDigit c = false) (cs : List Char) : ds ≠ c :: cs := by
  rintro rfl
  rw [h.digits c List.mem_cons_self] at hc
  cases hc

/-! ## Integers -/

/-- A numeral behind an optional plus sign. -/
inductive Unsigned : List Char → Nat → Prop
  | plain {ds : List Char} {n : Nat} (h : Numeral ds n) : Unsigned ds n
  | plus {ds : List Char} {n : Nat} (h : Numeral ds n) : Unsigned ('+' :: ds) n

/-- A numeral behind an optional sign. -/
inductive Signed : List Char → Int → Prop
  | plain {ds : List Char} {n : Nat} (h : Numeral ds n) : Signed ds n
  | plus {ds : List Char} {n : Nat} (h : Numeral ds n) : Signed ('+' :: ds) n
  | minus {ds : List Char} {n : Nat} (h : Numeral ds n) : Signed ('-' :: ds) (-n)

theorem not_isBlank_of_isDecimalDigit {c : Char} (h : isDecimalDigit c = true) :
    Text.isBlank c = false := by
  obtain ⟨d, hd, rfl⟩ := isDecimalDigit_iff.1 h
  have hall : ∀ d < 10, Text.isBlank (digit d) = false := by decide
  exact hall d hd

/-- A numeral is a word, with or without a sign. -/
theorem Numeral.letters {ds : List Char} {n : Nat} (h : Numeral ds n) :
    ds ≠ [] ∧ ∀ c ∈ ds, Text.isBlank c = false :=
  ⟨h.ne_nil, fun c hc => not_isBlank_of_isDecimalDigit (h.digits c hc)⟩

theorem Unsigned.letters {cs : List Char} {n : Nat} (h : Unsigned cs n) :
    cs ≠ [] ∧ ∀ c ∈ cs, Text.isBlank c = false := by
  cases h with
  | plain h => exact h.letters
  | plus h => exact ⟨List.cons_ne_nil _ _, List.forall_mem_cons.2 ⟨by decide, h.letters.2⟩⟩

theorem Signed.letters {cs : List Char} {i : Int} (h : Signed cs i) :
    cs ≠ [] ∧ ∀ c ∈ cs, Text.isBlank c = false := by
  cases h with
  | plain h => exact h.letters
  | plus h => exact ⟨List.cons_ne_nil _ _, List.forall_mem_cons.2 ⟨by decide, h.letters.2⟩⟩
  | minus h => exact ⟨List.cons_ne_nil _ _, List.forall_mem_cons.2 ⟨by decide, h.letters.2⟩⟩

theorem readNat?_eq_some_iff {cs : List Char} {n : Nat} : readNat? cs = some n ↔ Unsigned cs n := by
  unfold readNat?
  constructor
  · intro h
    split at h
    · exact .plus (readDigits?_eq_some_iff.1 h)
    · exact .plain (readDigits?_eq_some_iff.1 h)
  · rintro (h | h)
    · split
      · exact absurd rfl (h.head_ne (c := '+') (by decide) _)
      · exact readDigits?_eq_some_iff.2 h
    · exact readDigits?_eq_some_iff.2 h

/-- Where there is no sign, none is split off. -/
theorem splitSign_eq {cs : List Char} (hp : ∀ ds, cs ≠ '+' :: ds) (hm : ∀ ds, cs ≠ '-' :: ds) :
    splitSign cs = (false, cs) := by
  unfold splitSign
  split
  · exact absurd rfl (hm _)
  · exact absurd rfl (hp _)
  · rfl

theorem readInt?_eq (cs : List Char) : readInt? cs =
    (readDigits? (splitSign cs).2).map fun n : Nat =>
      if (splitSign cs).1 then -(n : Int) else n := by
  change Option.map _ (Option.bind (readDigits? (splitSign cs).2) fun n => some (n : Int)) = _
  cases readDigits? (splitSign cs).2 <;> rfl

theorem readInt?_eq_some_iff {cs : List Char} {i : Int} : readInt? cs = some i ↔ Signed cs i := by
  rw [readInt?_eq]
  constructor
  · intro h
    unfold splitSign at h
    split at h
    · obtain ⟨n, hn, rfl⟩ := Option.map_eq_some_iff.1 h
      exact .minus (readDigits?_eq_some_iff.1 hn)
    · obtain ⟨n, hn, rfl⟩ := Option.map_eq_some_iff.1 h
      exact .plus (readDigits?_eq_some_iff.1 hn)
    · obtain ⟨n, hn, rfl⟩ := Option.map_eq_some_iff.1 h
      exact .plain (readDigits?_eq_some_iff.1 hn)
  · rintro (h | h | h)
    · rw [splitSign_eq (h.head_ne (by decide)) (h.head_ne (by decide))]
      exact Option.map_eq_some_iff.2 ⟨_, readDigits?_eq_some_iff.2 h, rfl⟩
    · exact Option.map_eq_some_iff.2 ⟨_, readDigits?_eq_some_iff.2 h, rfl⟩
    · exact Option.map_eq_some_iff.2 ⟨_, readDigits?_eq_some_iff.2 h, rfl⟩

/-- A natural number is read from the texts that stand for it. -/
theorem readUInt64?_eq_some_iff {s : String} {n : UInt64} :
    readUInt64? s = some n ↔ Unsigned s.toList n.toNat := by
  rw [← readNat?_eq_some_iff, readUInt64?]
  constructor
  · intro h
    obtain ⟨m, hm, hn⟩ := Option.bind_eq_some_iff.1 h
    split at hn
    · next hlt =>
      obtain rfl : UInt64.ofNat m = n := Option.some.inj hn
      rw [hm, UInt64.toNat_ofNat_of_lt' hlt]
    · cases hn
  · intro h
    refine Option.bind_eq_some_iff.2 ⟨_, h, ?_⟩
    rw [if_pos n.toNat_lt, UInt64.ofNat_toNat]

/-- An integer is read from the texts that stand for it. -/
theorem readInt32?_eq_some_iff {s : String} {x : Int32} :
    readInt32? s = some x ↔ Signed s.toList x.toInt := by
  rw [← readInt?_eq_some_iff, readInt32?]
  constructor
  · intro h
    obtain ⟨i, hi, hx⟩ := Option.bind_eq_some_iff.1 h
    split at hx
    · next hlt =>
      obtain rfl : Int32.ofInt i = x := Option.some.inj hx
      rw [hi, Int32.toInt_ofInt_of_le hlt.1 hlt.2]
    · cases hx
  · intro h
    refine Option.bind_eq_some_iff.2 ⟨_, h, ?_⟩
    have hle := x.le_toInt
    have hlt := x.toInt_lt
    rw [if_pos ⟨by omega, by omega⟩, Int32.ofInt_toInt]

/-! ## Printed integers -/

theorem numeral_digitsBefore (n : Nat) : Numeral (digitsBefore 10 n []) n := by
  have h := numeral_of_digits (@Text.digitsBefore_ne_nil 10 n [])
    (Text.isDigitOf_of_mem_digitsBefore (by decide) (by decide) (by simp))
  rwa [Text.digitsValue_digitsBefore (by decide) (by decide)] at h

theorem numeral_decimal (n : Nat) : Numeral (Text.decimal n).toList n := by
  rw [Text.decimal, String.toList_ofList]
  exact numeral_digitsBefore n

theorem unsigned_decimal (n : Nat) : Unsigned (Text.decimal n).toList n :=
  .plain (numeral_decimal n)

theorem signed_natCast (n : Nat) : Text.signed n = Text.decimal n := by
  rw [Text.signed, if_neg (by omega), Int.natAbs_natCast]

theorem toList_signed_neg {n : Nat} (hn : n ≠ 0) :
    (Text.signed (-n)).toList = '-' :: (Text.decimal n).toList := by
  rw [Text.signed, if_pos (by omega), Int.natAbs_neg, Int.natAbs_natCast, String.toList_append]
  rfl

/-- An integer is a natural number or the negative of one that is not zero. -/
theorem eq_natCast_or_neg (i : Int) : (∃ n : Nat, i = n) ∨ ∃ n : Nat, n ≠ 0 ∧ i = -n := by
  obtain hi | hi := Int.lt_or_le i 0
  · exact .inr ⟨i.natAbs, by omega, by omega⟩
  · exact .inl ⟨i.natAbs, by omega⟩

theorem signed_signed (i : Int) : Signed (Text.signed i).toList i := by
  obtain ⟨n, rfl⟩ | ⟨n, hn, rfl⟩ := eq_natCast_or_neg i
  · rw [signed_natCast]
    exact .plain (numeral_decimal n)
  · rw [toList_signed_neg hn]
    exact .minus (numeral_decimal n)

/-- Reading undoes printing. -/
theorem readUInt64?_decimal (n : UInt64) : readUInt64? (Text.decimal n.toNat) = some n :=
  readUInt64?_eq_some_iff.2 (unsigned_decimal n.toNat)

/-- Reading undoes printing. -/
theorem readInt32?_signed (x : Int32) : readInt32? (Text.signed x.toInt) = some x :=
  readInt32?_eq_some_iff.2 (signed_signed x.toInt)

end SyntheticInput.Decimal
