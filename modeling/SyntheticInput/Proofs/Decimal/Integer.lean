import SyntheticInput.Proofs.Decimal.Reader

/-!
# The one text of an integer

Among the texts that stand for an integer, one has no plus sign, no zero in front of other digits
and no minus sign before zero. It is the one that is printed.

* `Short`: digits without a zero in front.
* `numeral_and_short_iff`: the short digits that stand for a number are the printed ones.
* `readInteger?`: reads a text of this form, and no other.
* `readInteger?_eq_some_iff`: an integer is read from what is printed for it, and from nothing else.
-/

namespace SyntheticInput.Decimal

open Text (digit digitsBefore decimal signed)

variable {cs ds rest : List Char} {n : Nat} {i : Int}

/-- A zero in front is the only digit. -/
def Short (ds : List Char) : Prop := ds.head? = some '0' → ds = ['0']

instance (ds : List Char) : Decidable (Short ds) := inferInstanceAs (Decidable (_ = _ → _ = _))

/-! ## Digits -/

theorem digitsBefore_append (b n : Nat) (rest cs : List Char) :
    digitsBefore b n (rest ++ cs) = digitsBefore b n rest ++ cs := by
  induction n, rest using Text.digitsBefore.induct b with
  | case1 n rest h => rw [digitsBefore, if_pos h, digitsBefore, if_pos h, List.cons_append]
  | case2 n rest h ih =>
    rw [digitsBefore, if_neg h, ← List.cons_append, ih, digitsBefore.eq_def b n rest, if_neg h]

/-- One more digit stands behind the printed ones. -/
theorem digitsBefore_concat (hn : n ≠ 0) {d : Nat} (hd : d < 10) :
    digitsBefore 10 (10 * n + d) [] = digitsBefore 10 n [] ++ [digit d] := by
  have hdiv : (10 * n + d) / 10 = n := by omega
  have hmod : (10 * n + d) % 10 = d := by omega
  rw [digitsBefore, if_neg (by omega), hdiv, hmod]
  exact digitsBefore_append 10 n [] [digit d]

/-- A number that is not zero is printed without a zero in front. -/
theorem head?_digitsBefore (hn : n ≠ 0) : (digitsBefore 10 n rest).head? ≠ some '0' := by
  induction n, rest using Text.digitsBefore.induct 10 with
  | case1 n rest h =>
    have hall : ∀ d < 10, d ≠ 0 → digit d ≠ '0' := by decide
    rw [digitsBefore, if_pos h, List.head?_cons]
    exact fun h0 => hall n (by omega) hn (Option.some.inj h0)
  | case2 n rest h ih =>
    rw [digitsBefore, if_neg h]
    exact ih (by omega)

theorem digitsBefore_zero : digitsBefore 10 0 [] = ['0'] := by
  rw [digitsBefore, if_pos (by omega)]
  rfl

theorem short_digitsBefore (n : Nat) : Short (digitsBefore 10 n []) := by
  intro h
  by_cases hn : n = 0
  · rw [hn, digitsBefore_zero]
  · exact absurd h (head?_digitsBefore hn)

/-- Short digits are the printed ones of the number that they stand for. -/
theorem Numeral.eq_digitsBefore (h : Numeral ds n) (hs : Short ds) : ds = digitsBefore 10 n [] := by
  -- From the right. What is in front of the last of several digits has no zero in front at all.
  induction h with
  | single hd => rw [digitsBefore, if_pos (by omega)]
  | @concat ds n d h hd ih =>
    have hhead : ds.head? ≠ some '0' := by
      intro h0
      have hone : ds ++ [digit d] = ['0'] := hs (by rw [List.head?_append, h0, Option.some_or])
      obtain ⟨hnil, -⟩ | ⟨-, hdigit⟩ := List.append_eq_singleton_iff.1 hone
      · exact h.ne_nil hnil
      · cases hdigit
    have hds := ih fun h0 => absurd h0 hhead
    have hn : n ≠ 0 := by
      rintro rfl
      rw [hds, digitsBefore_zero] at hhead
      exact hhead rfl
    rw [digitsBefore_concat hn hd, ← hds]

theorem numeral_and_short_iff : Numeral ds n ∧ Short ds ↔ ds = digitsBefore 10 n [] := by
  constructor
  · rintro ⟨h, hs⟩
    exact h.eq_digitsBefore hs
  · rintro rfl
    exact ⟨numeral_digitsBefore n, short_digitsBefore n⟩

/-- A natural number in short digits. -/
def readShort? (cs : List Char) : Option Nat := if Short cs then readDigits? cs else none

theorem readShort?_eq_some_iff : readShort? cs = some n ↔ cs = (decimal n).toList := by
  rw [readShort?, decimal, String.toList_ofList, ← numeral_and_short_iff, ← readDigits?_eq_some_iff]
  by_cases hs : Short cs <;> simp [hs]

/-! ## Integers -/

/-- An integer in short digits, with a minus sign if it is negative. -/
def readInteger? : List Char → Option Int
  | '-' :: ds => (readShort? ds).bind fun n => if n = 0 then none else some (-n)
  | ds => (readShort? ds).map fun n : Nat => (n : Int)

/-- An integer is read from what is printed for it, and from nothing else. -/
theorem readInteger?_eq_some_iff : readInteger? cs = some i ↔ cs = (signed i).toList := by
  constructor
  · intro h
    unfold readInteger? at h
    split at h
    · obtain ⟨n, hn, hi⟩ := Option.bind_eq_some_iff.1 h
      split at hi
      · cases hi
      · next h0 =>
        obtain rfl : -(n : Int) = i := Option.some.inj hi
        rw [toList_signed_neg h0, readShort?_eq_some_iff.1 hn]
    · obtain ⟨n, hn, rfl⟩ := Option.map_eq_some_iff.1 h
      rw [signed_natCast, readShort?_eq_some_iff.1 hn]
  · rintro rfl
    obtain ⟨n, rfl⟩ | ⟨n, hn, rfl⟩ := eq_natCast_or_neg i
    · rw [signed_natCast]
      unfold readInteger?
      split
      · next hcs => exact absurd hcs ((numeral_decimal n).head_ne (by decide) _)
      · exact Option.map_eq_some_iff.2 ⟨n, readShort?_eq_some_iff.2 rfl, rfl⟩
    · rw [toList_signed_neg hn]
      exact Option.bind_eq_some_iff.2 ⟨n, readShort?_eq_some_iff.2 rfl, if_neg hn⟩

end SyntheticInput.Decimal
