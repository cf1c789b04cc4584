import SyntheticInput.Text.Numeral

/-!
# Numerals stand for their numbers

* `digitValue?_digit`: a digit stands for its value.
* `digitsValue_digitsBefore`: the digits of a number in any base up to sixteen stand for it.
* `digitsBefore_ne_nil`, `isDigitOf_of_mem_digitsBefore`: there is at least one of them, and they
  are digits of the base.
-/

namespace SyntheticInput.Text

theorem digitValue?_digit : ∀ n < 16, digitValue? (digit n) = some n := by
  decide

theorem isDigitOf_digit {b n : Nat} (hb : b ≤ 16) (hn : n < b) : isDigitOf b (digit n) = true := by
  rw [isDigitOf, digitValue?_digit n (by omega)]
  exact decide_eq_true hn

variable {b n : Nat} {rest : List Char}

/-- Reading the digits of `n` from the left makes `n`, and reading goes on from there. -/
theorem foldl_digitsBefore (hb : 2 ≤ b) (hb' : b ≤ 16) :
    (digitsBefore b n rest).foldl (fun m c => m * b + (digitValue? c).getD 0) 0 =
      rest.foldl (fun m c => m * b + (digitValue? c).getD 0) n := by
  -- By the recursion of `digitsBefore`, which puts the last digit in front of what follows.
  induction n, rest using digitsBefore.induct b with
  | case1 n rest h =>
    rw [digitsBefore, if_pos h, List.foldl_cons, digitValue?_digit n (by omega)]
    simp
  | case2 n rest h ih =>
    rw [digitsBefore, if_neg h, ih, List.foldl_cons]
    have hlt : n % b < 16 := Nat.lt_of_lt_of_le (Nat.mod_lt n (by omega)) hb'
    rw [digitValue?_digit _ hlt, Option.getD_some, Nat.mul_comm, Nat.div_add_mod]

/-- The digits of a number stand for it. -/
theorem digitsValue_digitsBefore (hb : 2 ≤ b) (hb' : b ≤ 16) :
    digitsValue b (digitsBefore b n []) = n :=
  foldl_digitsBefore hb hb'

theorem digitsBefore_ne_nil : digitsBefore b n rest ≠ [] := by
  induction n, rest using digitsBefore.induct b with
  | case1 n rest h =>
    rw [digitsBefore, if_pos h]
    exact List.cons_ne_nil _ _
  | case2 n rest h ih => rwa [digitsBefore, if_neg h]

/-- All digits of a number are digits of the base. -/
theorem isDigitOf_of_mem_digitsBefore (hb : 2 ≤ b) (hb' : b ≤ 16)
    (hrest : ∀ c ∈ rest, isDigitOf b c = true) :
    ∀ c ∈ digitsBefore b n rest, isDigitOf b c = true := by
  induction n, rest using digitsBefore.induct b with
  | case1 n rest h =>
    rw [digitsBefore, if_pos h]
    exact List.forall_mem_cons.2 ⟨isDigitOf_digit hb' (by omega), hrest⟩
  | case2 n rest h ih =>
    rw [digitsBefore, if_neg h]
    refine ih (List.forall_mem_cons.2 ⟨isDigitOf_digit hb' (Nat.mod_lt n (by omega)), hrest⟩)

end SyntheticInput.Text
