import Mathlib.Algebra.Ring.Int.Parity
import Mathlib.Data.Rat.Floor
import Mathlib.Tactic.Linarith
import SyntheticInput.Proofs.Device.Recording
import SyntheticInput.Trajectory.Scalar

/-!
# Exact arithmetic

In fractions a path is computed without error, so all that a step loses is its rounding.

* `NearestEven x z`: `z` is the whole number nearest to `x`, a half going to the even neighbour.
* `exists_roundEven`: fractions are rounded so; `roundEven_intCast`: whole numbers are left alone.
* `smoothstep_zero`, `smoothstep_one`, `axisPosition_eq`: easing leads from zero to one, and a
  coordinate is the eased part of the whole and the deviation.
* `toInt_toInt32`: a whole number of 32 bits is cast to itself.
-/

namespace SyntheticInput

/-- A fraction without what is behind the point. -/
def truncate (x : ℚ) : ℤ := if 0 ≤ x then ⌊x⌋ else ⌈x⌉

/-- Fractions; the cast to 32 bits drops what is behind the point and saturates. -/
instance : Scalar ℚ where
  ofIndex i := i.toNat
  ofOffset i := i
  floor x := ⌊x⌋
  below a b := decide (a < b)
  toInt32 x := .ofInt (max Int32.minValue.toInt (min Int32.maxValue.toInt (truncate x)))

namespace Scalar

/-! ## Rounding -/

/-- `z` is the whole number nearest to `x`; a half goes to the even neighbour. -/
structure NearestEven (x : ℚ) (z : ℤ) : Prop where
  near : |x - z| ≤ 1 / 2
  even : |x - z| = 1 / 2 → Even z

/-- There is just one such number. -/
theorem NearestEven.unique {x : ℚ} {z w : ℤ} (hz : NearestEven x z) (hw : NearestEven x w) :
    z = w := by
  -- Of two neighbours at the same distance only one is even.
  have not_below {z w : ℤ} (hz : NearestEven x z) (hw : NearestEven x w) : ¬ z < w := by
    intro hlt
    have hzw : (z : ℚ) + 1 ≤ w := by exact_mod_cast hlt
    have hxz := (abs_le.1 hz.near).2
    have hxw := (abs_le.1 hw.near).1
    have heq : (w : ℚ) = z + 1 := by linarith
    have hz' : |x - z| = 1 / 2 := by
      rw [show x - z = 1 / 2 by linarith]
      exact abs_of_pos (by norm_num)
    have hw' : |x - w| = 1 / 2 := by
      rw [show x - w = -(1 / 2) by linarith, abs_neg]
      exact abs_of_pos (by norm_num)
    have hsucc : w = z + 1 := by exact_mod_cast heq
    have hodd := hw.even hw'
    rw [hsucc, Int.even_add_one] at hodd
    exact hodd (hz.even hz')
  exact le_antisymm (not_lt.1 (not_below hw hz)) (not_lt.1 (not_below hz hw))

theorem nearestEven_intCast (z : ℤ) : NearestEven z z where
  near := by norm_num
  even := by norm_num

theorem roundEven_eq (x : ℚ) : roundEven x =
    if x - ⌊x⌋ < 1 / 2 then (⌊x⌋ : ℚ)
    else if 1 / 2 < x - ⌊x⌋ then (⌊x⌋ : ℚ) + 1
    else if (⌊(⌊x⌋ : ℚ) / 2⌋ : ℚ) * 2 < ⌊x⌋ then (⌊x⌋ : ℚ) + 1
    else (⌊x⌋ : ℚ) := by
  simp only [roundEven, below, decide_eq_true_eq]
  rfl

/-- Twice the rounded half of a whole number is below it just when it is odd. -/
theorem floor_half_mul_two_lt (z : ℤ) : (⌊(z : ℚ) / 2⌋ : ℚ) * 2 < z ↔ ¬ Even z := by
  have hfloor : ⌊(z : ℚ) / 2⌋ = z / 2 := Rat.floor_intCast_div_natCast z 2
  rw [hfloor, Int.not_even_iff]
  norm_cast
  omega

/-- Fractions are rounded to the nearest whole number, a half going to the even neighbour. -/
theorem exists_roundEven (x : ℚ) : ∃ z : ℤ, roundEven x = z ∧ NearestEven x z := by
  have hlo := Int.floor_le x
  have hhi := Int.lt_floor_add_one x
  rw [roundEven_eq]
  split_ifs with hbelow habove hodd
  · refine ⟨⌊x⌋, rfl, ?_, fun h => ?_⟩
    · exact abs_le.2 ⟨by linarith, by linarith⟩
    · rw [abs_of_nonneg (by linarith)] at h
      exact absurd h (by linarith)
  · refine ⟨⌊x⌋ + 1, by push_cast; rfl, ?_, fun h => ?_⟩
    · push_cast
      exact abs_le.2 ⟨by linarith, by linarith⟩
    · push_cast at h
      rw [abs_of_nonpos (by linarith)] at h
      exact absurd h (by linarith)
  · rw [floor_half_mul_two_lt] at hodd
    refine ⟨⌊x⌋ + 1, by push_cast; rfl, ?_, fun _ => Int.even_add_one.2 hodd⟩
    push_cast
    exact abs_le.2 ⟨by linarith, by linarith⟩
  · rw [floor_half_mul_two_lt, not_not] at hodd
    exact ⟨⌊x⌋, rfl, abs_le.2 ⟨by linarith, by linarith⟩, fun _ => hodd⟩

/-- Whole numbers are left alone. -/
theorem roundEven_intCast (z : ℤ) : roundEven (z : ℚ) = z := by
  obtain ⟨w, hw, hnear⟩ := exists_roundEven (z : ℚ)
  rw [hw, hnear.unique (nearestEven_intCast z)]

/-! ## Positions -/

theorem smoothstep_eq (x : ℚ) : smoothstep x = x * x * (3 - 2 * x) := rfl

theorem smoothstep_zero : smoothstep (0 : ℚ) = 0 := by
  norm_num [smoothstep_eq]

theorem smoothstep_one : smoothstep (1 : ℚ) = 1 := by
  norm_num [smoothstep_eq]

theorem axisPosition_eq (total ease deviation : ℚ) :
    axisPosition total ease deviation = total * ease + deviation := rfl

/-! ## Casts -/

theorem truncate_intCast (z : ℤ) : truncate z = z := by
  rw [truncate, Int.floor_intCast, Int.ceil_intCast, ite_self]

/-- A whole number of 32 bits is cast to itself. -/
theorem toInt_toInt32 {z : ℤ} (h : InRange z) : (toInt32 (z : ℚ)).toInt = z := by
  have hmin : -2147483648 ≤ z := h.1
  have hmax : z ≤ 2147483647 := h.2
  change (Int32.ofInt (max Int32.minValue.toInt
    (min Int32.maxValue.toInt (truncate z)))).toInt = z
  rw [truncate_intCast, min_eq_right h.2, max_eq_right h.1]
  exact Int32.toInt_ofInt_of_le (by omega) (by omega)

end Scalar

end SyntheticInput
