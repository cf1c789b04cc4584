import SyntheticInput.Proofs.Trajectory.Landing

/-!
# How far the steps of an axis go

The easing is nowhere steeper than three halves. Over ten intervals or more a path therefore moves
ahead by less than a sixth of its whole offset at a time, and the steps, which stay within one half
of it, fit into 32 bits even where the offset does not. A path between whole numbers has its steps
between them, too.

* `smoothstep_mem`, `abs_smoothstep_sub_le`: easing stays between zero and one, and its slope.
* `axisPath_mem`, `abs_axisPath_sub_le`: so a path stays in its range, and so steep it is.
* `sum_delta_mem`: the sums of the steps stay in the range of the path.
* `inInt32_delta`: the steps fit into 32 bits.
-/

namespace SyntheticInput

open Finset Scalar

/-! ## Easing -/

theorem smoothstep_mem {x : ℚ} (h0 : 0 ≤ x) (h1 : x ≤ 1) :
    0 ≤ smoothstep x ∧ smoothstep x ≤ 1 := by
  rw [smoothstep_eq]
  constructor
  · have hfactor : 0 ≤ 3 - 2 * x := by linarith
    positivity
  · -- What is left to one is the square of `1 - x` and another factor.
    have hrest : 1 - x * x * (3 - 2 * x) = (1 - x) * (1 - x) * (1 + 2 * x) := by ring
    have hnonneg : 0 ≤ (1 - x) * (1 - x) * (1 + 2 * x) :=
      mul_nonneg (mul_self_nonneg _) (by linarith)
    linarith

/-- Easing never goes back, and it is steepest in the middle. -/
theorem abs_smoothstep_sub_le {x y : ℚ} (h0 : 0 ≤ x) (hxy : x ≤ y) (h1 : y ≤ 1) :
    |smoothstep y - smoothstep x| ≤ 3 / 2 * (y - x) := by
  have hdiff : smoothstep y - smoothstep x =
      (x * (3 - 2 * x - y) + y * (3 - 2 * y - x)) * (y - x) := by
    rw [smoothstep_eq, smoothstep_eq]
    ring
  have hsteep : x * (3 - 2 * x - y) + y * (3 - 2 * y - x) =
      3 / 2 - ((x - 1 / 2) ^ 2 + (y - 1 / 2) ^ 2 + (x + y - 1) ^ 2) := by
    ring
  have hup : 0 ≤ x * (3 - 2 * x - y) + y * (3 - 2 * y - x) :=
    add_nonneg (mul_nonneg h0 (by linarith)) (mul_nonneg (h0.trans hxy) (by linarith))
  rw [hdiff, abs_of_nonneg (mul_nonneg hup (sub_nonneg.2 hxy))]
  refine mul_le_mul_of_nonneg_right ?_ (sub_nonneg.2 hxy)
  rw [hsteep]
  have hsquares : 0 ≤ (x - 1 / 2) ^ 2 + (y - 1 / 2) ^ 2 + (x + y - 1) ^ 2 := by positivity
  linarith

/-! ## Paths -/

section Paths

variable {total side : ℤ} {n i : ℕ} {deviation : ℕ → ℚ}

/-- The part of the way in front of a step. -/
theorem part_mem (h : i ≤ n) : 0 ≤ (i : ℚ) / n ∧ (i : ℚ) / n ≤ 1 := by
  have hin : (i : ℚ) ≤ n := by exact_mod_cast h
  exact ⟨by positivity, div_le_one_of_le₀ hin (by positivity)⟩

/-- A path lies between its ends, or to the side by what it may. -/
theorem axisPath_mem (total : ℤ) (hi : i ≤ n) (h0 : 0 ≤ deviation i) (h1 : deviation i ≤ side) :
    ((min 0 total : ℤ) : ℚ) ≤ axisPath total n deviation i ∧
      axisPath total n deviation i ≤ ((max 0 total + side : ℤ) : ℚ) := by
  obtain ⟨hp0, hp1⟩ := part_mem hi
  obtain ⟨he0, he1⟩ := smoothstep_mem hp0 hp1
  rw [axisPath, axisPosition_eq]
  push_cast
  rcases le_total 0 total with ht | ht
  · have ht' : (0 : ℚ) ≤ total := by exact_mod_cast ht
    rw [min_eq_left ht', max_eq_right ht']
    have hle := mul_le_of_le_one_right ht' he1
    exact ⟨add_nonneg (mul_nonneg ht' he0) h0, by linarith⟩
  · have ht' : (total : ℚ) ≤ 0 := by exact_mod_cast ht
    rw [min_eq_right ht', max_eq_left ht']
    have hle := mul_le_mul_of_nonpos_left he1 ht'
    have hnonpos := mul_nonpos_of_nonpos_of_nonneg ht' he0
    exact ⟨by linarith, by linarith⟩

/-- From one step to the next a path goes three halves of an even share of its offset, and to the
side. -/
theorem abs_axisPath_sub_le (total : ℤ) (hn : i + 1 ≤ n)
    (hdev : ∀ j ≤ n, 0 ≤ deviation j ∧ deviation j ≤ side) :
    |axisPath total n deviation (i + 1) - axisPath total n deviation i| ≤
      |(total : ℚ)| * (3 / 2 * (1 / n)) + side := by
  obtain ⟨h0, -⟩ := part_mem (Nat.le_of_succ_le hn)
  obtain ⟨-, h1⟩ := part_mem hn
  have hshare : ((i + 1 : ℕ) : ℚ) / n - i / n = 1 / n := by
    rw [← sub_div]
    push_cast
    ring
  have hle : (i : ℚ) / n ≤ ((i + 1 : ℕ) : ℚ) / n := by
    have hpos : (0 : ℚ) ≤ 1 / n := by positivity
    linarith
  have hease := abs_smoothstep_sub_le h0 hle h1
  rw [hshare] at hease
  have hside : |deviation (i + 1) - deviation i| ≤ side := by
    obtain ⟨ha0, ha1⟩ := hdev i (Nat.le_of_succ_le hn)
    obtain ⟨hb0, hb1⟩ := hdev (i + 1) hn
    exact abs_le.2 ⟨by linarith, by linarith⟩
  calc |axisPath total n deviation (i + 1) - axisPath total n deviation i|
      = |total * (smoothstep (((i + 1 : ℕ) : ℚ) / n) - smoothstep ((i : ℚ) / n)) +
          (deviation (i + 1) - deviation i)| := by
        rw [axisPath, axisPath, axisPosition_eq, axisPosition_eq]
        congr 1
        ring
    _ ≤ |(total : ℚ)| * |smoothstep (((i + 1 : ℕ) : ℚ) / n) - smoothstep ((i : ℚ) / n)| +
          |deviation (i + 1) - deviation i| := by
        rw [← abs_mul]
        exact abs_add_le _ _
    _ ≤ |(total : ℚ)| * (3 / 2 * (1 / n)) + side :=
        add_le_add (mul_le_mul_of_nonneg_left hease (abs_nonneg _)) hside

end Paths

/-! ## Steps -/

section Steps

variable {p : ℕ → ℚ} {lo hi : ℤ} {i : ℕ}

/-- A whole number next to something between whole numbers is between them. -/
theorem int_mem_of_near {z : ℤ} {x : ℚ} (hnear : |(z : ℚ) - x| ≤ 1 / 2) (hlo : lo ≤ x)
    (hhi : x ≤ hi) : lo ≤ z ∧ z ≤ hi := by
  obtain ⟨hbelow, habove⟩ := abs_le.1 hnear
  have hlt : ((lo - 1 : ℤ) : ℚ) < z := by
    push_cast
    linarith
  have hgt : (z : ℚ) < ((hi + 1 : ℤ) : ℚ) := by
    push_cast
    linarith
  have hlt' : lo - 1 < z := by exact_mod_cast hlt
  have hgt' : z < hi + 1 := by exact_mod_cast hgt
  omega

/-- Where the path is between whole numbers, the sum of the steps is. -/
theorem sum_delta_mem (hlo : lo ≤ p i) (hhi : p i ≤ hi) :
    (lo : ℚ) ≤ ∑ j ∈ range (i + 1), delta p j ∧ ∑ j ∈ range (i + 1), delta p j ≤ hi := by
  obtain ⟨z, hz⟩ := exists_walked p (i + 1)
  have hnear := abs_sum_delta_sub_le p i
  rw [← walked_eq_sum, hz] at hnear ⊢
  obtain ⟨hl, hh⟩ := int_mem_of_near hnear hlo hhi
  exact ⟨by exact_mod_cast hl, by exact_mod_cast hh⟩

/-- So is the sum of any number of steps between whole numbers, if the path is there all the way. -/
theorem sum_mem_of_delta {f : ℕ → ℤ} {n k : ℕ} (hf : ∀ i ≤ n, (f i : ℚ) = delta p i)
    (hp : ∀ i ≤ n, (lo : ℚ) ≤ p i ∧ p i ≤ hi) (hlo : lo ≤ 0) (hhi : 0 ≤ hi) (hk : k ≤ n + 1) :
    lo ≤ ∑ i ∈ range k, f i ∧ ∑ i ∈ range k, f i ≤ hi := by
  cases k with
  | zero => simpa using ⟨hlo, hhi⟩
  | succ k =>
    have hkn : k ≤ n := Nat.le_of_succ_le_succ hk
    obtain ⟨hl, hh⟩ := sum_delta_mem (hp k hkn).1 (hp k hkn).2
    have hsum : ∑ j ∈ range (k + 1), delta p j = ((∑ j ∈ range (k + 1), f j : ℤ) : ℚ) := by
      rw [Int.cast_sum]
      exact sum_congr rfl fun i hi => (hf i (by have := mem_range.1 hi; omega)).symm
    rw [hsum] at hl hh
    exact ⟨by exact_mod_cast hl, by exact_mod_cast hh⟩

/-- A step makes up for the way of the path, for what the step before left open, and for what it
leaves open itself. -/
theorem abs_delta_succ_le (p : ℕ → ℚ) (i : ℕ) : |delta p (i + 1)| ≤ |p (i + 1) - p i| + 1 := by
  have hbefore := abs_le.1 (abs_sum_delta_sub_le p i)
  have hbehind := abs_le.1 (abs_sum_delta_sub_le p (i + 1))
  rw [sum_range_succ] at hbehind
  have hway := abs_le.1 (le_refl |p (i + 1) - p i|)
  exact abs_le.2 ⟨by linarith, by linarith⟩

end Steps

/-- The steps along an axis of ten intervals or more fit into 32 bits, although the whole offset
need not. -/
theorem inInt32_delta {total side : ℤ} {n i : ℕ} {deviation : ℕ → ℚ} (hn : 10 ≤ n)
    (htotal : |total| ≤ 0xFFFFFFFF) (hside : side ≤ 10)
    (hdev : ∀ j ≤ n, 0 ≤ deviation j ∧ deviation j ≤ side) (h0 : deviation 0 = 0) (hi : i ≤ n) :
    InInt32 (delta (axisPath total n deviation) i) := by
  have hsmall : |delta (axisPath total n deviation) i| ≤ 0x7FFFFFFF := by
    cases i with
    | zero =>
      have hfirst := sum_delta_of_eq (p := axisPath total n deviation) (i := 0) (z := 0)
        (by simpa using axisPath_zero h0)
      rw [sum_range_one] at hfirst
      rw [hfirst]
      norm_num
    | succ i =>
      have hway := abs_axisPath_sub_le total hi hdev
      have hstep := abs_delta_succ_le (axisPath total n deviation) i
      have htotal' : |(total : ℚ)| ≤ 0xFFFFFFFF := by exact_mod_cast htotal
      have hside' : (side : ℚ) ≤ 10 := by exact_mod_cast hside
      have hshare : (1 : ℚ) / n ≤ 1 / 10 :=
        one_div_le_one_div_of_le (by norm_num) (by exact_mod_cast hn)
      have hease : |(total : ℚ)| * (3 / 2 * (1 / n)) ≤ 0xFFFFFFFF * (3 / 2 * (1 / 10)) := by
        gcongr
      linarith
  obtain ⟨hlo, hhi⟩ := abs_le.1 hsmall
  exact ⟨by linarith, hhi⟩

/-- Two intervals are too few: the whole offset of the screen takes a step that does not fit. -/
example : ¬ InInt32 (delta (axisPath 0xFFFFFFFF 2 fun _ => 0) 1) := by decide +kernel

end SyntheticInput
