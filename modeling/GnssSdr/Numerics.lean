import Mathlib.Algebra.Order.Floor
import Mathlib.Data.Rat.Floor
import Mathlib.Data.Int.Range
import Mathlib.Tactic.LinearCombination

namespace gnss_sdr.cmath

/-- C's `round`: the nearest integer, halfway cases away from zero. Floats and
doubles are modelled by exact rationals throughout. -/
def round (x : ℚ) : ℤ :=
  if 0 ≤ x then ⌊x + 1 / 2⌋ else -⌊-x + 1 / 2⌋

/-- Truncation towards zero, the integer part that `fmod` removes. -/
def trunc (x : ℚ) : ℤ :=
  if 0 ≤ x then ⌊x⌋ else ⌈x⌉

/-- C's `fmod`: `x - trunc (x / y) * y`, which has the sign of `x`. A zero divisor
gives NaN in C; here it returns `x`. -/
def fmod (x y : ℚ) : ℚ :=
  x - trunc (x / y) * y

/-- An unsigned 32-bit value read back as an `int` (two's complement). -/
def wrap_int32 (v : ℤ) : ℤ :=
  Int.bmod v (2 ^ 32)

/-- Rounding moves a value by at most half a unit. This is what bounds every
residual phase the tracking loop keeps. -/
theorem abs_sub_round_le (x : ℚ) : |x - round x| ≤ 1 / 2 := by
  unfold round
  split_ifs with hx
  · have hlo := Int.floor_le (x + 1 / 2)
    have hhi := Int.lt_floor_add_one (x + 1 / 2)
    rw [abs_le]
    constructor <;> linarith
  · have hlo := Int.floor_le (-x + 1 / 2)
    have hhi := Int.lt_floor_add_one (-x + 1 / 2)
    rw [abs_le]
    push_cast
    constructor <;> linarith

/-- A value strictly more than half a unit above `a` and less than half a unit above `b`
rounds into `[a, b]` (a value exactly half a unit below `a` may round away from zero,
to `a - 1`). -/
theorem round_mem_Icc {x : ℚ} {a b : ℤ} (ha : (a : ℚ) - 1 / 2 < x) (hb : x < b + 1 / 2) :
    a ≤ round x ∧ round x ≤ b := by
  obtain ⟨hlo, hhi⟩ := abs_le.mp (abs_sub_round_le x)
  have h1 : (a : ℚ) - 1 < round x := by linarith
  have h2 : (round x : ℚ) < b + 1 := by linarith
  constructor
  · have : a - 1 < round x := by exact_mod_cast h1
    omega
  · have : round x < b + 1 := by exact_mod_cast h2
    omega

/-- The residual left by rounding, `x - round x`, lies in `[-1/2, 1/2]`. -/
theorem sub_round_mem (x : ℚ) : -(1 / 2) ≤ x - round x ∧ x - round x ≤ 1 / 2 :=
  abs_le.mp (abs_sub_round_le x)

/-- For a nonnegative dividend and positive divisor, `fmod` is the usual
remainder in `[0, y)`. -/
theorem fmod_mem_Ico {x y : ℚ} (hx : 0 ≤ x) (hy : 0 < y) : 0 ≤ fmod x y ∧ fmod x y < y := by
  have hq : 0 ≤ x / y := div_nonneg hx hy.le
  have hfl := Int.floor_le (x / y)
  have hlt := Int.lt_floor_add_one (x / y)
  have hmul : x = x / y * y := by field_simp
  unfold fmod trunc
  rw [if_pos hq]
  constructor <;> nlinarith

theorem trunc_intCast (n : ℤ) : trunc n = n := by
  unfold trunc
  split_ifs <;> simp

/-- For a nonpositive dividend and positive divisor, `fmod` lies in `(-y, 0]`, and not
below the dividend. -/
theorem fmod_mem_of_nonpos {x y : ℚ} (hx : x ≤ 0) (hy : 0 < y) :
    x ≤ fmod x y ∧ -y < fmod x y ∧ fmod x y ≤ 0 := by
  have hq : x / y ≤ 0 := div_nonpos_of_nonpos_of_nonneg hx hy.le
  have hce := Int.ceil_lt_add_one (x / y)
  have hle := Int.le_ceil (x / y)
  have hmul : x = x / y * y := by field_simp
  have hc0 : (⌈x / y⌉ : ℚ) ≤ 0 := by exact_mod_cast Int.ceil_le.mpr (by simpa using hq)
  -- a nonpositive quotient truncates to its ceiling
  have ht : trunc (x / y) = ⌈x / y⌉ := by
    unfold trunc
    split_ifs with h
    · rw [le_antisymm hq h, Int.floor_zero, Int.ceil_zero]
    · rfl
  unfold fmod
  rw [ht]
  refine ⟨by nlinarith, by nlinarith, by nlinarith⟩

/-- `fmod` by a positive divisor lies strictly within the divisor of zero. -/
theorem abs_fmod_lt (x : ℚ) {y : ℚ} (hy : 0 < y) : |fmod x y| < y := by
  rcases le_total 0 x with hx | hx
  · obtain ⟨h0, h1⟩ := fmod_mem_Ico hx hy
    rw [abs_lt]
    constructor <;> linarith
  · obtain ⟨-, h0, h1⟩ := fmod_mem_of_nonpos hx hy
    rw [abs_lt]
    constructor <;> linarith

/-- What the pull-in adds to the code phase, `b - fmod a b` for integers `a` and
`b > 0`, is a whole number of samples from 1 to `2b - 1`, and at most `b` when `a ≥ 0`. -/
theorem sub_fmod_intCast_mem (a b : ℤ) (hb : 0 < b) :
    ∃ m : ℤ, (b : ℚ) - fmod a b = m ∧ 1 ≤ m ∧ m ≤ 2 * b - 1 ∧ (0 ≤ a → m ≤ b) := by
  have hb' : (0 : ℚ) < b := by exact_mod_cast hb
  have hz : fmod a b = ((a - trunc ((a : ℚ) / b) * b : ℤ) : ℚ) := by
    rw [fmod]; push_cast; ring
  obtain ⟨h1, h2⟩ := abs_lt.mp (abs_fmod_lt (a : ℚ) hb')
  rw [hz] at h1 h2
  have h1' : -b < a - trunc ((a : ℚ) / b) * b := by exact_mod_cast h1
  have h2' : a - trunc ((a : ℚ) / b) * b < b := by exact_mod_cast h2
  refine ⟨b - (a - trunc ((a : ℚ) / b) * b), by rw [hz]; push_cast; ring, by omega, by omega,
    fun ha => ?_⟩
  have h0 := (fmod_mem_Ico (by exact_mod_cast ha : (0 : ℚ) ≤ a) hb').1
  rw [hz] at h0
  have h0' : 0 ≤ a - trunc ((a : ℚ) / b) * b := by exact_mod_cast h0
  omega

/-- A remainder taken modulo `p ≠ 0` agrees, up to whole periods, with `a + p·y`
exactly when the phase steps `x` it was advanced by and `y` differ by an integer. -/
theorem fmod_add_mul_eq_iff {p : ℚ} (hp : p ≠ 0) (a x y : ℚ) :
    (∃ k : ℤ, fmod (a + p * x) p = a + p * y + k * p) ↔ ∃ m : ℤ, x - y = m := by
  unfold fmod
  constructor
  · rintro ⟨k, hk⟩
    refine ⟨k + trunc ((a + p * x) / p), mul_right_cancel₀ hp ?_⟩
    push_cast
    linear_combination hk
  · rintro ⟨m, hm⟩
    refine ⟨m - trunc ((a + p * x) / p), ?_⟩
    push_cast
    linear_combination p * hm

/-- Advancing a phase and an accumulator that agree up to whole multiples of `p` by the
same step, and reducing the phase modulo `p`, keeps them in agreement. -/
theorem fmod_add_congr {a b p : ℚ} {k : ℤ} (h : a = b + k * p) (x : ℚ) :
    ∃ j : ℤ, fmod (a + x) p = b + x + j * p :=
  ⟨k - trunc ((a + x) / p), by rw [fmod, h]; push_cast; ring⟩

/-- A rational strictly between two consecutive integers is not an integer. -/
theorem not_exists_intCast_eq {q : ℚ} (n : ℤ) (hlo : (n : ℚ) < q) (hhi : q < n + 1) :
    ¬∃ m : ℤ, q = m := by
  rintro ⟨m, rfl⟩
  have h1 : n < m := by exact_mod_cast hlo
  have h2 : m < n + 1 := by exact_mod_cast hhi
  omega

theorem wrap_int32_of_mem {v : ℤ} (hlo : -2 ^ 31 ≤ v) (hhi : v < 2 ^ 31) : wrap_int32 v = v := by
  unfold wrap_int32
  rw [Int.bmod_def]
  omega

end gnss_sdr.cmath
