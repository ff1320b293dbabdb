import GnssSdr.Acquisition.State

namespace gnss_sdr.acquisition

/-- The bin-counting loop of `init`,
`for (int doppler = (int)(-d_doppler_max); doppler <= (int)d_doppler_max; doppler += d_doppler_step)`,
from `doppler` with `d_num_doppler_bins` bins counted, for at most `fuel` tests of its
condition (`none` when they run out first). The unsigned bound and step are read as
`int`s, and the increment is formed in unsigned arithmetic and read back as an `int`. -/
def count_doppler_bins (d_doppler_max d_doppler_step : Nat) : Nat → Int → Nat → Option Nat
  | 0, _, _ => none
  | fuel + 1, doppler, d_num_doppler_bins =>
    if doppler ≤ cmath.wrap_int32 d_doppler_max then
      count_doppler_bins d_doppler_max d_doppler_step fuel
        (cmath.wrap_int32 (doppler + d_doppler_step)) (d_num_doppler_bins + 1)
    else some d_num_doppler_bins

/-- The count `init` leaves in `d_num_doppler_bins`, its loop given `fuel` tests. -/
def init_num_doppler_bins (d_doppler_max d_doppler_step fuel : Nat) : Option Nat :=
  count_doppler_bins d_doppler_max d_doppler_step fuel
    (cmath.wrap_int32 (-(d_doppler_max : Int))) 0

/-- A configuration whose `d_num_doppler_bins` is the count `init`'s loop returns. -/
def Config.Initialized {α : Type} (cfg : Config α) : Prop :=
  ∃ fuel, init_num_doppler_bins cfg.d_doppler_max cfg.d_doppler_step fuel =
    some cfg.d_num_doppler_bins

/-- The bins below `⌊2·d_doppler_max/d_doppler_step⌋ + 1` lie at most `2·d_doppler_max`
above `-d_doppler_max`. -/
theorem step_mul_le_of_lt {d_doppler_max d_doppler_step k : Nat}
    (hk : k < 2 * d_doppler_max / d_doppler_step + 1) : d_doppler_step * k ≤ 2 * d_doppler_max :=
  (Nat.mul_le_mul_left _ (Nat.lt_succ_iff.mp hk)).trans (Nat.mul_div_le _ _)

/-- The same bound read in `int`, where the loop and the search compute. -/
theorem step_mul_mem_of_lt {d_doppler_max d_doppler_step k : Nat}
    (hk : k < 2 * d_doppler_max / d_doppler_step + 1) :
    0 ≤ (d_doppler_step : Int) * k ∧ (d_doppler_step : Int) * k ≤ 2 * d_doppler_max := by
  have hle := step_mul_le_of_lt hk
  zify at hle
  exact ⟨by positivity, hle⟩

/-- The counting loop from bin `j` of the grid: it counts up to
`⌊2·d_doppler_max/d_doppler_step⌋ + 1` bins, stopping one step past the last bin, and
needs one test per bin left and one more to stop. -/
theorem count_doppler_bins_eq {d_doppler_max d_doppler_step : Nat} (hstep : 0 < d_doppler_step)
    (hfit : d_doppler_max + d_doppler_step < 2 ^ 31) (fuel : Nat) {j : Nat}
    (hj : j ≤ 2 * d_doppler_max / d_doppler_step + 1) :
    count_doppler_bins d_doppler_max d_doppler_step fuel
        (-(d_doppler_max : Int) + d_doppler_step * j) j =
      if 2 * d_doppler_max / d_doppler_step + 1 - j < fuel
      then some (2 * d_doppler_max / d_doppler_step + 1) else none := by
  induction fuel generalizing j with
  | zero => exact (if_neg (Nat.not_lt_zero _)).symm
  | succ fuel ih =>
    rw [count_doppler_bins, cmath.wrap_int32_of_mem (by omega) (by omega)]
    rcases Nat.lt_or_ge j (2 * d_doppler_max / d_doppler_step + 1) with hlt | hge
    · -- a bin of the grid: counted, and the loop moves one step on
      obtain ⟨h0, hle⟩ := step_mul_mem_of_lt hlt
      have hnext : cmath.wrap_int32 (-(d_doppler_max : Int) + d_doppler_step * j + d_doppler_step) =
          -(d_doppler_max : Int) + d_doppler_step * (j + 1 : Nat) := by
        rw [cmath.wrap_int32_of_mem (by omega) (by omega)]
        push_cast
        ring
      rw [if_pos (by omega), hnext, ih hlt]
      split_ifs <;> first | rfl | omega
    · -- one step past the last bin: the loop stops
      have hgt := Nat.lt_mul_div_succ (2 * d_doppler_max) hstep
      have hj' : j = 2 * d_doppler_max / d_doppler_step + 1 := le_antisymm hj hge
      rw [← hj'] at hgt
      zify at hgt
      rw [if_neg (by omega), if_pos (by omega), hj']

/-- `init`'s loop returns `⌊2·d_doppler_max/d_doppler_step⌋ + 1` after that many tests
and one more. -/
theorem init_num_doppler_bins_eq {d_doppler_max d_doppler_step : Nat} (hstep : 0 < d_doppler_step)
    (hfit : d_doppler_max + d_doppler_step < 2 ^ 31) (fuel : Nat) :
    init_num_doppler_bins d_doppler_max d_doppler_step fuel =
      if 2 * d_doppler_max / d_doppler_step + 1 < fuel
      then some (2 * d_doppler_max / d_doppler_step + 1) else none := by
  have h := count_doppler_bins_eq hstep hfit fuel (Nat.zero_le _)
  rw [Nat.cast_zero, mul_zero, add_zero, Nat.sub_zero] at h
  rw [init_num_doppler_bins, cmath.wrap_int32_of_mem (by omega) (by omega), h]

/-- Inside the grid the unsigned sum of `Config.bin_doppler` never wraps. -/
theorem Config.bin_doppler_of_lt {α : Type} (cfg : Config α)
    (hfit : cfg.d_doppler_max + cfg.d_doppler_step < 2 ^ 31) {k : Nat}
    (hk : k < 2 * cfg.d_doppler_max / cfg.d_doppler_step + 1) :
    cfg.bin_doppler k = -(cfg.d_doppler_max : Int) + cfg.d_doppler_step * k := by
  obtain ⟨h0, hle⟩ := step_mul_mem_of_lt hk
  exact cmath.wrap_int32_of_mem (by omega) (by omega)

/-- `init` terminates with `⌊2·d_doppler_max/d_doppler_step⌋ + 1` bins, after one test
of its condition per bin and one more, and a configuration it initialised searches
exactly that many. The frequencies `init`'s wipeoff loop and `general_work`'s search
give the bins are distinct and lie in `[-d_doppler_max, d_doppler_max]`. -/
theorem init_doppler_grid {α : Type} (cfg : Config α) (hstep : 0 < cfg.d_doppler_step)
    (hfit : cfg.d_doppler_max + cfg.d_doppler_step < 2 ^ 31) :
    let n : Nat := 2 * cfg.d_doppler_max / cfg.d_doppler_step + 1
    (∀ fuel, init_num_doppler_bins cfg.d_doppler_max cfg.d_doppler_step fuel =
      if n < fuel then some n else none) ∧
    (cfg.Initialized → cfg.d_num_doppler_bins = n) ∧
    (∀ j < n, ∀ k < n, cfg.bin_doppler j = cfg.bin_doppler k → j = k) ∧
    (∀ k < n, -(cfg.d_doppler_max : Int) ≤ cfg.bin_doppler k ∧
      cfg.bin_doppler k ≤ cfg.d_doppler_max) := by
  intro n
  have hinit := init_num_doppler_bins_eq hstep hfit
  refine ⟨hinit, fun ⟨fuel, hfuel⟩ => ?_, fun j hj k hk hjk => ?_, fun k hk => ?_⟩
  · rw [hinit] at hfuel
    split_ifs at hfuel
    exact (Option.some.inj hfuel).symm
  · rw [cfg.bin_doppler_of_lt hfit hj, cfg.bin_doppler_of_lt hfit hk] at hjk
    exact Nat.eq_of_mul_eq_mul_left hstep (by exact_mod_cast add_left_cancel hjk)
  · obtain ⟨h0, hle⟩ := step_mul_mem_of_lt hk
    rw [cfg.bin_doppler_of_lt hfit hk]
    constructor <;> omega

theorem init_doppler_grid_ten_khz :
    let cfg : Config ℚ :=
      { d_fft_size := 4000, d_samples_per_code := 4000, d_doppler_max := 10000,
        d_doppler_step := 500, d_num_doppler_bins := 41, d_max_dwells := 1,
        d_bit_transition_flag := false, d_peak := 2, d_threshold := 1,
        samples_per_code_pos := by decide }
    let n : Nat := 2 * cfg.d_doppler_max / cfg.d_doppler_step + 1
    0 < cfg.d_doppler_step ∧ cfg.d_doppler_max + cfg.d_doppler_step < 2 ^ 31 ∧
      (∀ fuel, init_num_doppler_bins cfg.d_doppler_max cfg.d_doppler_step fuel =
        if n < fuel then some n else none) ∧
      (cfg.Initialized → cfg.d_num_doppler_bins = n) ∧
      (∀ j < n, ∀ k < n, cfg.bin_doppler j = cfg.bin_doppler k → j = k) ∧
      (∀ k < n, -(cfg.d_doppler_max : Int) ≤ cfg.bin_doppler k ∧
        cfg.bin_doppler k ≤ cfg.d_doppler_max) :=
  ⟨by decide, by decide, init_doppler_grid _ (by decide) (by decide)⟩

/-- Every Doppler from `-d_doppler_max` up to half a step past the last bin lies within
half a step of some bin: the nearest one, `⌈(f + d_doppler_max)/d_doppler_step - 1/2⌉`. -/
theorem exists_bin_near {α : Type} (cfg : Config α) (hstep : 0 < cfg.d_doppler_step)
    (hfit : cfg.d_doppler_max + cfg.d_doppler_step < 2 ^ 31) {f : ℝ}
    (hlo : -(cfg.d_doppler_max : ℝ) ≤ f)
    (hhi : f ≤ -(cfg.d_doppler_max : ℝ) +
      cfg.d_doppler_step * (2 * cfg.d_doppler_max / cfg.d_doppler_step : Nat) +
        cfg.d_doppler_step / 2) :
    ∃ k < 2 * cfg.d_doppler_max / cfg.d_doppler_step + 1,
      |(cfg.bin_doppler k : ℝ) - f| ≤ cfg.d_doppler_step / 2 := by
  have hs : (0 : ℝ) < cfg.d_doppler_step := by exact_mod_cast hstep
  set t := (f + cfg.d_doppler_max) / cfg.d_doppler_step
  have ht0 : 0 ≤ t := div_nonneg (by linarith) hs.le
  have htq : t ≤ (2 * cfg.d_doppler_max / cfg.d_doppler_step : Nat) + 1 / 2 := by
    rw [div_le_iff₀ hs]
    linarith
  -- the nearest bin index, in range
  set k := ⌈t - 1 / 2⌉
  have hk0 : 0 ≤ k := by
    have : (-1 : ℤ) < k := Int.lt_ceil.mpr (by push_cast; linarith)
    omega
  have hkq : k ≤ (2 * cfg.d_doppler_max / cfg.d_doppler_step : Nat) :=
    Int.ceil_le.mpr (by rw [Int.cast_natCast]; linarith)
  have hkn : k.toNat < 2 * cfg.d_doppler_max / cfg.d_doppler_step + 1 := by omega
  refine ⟨k.toNat, hkn, ?_⟩
  have hcast : ((k.toNat : Nat) : ℝ) = k := by exact_mod_cast Int.toNat_of_nonneg hk0
  have hkt : |(k : ℝ) - t| ≤ 1 / 2 := abs_le.mpr
    ⟨by linarith [Int.le_ceil (t - 1 / 2)], by linarith [Int.ceil_lt_add_one (t - 1 / 2)]⟩
  have hf : f = -(cfg.d_doppler_max : ℝ) + cfg.d_doppler_step * t := by
    simp only [t]; field_simp
  rw [cfg.bin_doppler_of_lt hfit hkn]
  push_cast
  rw [hcast, hf, show -(cfg.d_doppler_max : ℝ) + cfg.d_doppler_step * k -
    (-cfg.d_doppler_max + cfg.d_doppler_step * t) = cfg.d_doppler_step * (k - t) by ring,
    abs_mul, abs_of_pos hs]
  calc (cfg.d_doppler_step : ℝ) * |(k : ℝ) - t| ≤ cfg.d_doppler_step * (1 / 2) :=
        mul_le_mul_of_nonneg_left hkt hs.le
    _ = cfg.d_doppler_step / 2 := by ring

/-- When `2·d_doppler_max` leaves a remainder of more than half a step modulo
`d_doppler_step`, no bin lies within half a step of `d_doppler_max`: the last bin is
that remainder below it. -/
theorem bins_miss_top {α : Type} (cfg : Config α)
    (hfit : cfg.d_doppler_max + cfg.d_doppler_step < 2 ^ 31)
    (hr : cfg.d_doppler_step < 2 * (2 * cfg.d_doppler_max % cfg.d_doppler_step)) :
    ∀ k < 2 * cfg.d_doppler_max / cfg.d_doppler_step + 1,
      (cfg.d_doppler_step : ℝ) / 2 < |(cfg.bin_doppler k : ℝ) - cfg.d_doppler_max| := by
  intro k hk
  have hdm := Nat.div_add_mod (2 * cfg.d_doppler_max) cfg.d_doppler_step
  have hle := Nat.mul_le_mul_left cfg.d_doppler_step (Nat.lt_succ_iff.mp hk)
  have hgap : (cfg.d_doppler_step : ℤ) < 2 * (cfg.d_doppler_max - cfg.bin_doppler k) := by
    rw [cfg.bin_doppler_of_lt hfit hk]
    zify at hdm hle hr
    omega
  have hgap' : (cfg.d_doppler_step : ℝ) < 2 * (cfg.d_doppler_max - cfg.bin_doppler k) := by
    exact_mod_cast hgap
  have hs : (0 : ℝ) ≤ cfg.d_doppler_step := by positivity
  rw [abs_sub_comm, abs_of_nonneg (by linarith)]
  linarith

/-- The grid `init` builds covers `[-d_doppler_max, d_doppler_max]` to within half a
step exactly when `2·d_doppler_max` leaves a remainder of at most half a step modulo
`d_doppler_step`. -/
theorem doppler_grid_covers_range_iff {α : Type} (cfg : Config α) (hstep : 0 < cfg.d_doppler_step)
    (hfit : cfg.d_doppler_max + cfg.d_doppler_step < 2 ^ 31) :
    (∀ f : ℝ, -(cfg.d_doppler_max : ℝ) ≤ f → f ≤ cfg.d_doppler_max →
      ∃ k < 2 * cfg.d_doppler_max / cfg.d_doppler_step + 1,
        |(cfg.bin_doppler k : ℝ) - f| ≤ cfg.d_doppler_step / 2) ↔
      2 * (2 * cfg.d_doppler_max % cfg.d_doppler_step) ≤ cfg.d_doppler_step := by
  constructor
  · -- otherwise `d_doppler_max` itself is missed
    intro hcover
    by_contra hr
    have hmax : (0 : ℝ) ≤ cfg.d_doppler_max := by positivity
    obtain ⟨k, hk, hnear⟩ := hcover _ (by linarith) le_rfl
    exact absurd hnear (not_le.mpr (bins_miss_top cfg hfit (by omega) k hk))
  · -- `d_doppler_max` is at most half a step past the last bin
    intro hr f hlo hhi
    refine exists_bin_near cfg hstep hfit hlo (hhi.trans ?_)
    have hdm : ((2 * cfg.d_doppler_max : Nat) : ℝ) = cfg.d_doppler_step *
        (2 * cfg.d_doppler_max / cfg.d_doppler_step : Nat) +
          (2 * cfg.d_doppler_max % cfg.d_doppler_step : Nat) := by
      exact_mod_cast (Nat.div_add_mod _ _).symm
    have hrR : ((2 * (2 * cfg.d_doppler_max % cfg.d_doppler_step) : Nat) : ℝ) ≤
        cfg.d_doppler_step := by exact_mod_cast hr
    push_cast at hdm hrR
    linarith

theorem doppler_grid_covers_range_iff_ten_khz :
    let cfg : Config ℚ :=
      { d_fft_size := 4000, d_samples_per_code := 4000, d_doppler_max := 10000,
        d_doppler_step := 500, d_num_doppler_bins := 41, d_max_dwells := 1,
        d_bit_transition_flag := false, d_peak := 2, d_threshold := 1,
        samples_per_code_pos := by decide }
    0 < cfg.d_doppler_step ∧ cfg.d_doppler_max + cfg.d_doppler_step < 2 ^ 31 ∧
      ((∀ f : ℝ, -(cfg.d_doppler_max : ℝ) ≤ f → f ≤ cfg.d_doppler_max →
        ∃ k < 2 * cfg.d_doppler_max / cfg.d_doppler_step + 1,
          |(cfg.bin_doppler k : ℝ) - f| ≤ cfg.d_doppler_step / 2) ↔
        2 * (2 * cfg.d_doppler_max % cfg.d_doppler_step) ≤ cfg.d_doppler_step) :=
  ⟨by decide, by decide, doppler_grid_covers_range_iff _ (by decide) (by decide)⟩

/-- A configuration `init` has initialised holds `⌊2·d_doppler_max/d_doppler_step⌋ + 1`
bins. -/
theorem Config.Initialized.num_doppler_bins_eq {α : Type} {cfg : Config α}
    (hinit : cfg.Initialized) (hstep : 0 < cfg.d_doppler_step)
    (hfit : cfg.d_doppler_max + cfg.d_doppler_step < 2 ^ 31) :
    cfg.d_num_doppler_bins = 2 * cfg.d_doppler_max / cfg.d_doppler_step + 1 := by
  obtain ⟨fuel, hfuel⟩ := hinit
  rw [init_num_doppler_bins_eq hstep hfit] at hfuel
  split_ifs at hfuel
  exact (Option.some.inj hfuel).symm

/-- Every Doppler of `[-d_doppler_max, d_doppler_max]` lies within half a step of a bin
`init` built, or, above the last bin, within the gap `2·d_doppler_max mod d_doppler_step`
that bin leaves below `d_doppler_max`. -/
theorem doppler_grid_covers_range_within_gap {α : Type} (cfg : Config α)
    (hinit : cfg.Initialized) (hstep : 0 < cfg.d_doppler_step)
    (hfit : cfg.d_doppler_max + cfg.d_doppler_step < 2 ^ 31) {f : ℝ}
    (hlo : -(cfg.d_doppler_max : ℝ) ≤ f) (hhi : f ≤ cfg.d_doppler_max) :
    ∃ k < cfg.d_num_doppler_bins, |(cfg.bin_doppler k : ℝ) - f| ≤
      max ((cfg.d_doppler_step : ℝ) / 2) (2 * cfg.d_doppler_max % cfg.d_doppler_step : Nat) := by
  rw [hinit.num_doppler_bins_eq hstep hfit]
  set q := 2 * cfg.d_doppler_max / cfg.d_doppler_step
  by_cases hnear : f ≤ -(cfg.d_doppler_max : ℝ) + cfg.d_doppler_step * q + cfg.d_doppler_step / 2
  · obtain ⟨k, hk, hle⟩ := exists_bin_near cfg hstep hfit hlo hnear
    exact ⟨k, hk, hle.trans (le_max_left _ _)⟩
  · -- above half a step past the last bin, which lies the remainder below `d_doppler_max`
    refine ⟨q, Nat.lt_succ_self q, le_max_of_le_right ?_⟩
    have hdm : ((2 * cfg.d_doppler_max : Nat) : ℝ) = cfg.d_doppler_step * q +
        (2 * cfg.d_doppler_max % cfg.d_doppler_step : Nat) := by
      exact_mod_cast (Nat.div_add_mod _ _).symm
    have hs : (0 : ℝ) ≤ cfg.d_doppler_step := by positivity
    rw [cfg.bin_doppler_of_lt hfit (Nat.lt_succ_self q)]
    push_cast at hdm ⊢
    rw [abs_sub_comm, abs_of_nonneg (by linarith)]
    linarith

theorem doppler_grid_covers_range_within_gap_top :
    let cfg : Config ℚ :=
      { d_fft_size := 4000, d_samples_per_code := 4000, d_doppler_max := 10000,
        d_doppler_step := 3000, d_num_doppler_bins := 7, d_max_dwells := 1,
        d_bit_transition_flag := false, d_peak := 2, d_threshold := 1,
        samples_per_code_pos := by decide }
    cfg.Initialized ∧ 0 < cfg.d_doppler_step ∧ cfg.d_doppler_max + cfg.d_doppler_step < 2 ^ 31 ∧
      -(cfg.d_doppler_max : ℝ) ≤ 10000 ∧ (10000 : ℝ) ≤ cfg.d_doppler_max ∧
      ∃ k < cfg.d_num_doppler_bins, |(cfg.bin_doppler k : ℝ) - 10000| ≤
        max ((cfg.d_doppler_step : ℝ) / 2) (2 * cfg.d_doppler_max % cfg.d_doppler_step : Nat) := by
  intro cfg
  have hinit : cfg.Initialized := ⟨8, by decide⟩
  exact ⟨hinit, by decide, by decide, by norm_num, by norm_num,
    doppler_grid_covers_range_within_gap cfg hinit (by decide) (by decide) (by norm_num)
      (by norm_num)⟩

/-- With `d_doppler_max = 10000` and `d_doppler_step = 3000`, `init` builds the seven
bins `-10000, -7000, ..., 8000`; a satellite at `+10000` Hz, inside the searched range,
is 2000 Hz from the nearest of them, more than half a step. -/
theorem doppler_grid_misses_top_of_range :
    let cfg : Config ℚ :=
      { d_fft_size := 4000, d_samples_per_code := 4000, d_doppler_max := 10000,
        d_doppler_step := 3000, d_num_doppler_bins := 7, d_max_dwells := 1,
        d_bit_transition_flag := false, d_peak := 2, d_threshold := 1,
        samples_per_code_pos := by decide }
    init_num_doppler_bins cfg.d_doppler_max cfg.d_doppler_step 8 = some cfg.d_num_doppler_bins ∧
      ∀ k < cfg.d_num_doppler_bins,
        (cfg.d_doppler_step : ℝ) / 2 < |(cfg.bin_doppler k : ℝ) - cfg.d_doppler_max| :=
  ⟨(init_num_doppler_bins_eq (by decide) (by decide) 8).trans (if_pos (by decide)),
    fun k hk => bins_miss_top _ (by decide) (by decide) k hk⟩

end gnss_sdr.acquisition
