import GnssSdr.Acquisition.Dwells

namespace gnss_sdr.acquisition

open Finset ComplexConjugate

section guards

variable {α : Type} [LinearOrderedField α] {cfg : Config α} {data : DwellData α}

theorem le_record_maximum_d_mag (u : PcpsSdAcquisition α) (k : Nat) :
    u.d_mag ≤ (record_maximum cfg data u k).d_mag := by
  unfold record_maximum
  dsimp only
  split_ifs with h <;> first | exact le_rfl | exact h.le

/-- The search's `d_mag` only grows from the 0 the dwell starts it at. -/
theorem foldl_record_maximum_d_mag_nonneg (l : List Nat) {u : PcpsSdAcquisition α}
    (hu : 0 ≤ u.d_mag) : 0 ≤ (l.foldl (record_maximum cfg data) u).d_mag := by
  induction l generalizing u with
  | nil => exact hu
  | cons k l ih => exact ih (hu.trans (le_record_maximum_d_mag u k))

/-- The search's guard `d_mag < magt`, under which `d_mag / d_input_power` is evaluated,
holds at bin `j` only when the block power is positive. -/
theorem search_guard_power_pos (s : PcpsSdAcquisition α) (j : Nat)
    (h : ((List.range j).foldl (record_maximum cfg data)
      { s with
        d_input_power := data.power
        d_mag := 0
        d_sample_counter := s.d_sample_counter + cfg.d_fft_size
        d_well_count := (s.d_well_count + 1) % 2 ^ 32 }).d_mag < bin_magt cfg data j) :
    0 < ((List.range j).foldl (record_maximum cfg data)
      { s with
        d_input_power := data.power
        d_mag := 0
        d_sample_counter := s.d_sample_counter + cfg.d_fft_size
        d_well_count := (s.d_well_count + 1) % 2 ^ 32 }).d_input_power := by
  rw [foldl_congr_proj _ _ (record_maximum_d_input_power cfg data)]
  exact DwellData.power_pos_of_bin_magt_pos
    ((foldl_record_maximum_d_mag_nonneg _ le_rfl).trans_lt h)

/-- When no magnitude exceeds the threshold the `peaks` map stays empty. -/
theorem search_peaks_eq_nil {thr : α} (h : ∀ k i, data.magnitude k i ≤ thr)
    (s : PcpsSdAcquisition α) : (search cfg data thr s).2 = [] := by
  have hcollect : ∀ c k, collect_peaks cfg data thr c k [] = [] := fun c k => by
    unfold collect_peaks
    induction List.range cfg.d_fft_size with
    | nil => rfl
    | cons i l ih => simpa [not_lt.mpr (h k i)] using ih
  unfold search
  induction List.range cfg.d_num_doppler_bins generalizing s with
  | nil => rfl
  | cons k l ih => simpa [hcollect] using ih _

/-- An entry of the `peaks` map, whose key the auxiliary search divides by
`d_input_power`, exists only when the block power is positive. -/
theorem search_peaks_power_pos (s : PcpsSdAcquisition α)
    (h : (search cfg data (cfg.d_threshold * data.power *
      (cfg.fft_normalization_factor * cfg.fft_normalization_factor)) s).2 ≠ []) :
    0 < data.power := by
  refine lt_of_le_of_ne data.power_nonneg fun h0 => h (search_peaks_eq_nil (fun k i => ?_) s)
  rw [← h0, data.magnitude_eq_zero h0.symm]
  simp

/-- A dwell over data whose every ratio is at most `B` keeps its statistic or leaves
one at most `B`. -/
theorem dwell_test_statistics_le {B : α}
    (hratio : ∀ k i, data.magnitude k i /
      (cfg.fft_normalization_factor * cfg.fft_normalization_factor) / data.power ≤ B)
    (s : PcpsSdAcquisition α) :
    (dwell cfg s data).d_test_statistics = s.d_test_statistics ∨
      (dwell cfg s data).d_test_statistics ≤ B := by
  obtain ⟨-, -, -, -, -, hwrote⟩ := dwell_searched_spec cfg s data
  rw [dwell_eq]
  rcases hwrote with ⟨h, -⟩ | ⟨-, -, k, -, i, h⟩
  · exact .inl h
  · exact .inr (h ▸ hratio k i)

end guards

/-- An all-zero input block, of power zero, never reaches the dwell's divisions by
`d_input_power`: no bin's peak beats the `d_mag` of 0 the search starts from, and no
magnitude exceeds `threshold_spoofing`, so the `peaks` map stays empty. The dwell keeps
the statistic and the record it started from, for every configuration, and stores no
NaN or infinite statistic. -/
theorem dwell_keeps_record_of_zero_power {α : Type} [LinearOrderedField α] (cfg : Config α) (s : PcpsSdAcquisition α)
    (data : DwellData α) (h0 : data.power = 0) : SameRecord s (dwell cfg s data) := by
  have hmag := data.magnitude_eq_zero h0
  have hfold : ∀ (l : List Nat) (u : PcpsSdAcquisition α), 0 ≤ u.d_mag →
      l.foldl (record_maximum cfg data) u = u := by
    intro l
    induction l with
    | nil => exact fun _ _ => rfl
    | cons k l ih =>
      intro u hu
      rw [List.foldl_cons, record_maximum_of_le (by simpa [bin_magt, hmag] using hu), ih u hu]
  show SameRecord s (dwell_searched cfg s data).1
  unfold dwell_searched
  dsimp only
  rw [search_fst, hfold _ _ le_rfl,
    search_peaks_eq_nil (fun k i => by rw [hmag, h0]; simp)]
  split_ifs <;> exact ⟨rfl, rfl, rfl, rfl⟩

theorem dwell_keeps_record_of_zero_power_all_zero_block :
    let cfg : Config ℚ :=
      { d_fft_size := 2, d_samples_per_code := 2, d_doppler_max := 1, d_doppler_step := 1,
        d_num_doppler_bins := 3, d_max_dwells := 1, d_bit_transition_flag := false,
        d_peak := 2, d_threshold := 0, samples_per_code_pos := by decide }
    let data : DwellData ℚ :=
      { power := 0, magnitude := fun _ _ => 0, power_nonneg := le_rfl,
        magnitude_nonneg := fun _ _ => le_rfl, magnitude_eq_zero := fun _ _ _ => rfl }
    let s : PcpsSdAcquisition ℚ := { initial 1 1 1 1 with d_state := 1, d_active := true }
    data.power = 0 ∧ SameRecord s (dwell cfg s data) :=
  ⟨rfl, dwell_keeps_record_of_zero_power _ _ _ rfl⟩


section runs

variable {α : Type} [LinearOrderedField α] {cfg : Config α} {admissible : DwellData α → Prop}

/-- ACQ_SUCCESS is pushed only from state 2. -/
theorem step_message_eq_some_one {s : PcpsSdAcquisition α} {op : Op α}
    (h : (step cfg s op).2 = some 1) : s.d_state = 2 := by
  cases op with
  | set_active => simp [step] at h
  | general_work n data =>
    rcases (by omega : s.d_state = 0 ∨ s.d_state = 1 ∨ s.d_state = 2 ∨ s.d_state = 3 ∨
      4 ≤ s.d_state) with h' | h' | h' | h' | h'
    · rw [step, general_work_of_zero _ _ _ _ h'] at h; simp at h
    · rw [step, general_work_of_one _ _ _ _ h'] at h; simp at h
    · exact h'
    · rw [step, general_work_of_three _ _ _ _ h'] at h; simp at h
    · rw [step, general_work_of_four_le _ _ _ _ h'] at h; simp at h

/-- If every admissible block keeps its ratios within `B ≤ threshold`, then inside an
episode the statistic stays within `B` and state 2 is never entered. -/
theorem reachable_no_state_two {B : α} (hB0 : 0 ≤ B) (hBthr : B ≤ cfg.d_threshold)
    (hratio : ∀ data, admissible data → ∀ k i, data.magnitude k i /
      (cfg.fft_normalization_factor * cfg.fft_normalization_factor) / data.power ≤ B)
    {s : PcpsSdAcquisition α} (h : Reachable cfg admissible s) :
    (s.d_state ≠ 0 → s.d_test_statistics ≤ B) ∧ s.d_state ≠ 2 := by
  induction h with
  | initial => exact ⟨fun h => absurd rfl h, by simp [initial]⟩
  | @step s op hop _ ih =>
    obtain ⟨hle, hne⟩ := ih
    cases op with
    | set_active => exact ⟨hle, hne⟩
    | general_work n data =>
      rcases (by omega : s.d_state = 0 ∨ s.d_state = 1 ∨ s.d_state = 3 ∨ 4 ≤ s.d_state)
        with h | h | h | h
      · rw [step, general_work_of_zero _ _ _ _ h]
        split_ifs <;> simp [hB0, h]
      · rw [step, general_work_of_one _ _ _ _ h]
        have htest : (dwell cfg s data).d_test_statistics ≤ B :=
          (dwell_test_statistics_le (hratio data hop) s).elim (fun e => e ▸ hle (by omega)) id
        refine ⟨fun _ => htest, fun h2 => ?_⟩
        rw [dwell_eq] at h2 htest
        have := dwell_decision_eq_two cfg _ _ ((dwell_searched_spec cfg s data).1.trans h) h2
        exact absurd (hBthr.trans_lt this) (not_lt.mpr htest)
      · rw [step, general_work_of_three _ _ _ _ h]; simp
      · rw [step, general_work_of_four_le _ _ _ _ h]; exact ⟨hle, hne⟩

/-- A run from a reachable state that never enters state 2 pushes no ACQ_SUCCESS. -/
theorem run_no_success {s : PcpsSdAcquisition α} (hs : Reachable cfg admissible s)
    (hno : ∀ t, Reachable cfg admissible t → t.d_state ≠ 2) {ops : List (Op α)}
    (hops : ∀ op ∈ ops, op.Admissible admissible) : 1 ∉ (run cfg s ops).2 := by
  induction ops generalizing s with
  | nil => simp [run]
  | cons op ops ih =>
    rw [run_cons, List.mem_append, not_or]
    refine ⟨fun h => hno s hs (step_message_eq_some_one
        (show (step cfg s op).2 = some 1 by simpa [Option.mem_def] using h)),
      ih (.step (hops op (List.mem_cons_self _ _)) hs) fun op' h' =>
        hops op' (List.mem_cons_of_mem _ h')⟩

end runs

section signal

variable {K : Type} [CommRing K]

/-- `gr::fft::execute` on `fft_size` points: the unnormalised DFT with root `ω`, which
is `exp(-2πi/N)` for the forward plan and its conjugate for the backward plan. -/
def fft_execute (ω : K) (fft_size : Nat) (inbuf : Nat → K) (f : Nat) : K :=
  ∑ n ∈ range fft_size, inbuf n * ω ^ (f * n)

variable [StarRing K]

/-- `set_local_code`: `d_fft_codes`, the conjugated forward FFT of the local code. -/
def set_local_code (ω : K) (fft_size : Nat) (code : Nat → K) (f : Nat) : K :=
  star (fft_execute ω fft_size code f)

/-- Steps 2 and 3 of the search for one bin: the input times the bin's wipeoff, its
forward FFT times `d_fft_codes`, and the backward FFT of that product. -/
def bin_correlation (ω : K) (fft_size : Nat) (d_fft_codes grid_doppler_wipeoff input : Nat → K)
    (i : Nat) : K :=
  fft_execute (star ω) fft_size
    (fun f => fft_execute ω fft_size (fun n => input n * grid_doppler_wipeoff n) f *
      d_fft_codes f) i

end signal

/-- Step 1 of a dwell: the mean squared magnitude of the block. -/
def input_power {K β : Type} [Field β] (magnitude_squared : K → β) (fft_size : Nat)
    (input : Nat → K) : β :=
  (∑ n ∈ range fft_size, magnitude_squared (input n)) / fft_size

section parseval

variable {ω : ℂ} {N : Nat}

/-- The rows of the DFT matrix are orthogonal. -/
theorem sum_pow_mul_conj_pow (hω : IsPrimitiveRoot ω N) {n n' : Nat} (hn : n < N)
    (hn' : n' < N) :
    ∑ f ∈ range N, ω ^ (f * n) * conj (ω ^ (f * n')) = if n = n' then (N : ℂ) else 0 := by
  have h0 : ω ≠ 0 := hω.ne_zero (by omega)
  have hconj : conj ω = ω⁻¹ := by
    rw [Complex.inv_def, Complex.normSq_eq_norm_sq, hω.norm'_eq_one (by omega)]
    simp
  set z := ω ^ n * (ω ^ n')⁻¹
  have hterm : ∀ f, ω ^ (f * n) * conj (ω ^ (f * n')) = z ^ f := fun f => by
    rw [map_pow, hconj]; ring
  simp only [hterm]
  split_ifs with h
  · subst h; simp [z, h0]
  · have hz : z ≠ 1 := fun hz =>
      h (hω.pow_inj hn hn' (by rw [← mul_inv_eq_one₀ (pow_ne_zero _ h0)]; exact hz))
    rw [geom_sum_eq hz, mul_pow, inv_pow, ← pow_mul, ← pow_mul, mul_comm n, mul_comm n',
      pow_mul, pow_mul, hω.pow_eq_one]
    simp

/-- Parseval's identity for the unnormalised DFT. -/
theorem fft_execute_parseval (hω : IsPrimitiveRoot ω N) (x : ℕ → ℂ) :
    ∑ f ∈ range N, Complex.normSq (fft_execute ω N x f) =
      N * ∑ n ∈ range N, Complex.normSq (x n) := by
  apply Complex.ofReal_injective
  push_cast
  simp only [← Complex.mul_conj, fft_execute, map_sum, map_mul, Finset.sum_mul, Finset.mul_sum]
  rw [Finset.sum_comm]
  refine Finset.sum_congr rfl fun n' hn' => ?_
  rw [Finset.sum_comm]
  have hrow : ∀ n ∈ range N,
      ∑ f ∈ range N, x n * ω ^ (f * n) * (conj (x n') * conj (ω ^ (f * n'))) =
        x n * conj (x n') * if n = n' then (N : ℂ) else 0 := fun n hn => by
    rw [← sum_pow_mul_conj_pow hω (mem_range.mp hn) (mem_range.mp hn'), Finset.mul_sum]
    exact Finset.sum_congr rfl fun f _ => by ring
  rw [Finset.sum_congr rfl hrow]
  simp [hn']
  ring

/-- The backward FFT has a root of modulus one, so the correlation at any index is at
most the sum of the products of the two spectra's moduli. -/
theorem norm_bin_correlation_le (hω : IsPrimitiveRoot ω N)
    (d_fft_codes wipeoff input : ℕ → ℂ) (i : ℕ) :
    ‖bin_correlation ω N d_fft_codes wipeoff input i‖ ≤
      ∑ f ∈ range N, ‖fft_execute ω N (fun n => input n * wipeoff n) f‖ * ‖d_fft_codes f‖ := by
  rcases Nat.eq_zero_or_pos N with rfl | hN
  · simp [bin_correlation, fft_execute]
  have hω1 : ‖(star ω : ℂ)‖ = 1 := by rw [norm_star]; exact hω.norm'_eq_one hN.ne'
  conv_lhs => rw [bin_correlation, fft_execute]
  refine (norm_sum_le _ _).trans (le_of_eq (Finset.sum_congr rfl fun f _ => ?_))
  rw [norm_mul, norm_mul, norm_pow, hω1, one_pow, mul_one]

/-- The bound behind the test statistic: Cauchy–Schwarz over the spectra, then Parseval
for the wiped-off input and for the code, with unit-modulus wipeoffs. -/
theorem normSq_bin_correlation_le (hω : IsPrimitiveRoot ω N) (code wipeoff input : ℕ → ℂ)
    (hw : ∀ n, ‖wipeoff n‖ = 1) (i : ℕ) :
    Complex.normSq (bin_correlation ω N (set_local_code ω N code) wipeoff input i) ≤
      N ^ 2 * (∑ n ∈ range N, Complex.normSq (input n)) *
        ∑ n ∈ range N, Complex.normSq (code n) := by
  set Y := fft_execute ω N (fun n => input n * wipeoff n)
  have hY : ∑ f ∈ range N, ‖Y f‖ ^ 2 = N * ∑ n ∈ range N, Complex.normSq (input n) := by
    simp only [← Complex.normSq_eq_norm_sq, Y, fft_execute_parseval hω, map_mul,
      Complex.normSq_eq_norm_sq (wipeoff _), hw, one_pow, mul_one]
  have hC : ∑ f ∈ range N, ‖set_local_code ω N code f‖ ^ 2 =
      N * ∑ n ∈ range N, Complex.normSq (code n) := by
    simp only [set_local_code, norm_star, ← Complex.normSq_eq_norm_sq, fft_execute_parseval hω]
  calc Complex.normSq (bin_correlation ω N (set_local_code ω N code) wipeoff input i)
      = ‖bin_correlation ω N (set_local_code ω N code) wipeoff input i‖ ^ 2 :=
        Complex.normSq_eq_norm_sq _
    _ ≤ (∑ f ∈ range N, ‖Y f‖ * ‖set_local_code ω N code f‖) ^ 2 :=
        pow_le_pow_left₀ (norm_nonneg _) (norm_bin_correlation_le hω _ wipeoff input i) 2
    _ ≤ (∑ f ∈ range N, ‖Y f‖ ^ 2) * ∑ f ∈ range N, ‖set_local_code ω N code f‖ ^ 2 :=
        Finset.sum_mul_sq_le_sq_mul_sq _ _ _
    _ = N ^ 2 * (∑ n ∈ range N, Complex.normSq (input n)) *
          ∑ n ∈ range N, Complex.normSq (code n) := by
        rw [hY, hC]; ring

end parseval

/-- `data` is what a dwell reads from the block `input` of `fft_size` samples: its mean
power and, for each bin, the squared magnitudes of the correlation of the block, wiped
off by the bin's `d_grid_doppler_wipeoffs` row, with the code `set_local_code` installed.
`ω` is the forward plan's root. -/
def DwellData.OfBlock (cfg : Config ℝ) (ω : ℂ) (code : ℕ → ℂ)
    (grid_doppler_wipeoffs : ℕ → ℕ → ℂ) (input : ℕ → ℂ) (data : DwellData ℝ) : Prop :=
  data.power = input_power Complex.normSq cfg.d_fft_size input ∧
    ∀ k i, data.magnitude k i = Complex.normSq (bin_correlation ω cfg.d_fft_size
      (set_local_code ω cfg.d_fft_size code) (grid_doppler_wipeoffs k) input i)

section block

variable {cfg : Config ℝ} {ω : ℂ} {code : ℕ → ℂ} {grid_doppler_wipeoffs : ℕ → ℕ → ℂ}
  {input : ℕ → ℂ}

theorem input_power_nonneg (N : Nat) (x : ℕ → ℂ) : 0 ≤ input_power Complex.normSq N x :=
  div_nonneg (sum_nonneg fun _ _ => Complex.normSq_nonneg _) (Nat.cast_nonneg _)

/-- A block of power zero correlates to zero in every bin and at every index. -/
theorem normSq_bin_correlation_eq_zero (hω : IsPrimitiveRoot ω cfg.d_fft_size)
    (hw : ∀ k n, ‖grid_doppler_wipeoffs k n‖ = 1)
    (h0 : input_power Complex.normSq cfg.d_fft_size input = 0) (k i : ℕ) :
    Complex.normSq (bin_correlation ω cfg.d_fft_size (set_local_code ω cfg.d_fft_size code)
      (grid_doppler_wipeoffs k) input i) = 0 := by
  refine le_antisymm ?_ (Complex.normSq_nonneg _)
  refine (normSq_bin_correlation_le hω code _ input (hw k) i).trans (le_of_eq ?_)
  rcases Nat.eq_zero_or_pos cfg.d_fft_size with hN | hN
  · simp [hN]
  · rw [input_power, div_eq_zero_iff] at h0
    rcases h0 with h0 | h0
    · rw [h0]; ring
    · exact absurd h0 (Nat.cast_ne_zero.mpr hN.ne')

/-- Every block gives the dwell well-formed data: the invariant `DwellData` carries holds
of the block's power and correlations. -/
theorem DwellData.exists_ofBlock (hω : IsPrimitiveRoot ω cfg.d_fft_size)
    (hw : ∀ k n, ‖grid_doppler_wipeoffs k n‖ = 1) (input : ℕ → ℂ) :
    ∃ data : DwellData ℝ, data.OfBlock cfg ω code grid_doppler_wipeoffs input :=
  ⟨{ power := input_power Complex.normSq cfg.d_fft_size input
     magnitude := fun k i => Complex.normSq (bin_correlation ω cfg.d_fft_size
       (set_local_code ω cfg.d_fft_size code) (grid_doppler_wipeoffs k) input i)
     power_nonneg := input_power_nonneg _ input
     magnitude_nonneg := fun _ _ => Complex.normSq_nonneg _
     magnitude_eq_zero := fun h0 k i => normSq_bin_correlation_eq_zero hω hw h0 k i },
    rfl, fun _ _ => rfl⟩

/-- Every ratio a dwell can assign to `d_test_statistics`, a normalised magnitude over
the block power, is at most the code's own mean power `(Σ |c_n|²) / fft_size`. -/
theorem DwellData.OfBlock.ratio_le {data : DwellData ℝ} (hω : IsPrimitiveRoot ω cfg.d_fft_size)
    (hw : ∀ k n, ‖grid_doppler_wipeoffs k n‖ = 1)
    (hdata : data.OfBlock cfg ω code grid_doppler_wipeoffs input) (k i : ℕ) :
    data.magnitude k i / (cfg.fft_normalization_factor * cfg.fft_normalization_factor) /
      data.power ≤ input_power Complex.normSq cfg.d_fft_size code := by
  have hle := normSq_bin_correlation_le hω code _ input (hw k) i
  rw [← hdata.2 k i] at hle
  rw [hdata.1, input_power, input_power, Config.fft_normalization_factor]
  set N := cfg.d_fft_size
  set Sx := ∑ n ∈ range N, Complex.normSq (input n)
  set Sc := ∑ n ∈ range N, Complex.normSq (code n)
  have hSx : 0 ≤ Sx := sum_nonneg fun n _ => Complex.normSq_nonneg _
  rcases Nat.eq_zero_or_pos N with hN | hN
  · simp [hN]
  rcases hSx.eq_or_lt with h0 | hpos
  · simp only [← h0, zero_div, div_zero]
    exact input_power_nonneg N code
  have hN' : (0 : ℝ) < N := Nat.cast_pos.mpr hN
  rw [div_div, div_le_div_iff₀ (by positivity) hN']
  calc data.magnitude k i * N ≤ N ^ 2 * Sx * Sc * N := by gcongr
    _ = Sc * (N * N * (N * N) * (Sx / N)) := by field_simp; ring

end block

/-- What a dwell reads from some block, wiped off by rows of unit modulus. -/
def BlockData (cfg : Config ℝ) (ω : ℂ) (code : ℕ → ℂ) (data : DwellData ℝ) : Prop :=
  ∃ (grid_doppler_wipeoffs : ℕ → ℕ → ℂ) (input : ℕ → ℂ),
    (∀ k n, ‖grid_doppler_wipeoffs k n‖ = 1) ∧
      data.OfBlock cfg ω code grid_doppler_wipeoffs input

/-- The acquisition over blocks correlated through the FFT with the code `code`: a
block of power zero correlates to zero; the two divisions by `d_input_power`, in the
search's guard and on a `peaks` entry, are reached only with a positive power; every
ratio a dwell can assign is at most the code's mean power; so a threshold at least that
power (1 for a ±1 code) is never passed and no run pushes ACQ_SUCCESS. -/
def CorrelationLaws (cfg : Config ℝ) (ω : ℂ) (code : ℕ → ℂ) : Prop :=
  (∀ grid_doppler_wipeoffs : ℕ → ℕ → ℂ, (∀ k n, ‖grid_doppler_wipeoffs k n‖ = 1) →
    ∀ input : ℕ → ℂ, input_power Complex.normSq cfg.d_fft_size input = 0 →
      ∀ k i, Complex.normSq (bin_correlation ω cfg.d_fft_size
        (set_local_code ω cfg.d_fft_size code) (grid_doppler_wipeoffs k) input i) = 0) ∧
  (∀ (s : PcpsSdAcquisition ℝ) (data : DwellData ℝ) (j : ℕ),
    ((List.range j).foldl (record_maximum cfg data)
      { s with
        d_input_power := data.power
        d_mag := 0
        d_sample_counter := s.d_sample_counter + cfg.d_fft_size
        d_well_count := (s.d_well_count + 1) % 2 ^ 32 }).d_mag < bin_magt cfg data j →
    0 < ((List.range j).foldl (record_maximum cfg data)
      { s with
        d_input_power := data.power
        d_mag := 0
        d_sample_counter := s.d_sample_counter + cfg.d_fft_size
        d_well_count := (s.d_well_count + 1) % 2 ^ 32 }).d_input_power) ∧
  (∀ (s : PcpsSdAcquisition ℝ) (data : DwellData ℝ),
    (search cfg data (cfg.d_threshold * data.power *
      (cfg.fft_normalization_factor * cfg.fft_normalization_factor)) s).2 ≠ [] →
    0 < data.power) ∧
  (∀ data, BlockData cfg ω code data →
    (∀ k i, data.magnitude k i / (cfg.fft_normalization_factor * cfg.fft_normalization_factor) /
      data.power ≤ input_power Complex.normSq cfg.d_fft_size code) ∧
    ∀ s, (dwell cfg s data).d_test_statistics = s.d_test_statistics ∨
      (dwell cfg s data).d_test_statistics ≤ input_power Complex.normSq cfg.d_fft_size code) ∧
  (input_power Complex.normSq cfg.d_fft_size code ≤ cfg.d_threshold →
    ∀ (test_statistics : ℝ) (delay : ℕ) (doppler : ℤ) (stamp : ℕ) (ops : List (Op ℝ)),
      (∀ op ∈ ops, op.Admissible (BlockData cfg ω code)) →
      1 ∉ (run cfg (initial test_statistics delay doppler stamp) ops).2) ∧
  ((∀ n < cfg.d_fft_size, code n = 1 ∨ code n = -1) → 0 < cfg.d_fft_size →
    input_power Complex.normSq cfg.d_fft_size code = 1)

theorem acquisition_statistic_within_code_power (cfg : Config ℝ) {ω : ℂ} (code : ℕ → ℂ)
    (hω : IsPrimitiveRoot ω cfg.d_fft_size) : CorrelationLaws cfg ω code := by
  have hratio : ∀ data, BlockData cfg ω code data → ∀ k i,
      data.magnitude k i / (cfg.fft_normalization_factor * cfg.fft_normalization_factor) /
        data.power ≤ input_power Complex.normSq cfg.d_fft_size code :=
    fun data ⟨_, _, hw, hdata⟩ => hdata.ratio_le hω hw
  refine ⟨fun _ hw _ h0 => normSq_bin_correlation_eq_zero hω hw h0,
    fun s _ j h => search_guard_power_pos s j h, fun s _ h => search_peaks_power_pos s h,
    fun data hdata => ⟨hratio data hdata, dwell_test_statistics_le (hratio data hdata)⟩,
    fun hthr _ _ _ _ _ hops => ?_, fun hcode hN => ?_⟩
  · have hno := fun t (ht : Reachable cfg (BlockData cfg ω code) t) =>
      (reachable_no_state_two (input_power_nonneg _ code) hthr hratio ht).2
    exact run_no_success (.initial _ _ _ _) hno hops
  · have hsum : ∑ n ∈ range cfg.d_fft_size, Complex.normSq (code n) = cfg.d_fft_size := by
      rw [Finset.sum_congr rfl fun n hn => ?_, sum_const, card_range, nsmul_eq_mul, mul_one]
      rcases hcode n (mem_range.mp hn) with h | h <;> simp [h]
    rw [input_power, hsum, div_self (Nat.cast_ne_zero.mpr hN.ne')]

theorem acquisition_statistic_within_code_power_one_sample :
    let cfg : Config ℝ :=
      { d_fft_size := 1, d_samples_per_code := 1, d_doppler_max := 0, d_doppler_step := 1,
        d_num_doppler_bins := 1, d_max_dwells := 1, d_bit_transition_flag := false,
        d_peak := 1, d_threshold := 1, samples_per_code_pos := Nat.one_pos }
    IsPrimitiveRoot (1 : ℂ) cfg.d_fft_size ∧ CorrelationLaws cfg 1 fun _ => 1 :=
  ⟨IsPrimitiveRoot.one, acquisition_statistic_within_code_power _ _ IsPrimitiveRoot.one⟩

end gnss_sdr.acquisition
