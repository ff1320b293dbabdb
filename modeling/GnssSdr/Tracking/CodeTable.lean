import GnssSdr.Tracking.CodeNco
import GnssSdr.Tracking.Sessions

namespace gnss_sdr.tracking

variable {β σ : Type}

theorem trunc_code_length (cfg : Config) (hL : cfg.GPS_L1_CA_CODE_LENGTH_CHIPS = 1023) :
    cmath.trunc cfg.GPS_L1_CA_CODE_LENGTH_CHIPS = 1023 := by
  rw [hL]
  exact_mod_cast cmath.trunc_intCast 1023

/-- The C/A table `start_tracking` builds holds, at every index of `[0, 1024]`, chip
`((index - 1) mod 1023) + 1` of the code: the code itself at `1..1023` and the guard
copies of its last and first chips at `0` and `1024`. -/
theorem ca_code_table_eq (cfg : Config) (dsp : Dsp β σ) (prn : Nat) (d_ca_code : Int → β)
    (hL : cfg.GPS_L1_CA_CODE_LENGTH_CHIPS = 1023) {j : Int} (hj0 : 0 ≤ j) (hj : j ≤ 1024) :
    ca_code_table cfg dsp prn d_ca_code j =
      dsp.gps_l1_ca_code_gen_complex prn ((j - 1) % 1023).toNat := by
  simp only [ca_code_table, trunc_code_length cfg hL]
  by_cases h1024 : j = 1024
  · subst h1024
    simp
  · by_cases h0 : j = 0
    · subst h0
      simp
    · rw [if_neg (by omega), if_neg h0, if_pos ⟨by omega, by omega⟩]
      congr 2
      omega

/-- With a 1023-chip code, the primary index lies in the table `[0, 1024]` wherever the
code phase less the spacing is at least one chip before the epoch: `fmod` keeps the sign
of its dividend, so only `[-1, 0)` gives a negative remainder, which rounds to `-1` or
`0`. -/
theorem associated_chip_index_mem (cfg : Config) (hL : cfg.GPS_L1_CA_CODE_LENGTH_CHIPS = 1023)
    {tcode_chips : ℚ} (h : -1 ≤ tcode_chips - cfg.d_early_late_spc_chips) :
    0 ≤ associated_chip_index cfg tcode_chips ∧ associated_chip_index cfg tcode_chips ≤ 1024 := by
  unfold associated_chip_index
  rw [trunc_code_length cfg hL]
  set x := tcode_chips - cfg.d_early_late_spc_chips
  have hf : -1 ≤ cmath.fmod x ((1023 : ℤ) : ℚ) ∧ cmath.fmod x ((1023 : ℤ) : ℚ) < 1023 := by
    rcases le_total 0 x with hx | hx
    · obtain ⟨h0, h1⟩ := cmath.fmod_mem_Ico hx (by norm_num : (0 : ℚ) < (1023 : ℤ))
      exact ⟨by linarith, by exact_mod_cast h1⟩
    · obtain ⟨h0, -, h1⟩ := cmath.fmod_mem_of_nonpos hx (by norm_num : (0 : ℚ) < (1023 : ℤ))
      exact ⟨by linarith, by linarith⟩
  obtain ⟨hf1, hf2⟩ := hf
  push_cast at hf1 hf2
  obtain ⟨hlo, hhi⟩ := cmath.round_mem_Icc (x := cmath.fmod x ((1023 : ℤ) : ℚ)) (a := -1)
    (b := 1023) (by push_cast; linarith) (by push_cast; linarith)
  omega

/-- The secondary index, after its wrap of negative values by 1023, lies in `[0, 1024]`
at every code phase. -/
theorem associated_chip_index_m_mem (cfg : Config) (hL : cfg.GPS_L1_CA_CODE_LENGTH_CHIPS = 1023)
    (tcode_chips : ℚ) :
    0 ≤ associated_chip_index_m cfg tcode_chips ∧ associated_chip_index_m cfg tcode_chips ≤ 1024 := by
  unfold associated_chip_index_m associated_chip_index
  rw [trunc_code_length cfg hL]
  obtain ⟨hf1, hf2⟩ := abs_lt.mp (cmath.abs_fmod_lt (tcode_chips - cfg.d_early_late_spc_chips)
    (by norm_num : (0 : ℚ) < (1023 : ℤ)))
  push_cast at hf1 hf2
  obtain ⟨hlo, hhi⟩ := cmath.round_mem_Icc
    (x := cmath.fmod (tcode_chips - cfg.d_early_late_spc_chips) ((1023 : ℤ) : ℚ)) (a := -1023)
    (b := 1023) (by push_cast; linarith) (by push_cast; linarith)
  dsimp only
  split_ifs <;> omega

/-- A replica loop never starts more than half a chip before the code epoch: the
remainder is at most half a sample, and a sample spans at most one chip. -/
theorem replica_code_phase_ge (cfg : Config) {d_code_freq_chips rem_code_phase_samples : ℚ}
    (hf0 : 0 < d_code_freq_chips) (hfs : d_code_freq_chips ≤ cfg.d_fs_in)
    (hrem : |rem_code_phase_samples| ≤ 1 / 2) (i : Nat) :
    -(1 / 2) ≤ replica_code_phase cfg d_code_freq_chips rem_code_phase_samples i := by
  have hfs0 : (0 : ℚ) < cfg.d_fs_in := hf0.trans_le hfs
  have hstep0 : 0 < d_code_freq_chips / cfg.d_fs_in := div_pos hf0 hfs0
  have hstep1 : d_code_freq_chips / cfg.d_fs_in ≤ 1 := (div_le_one hfs0).mpr hfs
  have hr := (abs_le.mp hrem).2
  have hi : (0 : ℚ) ≤ i := by positivity
  unfold replica_code_phase
  nlinarith

/-- In every reachable state the primary remainder is within half a sample: the
constructor and `start_tracking` clear it, and a tracking call leaves a rounding
residual. -/
theorem Reachable.abs_rem_le {cfg : Config} {dsp : Dsp β σ} {s : Tracking β σ}
    (hs : Reachable cfg dsp s) : |s.d_rem_code_phase_samples| ≤ 1 / 2 := by
  induction hs with
  | constructed h =>
    rw [h.d_rem_code_phase_samples, abs_zero]
    norm_num
  | @step s op _ ih =>
    cases op with
    | start_tracking acq =>
      show |(0 : ℚ)| ≤ 1 / 2
      norm_num
    | stop_tracking => exact ih
    | general_work ninput_items input =>
      rcases general_work_cases cfg dsp s ninput_items input with
        ⟨-, h⟩ | ⟨-, -, h⟩ | ⟨-, -, h⟩ | ⟨-, h⟩ <;> simp only [gnss_sdr.tracking.step, h]
      · exact ih
      · exact ih
      · exact ih
      · exact abs_track_rem_le ..

theorem lock_detector_d_ca_code (cfg : Config) (dsp : Dsp β σ) (s : Tracking β σ) (prompt : β) :
    (lock_detector cfg dsp s prompt).1.d_ca_code = s.d_ca_code := by
  unfold lock_detector
  split
  · rfl
  · dsimp only
    split <;> rfl

/-- `general_work` never writes the code table. -/
theorem general_work_d_ca_code (cfg : Config) (dsp : Dsp β σ) (s : Tracking β σ)
    (ninput_items : Nat) (input : Nat → β) :
    (general_work cfg dsp s ninput_items input).1.d_ca_code = s.d_ca_code := by
  rcases general_work_cases cfg dsp s ninput_items input with
    ⟨-, h⟩ | ⟨-, -, h⟩ | ⟨-, -, h⟩ | ⟨-, h⟩ <;> rw [h]
  · rfl
  · rfl
  · rfl
  · exact lock_detector_d_ca_code cfg dsp _ _

/-- In every reachable state where tracking is enabled, the code table is one that
`start_tracking` built: only `start_tracking` enables tracking, and no other call writes
the table. -/
theorem Reachable.ca_code_table_of_enabled {cfg : Config} {dsp : Dsp β σ} {s : Tracking β σ}
    (hs : Reachable cfg dsp s) (hen : s.d_enable_tracking = true) :
    ∃ prn d_ca_code, s.d_ca_code = ca_code_table cfg dsp prn d_ca_code := by
  induction hs with
  | constructed h => exact absurd (h.d_enable_tracking.symm.trans hen) Bool.false_ne_true
  | @step s op _ ih =>
    cases op with
    | start_tracking acq => exact ⟨acq.PRN, s.d_ca_code, rfl⟩
    | stop_tracking => exact absurd hen Bool.false_ne_true
    | general_work ninput_items input =>
      obtain ⟨prn, d_ca_code, h⟩ := ih ((general_work_message cfg dsp s ninput_items input).2 hen)
      exact ⟨prn, d_ca_code, (general_work_d_ca_code cfg dsp s ninput_items input).trans h⟩

/-- The replica generators read only the 1025-entry code table. Take a reachable state
whose code frequency is positive and at most the sampling rate, with an early-late
spacing of at most half a chip and a 1023-chip code. Each sample `i` of `update_local_code`'s
loop reads index `1 + round(fmod(tcode_chips - spc, 1023))` at its code phase, and that
index lies in `[0, 1024]` at every iteration (the remainder is within half a sample in
every reachable state). `update_local_code_m` reads the wrapped index at its own
remainder, which lies in `[0, 1024]` whatever that remainder is. Once tracking is
enabled, the table entry at each such index is chip `((index - 1) mod 1023) + 1` of the
code `start_tracking` generated. -/
theorem replica_reads_stay_in_code_table {cfg : Config} {dsp : Dsp β σ} {s : Tracking β σ}
    (hs : Reachable cfg dsp s) (hL : cfg.GPS_L1_CA_CODE_LENGTH_CHIPS = 1023)
    (hf0 : 0 < s.d_code_freq_chips) (hfs : s.d_code_freq_chips ≤ cfg.d_fs_in)
    (hspc : cfg.d_early_late_spc_chips ≤ 1 / 2) :
    let index : Nat → Int := fun i => associated_chip_index cfg
      (replica_code_phase cfg s.d_code_freq_chips s.d_rem_code_phase_samples i)
    let index_m : ℚ → Nat → Int := fun rem_code_phase_samples_m i => associated_chip_index_m cfg
      (replica_code_phase cfg s.d_code_freq_chips rem_code_phase_samples_m i)
    (∀ i < (s.d_current_prn_length_samples +
        early_late_spc_samples cfg s.d_code_freq_chips * 2).toNat,
      (update_local_code cfg s).Early i = s.d_ca_code (index i)) ∧
    (∀ i, 0 ≤ index i ∧ index i ≤ 1024) ∧
    (∀ i < (s.d_current_prn_length_samples_m +
        early_late_spc_samples cfg s.d_code_freq_chips * 2).toNat,
      (update_local_code_m cfg s).Early i = s.d_ca_code (index_m s.d_rem_code_phase_samples_m i)) ∧
    (∀ rem_code_phase_samples_m i,
      0 ≤ index_m rem_code_phase_samples_m i ∧ index_m rem_code_phase_samples_m i ≤ 1024) ∧
    (s.d_enable_tracking = true → ∃ prn, ∀ j : Int, 0 ≤ j → j ≤ 1024 →
      s.d_ca_code j = dsp.gps_l1_ca_code_gen_complex prn ((j - 1) % 1023).toNat) := by
  intro index index_m
  refine ⟨fun i hi => code_replicas_early _ _ _ _ _ _ _ _ _ hi, fun i => ?_,
    fun i hi => code_replicas_early _ _ _ _ _ _ _ _ _ hi,
    fun rem i => associated_chip_index_m_mem cfg hL _, fun hen => ?_⟩
  · have h := replica_code_phase_ge cfg hf0 hfs hs.abs_rem_le i
    exact associated_chip_index_mem cfg hL (by linarith)
  · obtain ⟨prn, d_ca_code, h⟩ := hs.ca_code_table_of_enabled hen
    exact ⟨prn, fun j hj0 hj => h ▸ ca_code_table_eq cfg dsp prn d_ca_code hL hj0 hj⟩

theorem replica_reads_stay_in_code_table_after_steady_call :
    let cfg : Config := gps_l1_ca_config 4000000 4000
    let s := (run cfg (default : Dsp ℚ ℚ) (construct cfg default)
      [.start_tracking { (default : GnssSynchro) with Acq_doppler_hz := 10000 },
        .general_work 0 default, .general_work 0 default]).1
    s.d_enable_tracking = true ∧ s.d_rem_code_phase_samples ≠ 0 ∧
      Reachable cfg (default : Dsp ℚ ℚ) s ∧ cfg.GPS_L1_CA_CODE_LENGTH_CHIPS = 1023 ∧
      0 < s.d_code_freq_chips ∧ s.d_code_freq_chips ≤ cfg.d_fs_in ∧
      cfg.d_early_late_spc_chips ≤ 1 / 2 ∧
      let index : Nat → Int := fun i => associated_chip_index cfg
        (replica_code_phase cfg s.d_code_freq_chips s.d_rem_code_phase_samples i)
      let index_m : ℚ → Nat → Int := fun rem_code_phase_samples_m i => associated_chip_index_m cfg
        (replica_code_phase cfg s.d_code_freq_chips rem_code_phase_samples_m i)
      (∀ i < (s.d_current_prn_length_samples +
          early_late_spc_samples cfg s.d_code_freq_chips * 2).toNat,
        (update_local_code cfg s).Early i = s.d_ca_code (index i)) ∧
      (∀ i, 0 ≤ index i ∧ index i ≤ 1024) ∧
      (∀ i < (s.d_current_prn_length_samples_m +
          early_late_spc_samples cfg s.d_code_freq_chips * 2).toNat,
        (update_local_code_m cfg s).Early i =
          s.d_ca_code (index_m s.d_rem_code_phase_samples_m i)) ∧
      (∀ rem_code_phase_samples_m i,
        0 ≤ index_m rem_code_phase_samples_m i ∧ index_m rem_code_phase_samples_m i ≤ 1024) ∧
      (s.d_enable_tracking = true → ∃ prn, ∀ j : Int, 0 ≤ j → j ≤ 1024 →
        s.d_ca_code j = (default : Dsp ℚ ℚ).gps_l1_ca_code_gen_complex prn ((j - 1) % 1023).toNat) := by
  intro cfg s
  have hs : Reachable cfg (default : Dsp ℚ ℚ) s :=
    (Reachable.constructed (construct_constructed _ _)).run _
  have hL : cfg.GPS_L1_CA_CODE_LENGTH_CHIPS = 1023 := rfl
  have hstate : s.d_enable_tracking = true ∧ s.d_rem_code_phase_samples ≠ 0 ∧
      0 < s.d_code_freq_chips ∧ s.d_code_freq_chips ≤ cfg.d_fs_in := by
    with_unfolding_all decide
  obtain ⟨hen, hrem, hf0, hfs⟩ := hstate
  have hspc : cfg.d_early_late_spc_chips ≤ 1 / 2 := by norm_num [cfg, gps_l1_ca_config]
  exact ⟨hen, hrem, hs, hL, hf0, hfs, hspc, replica_reads_stay_in_code_table hs hL hf0 hfs hspc⟩

end gnss_sdr.tracking
