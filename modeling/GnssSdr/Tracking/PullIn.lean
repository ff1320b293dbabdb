import GnssSdr.Tracking.GeneralWork

namespace gnss_sdr.tracking

variable {β σ : Type}

/-- Under the GPS L1 C/A constants, with `1000 ≤ fs_in ≤ 5·10⁷` and a Doppler of at most
10 kHz, the PRN period of at least one sample that `start_tracking` takes as true and the
Doppler-stretched one it computes differ by less than half a sample. -/
theorem prn_periods_close {fs : ℤ} {d : ℚ} (hlo : 1000 ≤ fs) (hhi : fs ≤ 50000000)
    (hd : |d| ≤ 10000) :
    1 ≤ (1023 : ℚ) / 1023000 * fs ∧
      |(1023 : ℚ) / 1023000 * fs - 1 / ((1575420000 + d) / 1575420000 * 1023000) * 1023 * fs| <
        1 / 2 := by
  have hfs : (1000 : ℚ) ≤ fs := by exact_mod_cast hlo
  have hfs' : (fs : ℚ) ≤ 50000000 := by exact_mod_cast hhi
  obtain ⟨hd1, hd2⟩ := abs_le.mp hd
  have hu : (0 : ℚ) < 1575420000 + d := by linarith
  have hdiff : (1023 : ℚ) / 1023000 * fs - 1 / ((1575420000 + d) / 1575420000 * 1023000) * 1023 * fs =
      fs * d / (1000 * (1575420000 + d)) := by
    field_simp
    ring
  refine ⟨by linarith, ?_⟩
  rw [hdiff, abs_div, abs_of_pos (by positivity : (0 : ℚ) < 1000 * (1575420000 + d)),
    div_lt_iff₀ (by positivity), abs_mul, abs_of_pos (by linarith : (0 : ℚ) < fs)]
  nlinarith [abs_nonneg d]

/-- The code phase `start_tracking` hands to the pull-in: a remainder `c` modulo the
true PRN period, moved up by the Doppler-stretched period when it is negative. -/
theorem start_tracking_code_phase (cfg : Config) (dsp : Dsp β σ) (s : Tracking β σ)
    (acq : GnssSynchro)
    (hT : 0 < cfg.GPS_L1_CA_CODE_LENGTH_CHIPS / cfg.GPS_L1_CA_CODE_RATE_HZ * cfg.d_fs_in) :
    ∃ c, |c| < cfg.GPS_L1_CA_CODE_LENGTH_CHIPS / cfg.GPS_L1_CA_CODE_RATE_HZ * cfg.d_fs_in ∧
      (start_tracking cfg dsp s acq).d_acq_code_phase_samples =
        if c < 0 then 1 / ((cfg.GPS_L1_FREQ_HZ + acq.Acq_doppler_hz) / cfg.GPS_L1_FREQ_HZ *
          cfg.GPS_L1_CA_CODE_RATE_HZ) * cfg.GPS_L1_CA_CODE_LENGTH_CHIPS * cfg.d_fs_in + c
        else c :=
  ⟨_, cmath.abs_fmod_lt _ hT, rfl⟩

/-- The first `general_work` call after `start_tracking` is the pull-in. -/
theorem general_work_start_tracking (cfg : Config) (dsp : Dsp β σ) (s : Tracking β σ)
    (acq : GnssSynchro) (ninput_items : Nat) (input : Nat → β) :
    general_work cfg dsp (start_tracking cfg dsp s acq) ninput_items input =
      pull_in (start_tracking cfg dsp s acq) := by
  simp [general_work, start_tracking]

/-- The pull-in after `start_tracking` moves forward, and by at most two blocks and a
sample when the tracker's counter is at or past the acquisition stamp: with the GPS L1
C/A constants, `1000 ≤ fs_in ≤ 5·10⁷` and a Doppler of at most 10 kHz, the reprojected
code phase is above `-1/2` and below `L + 1` for the block length `L` that
`start_tracking` sets, and `L - fmod(delay, L)` is a whole number from 1 to `L` (to
`2L - 1` for a negative delay). -/
theorem pull_in_after_start_consumed (fs : ℤ) (vl : Nat) (dsp : Dsp β σ) (s : Tracking β σ)
    (acq : GnssSynchro) (hlo : 1000 ≤ fs) (hhi : fs ≤ 50000000)
    (hd : |acq.Acq_doppler_hz| ≤ 10000) :
    let t := start_tracking (gps_l1_ca_config fs vl) dsp s acq
    1 ≤ (pull_in t).2.consumed ∧
      (0 ≤ s.d_sample_counter - acq.Acq_samplestamp_samples →
        s.d_sample_counter - acq.Acq_samplestamp_samples < 2 ^ 31 →
        (pull_in t).2.consumed ≤ 2 * t.d_current_prn_length_samples + 1) := by
  intro t
  obtain ⟨hTt, hclose⟩ := prn_periods_close (d := acq.Acq_doppler_hz) hlo hhi hd
  set Tt : ℚ := (1023 : ℚ) / 1023000 * fs
  set Tm : ℚ := 1 / ((1575420000 + acq.Acq_doppler_hz) / 1575420000 * 1023000) * 1023 * fs
  obtain ⟨hc1, hc2⟩ := abs_lt.mp hclose
  have hL : t.d_current_prn_length_samples = cmath.round Tm := rfl
  obtain ⟨hL1, hL2⟩ := cmath.sub_round_mem Tm
  have hLpos : 0 < t.d_current_prn_length_samples := by
    have : (0 : ℚ) < t.d_current_prn_length_samples := by rw [hL]; linarith
    exact_mod_cast this
  -- the reprojected code phase lies in (-1/2, L + 1)
  obtain ⟨c, hc, hphase⟩ : ∃ c, |c| < Tt ∧
      t.d_acq_code_phase_samples = if c < 0 then Tm + c else c :=
    start_tracking_code_phase (gps_l1_ca_config fs vl) dsp s acq (by show (0 : ℚ) < Tt; linarith)
  obtain ⟨hc1', hc2'⟩ := abs_lt.mp hc
  have hτ : -(1 / 2) < t.d_acq_code_phase_samples ∧
      t.d_acq_code_phase_samples < t.d_current_prn_length_samples + 1 := by
    rw [hphase, hL]
    split_ifs <;> constructor <;> linarith
  obtain ⟨m, hm, hm1, -, hm3⟩ := cmath.sub_fmod_intCast_mem
    (cmath.wrap_int32 (t.d_sample_counter - t.d_acq_sample_stamp)) _ hLpos
  have hcons : (pull_in t).2.consumed = cmath.round (t.d_acq_code_phase_samples + m) := by
    rw [← hm]; rfl
  obtain ⟨hr1, hr2⟩ := cmath.sub_round_mem (t.d_acq_code_phase_samples + m)
  have hm1' : (1 : ℚ) ≤ m := by exact_mod_cast hm1
  refine ⟨?_, fun hD hD' => ?_⟩
  · have : (0 : ℚ) < (pull_in t).2.consumed := by rw [hcons]; linarith
    have : (0 : ℤ) < (pull_in t).2.consumed := by exact_mod_cast this
    omega
  · have hwrap : cmath.wrap_int32 (t.d_sample_counter - t.d_acq_sample_stamp) =
        s.d_sample_counter - acq.Acq_samplestamp_samples :=
      cmath.wrap_int32_of_mem
        (show -2 ^ 31 ≤ s.d_sample_counter - (acq.Acq_samplestamp_samples : ℤ) by omega) hD'
    have hmL : (m : ℚ) ≤ t.d_current_prn_length_samples := by
      exact_mod_cast hm3 (by rw [hwrap]; exact hD)
    have : ((pull_in t).2.consumed : ℚ) < 2 * t.d_current_prn_length_samples + 2 := by
      rw [hcons]; linarith
    have : (pull_in t).2.consumed < 2 * t.d_current_prn_length_samples + 2 := by
      exact_mod_cast this
    omega

/-- The pull-in call that follows `start_tracking` always moves forward, and by at most
two blocks and a sample when the tracker's counter is at or past the acquisition stamp:
the `general_work` call after `start_tracking` is the pull-in. -/
theorem pull_in_consumes_forward (fs : ℤ) (vl : Nat) (dsp : Dsp β σ) (s : Tracking β σ)
    (acq : GnssSynchro) (ninput_items : Nat) (input : Nat → β) (hlo : 1000 ≤ fs)
    (hhi : fs ≤ 50000000) (hd : |acq.Acq_doppler_hz| ≤ 10000) :
    let cfg := gps_l1_ca_config fs vl
    let t := start_tracking cfg dsp s acq
    let r := general_work cfg dsp t ninput_items input
    1 ≤ r.2.consumed ∧
      (0 ≤ s.d_sample_counter - acq.Acq_samplestamp_samples →
        s.d_sample_counter - acq.Acq_samplestamp_samples < 2 ^ 31 →
        r.2.consumed ≤ 2 * t.d_current_prn_length_samples + 1) := by
  intro cfg t r
  rw [show r = pull_in t from general_work_start_tracking cfg dsp s acq ninput_items input]
  exact pull_in_after_start_consumed fs vl dsp s acq hlo hhi hd

theorem pull_in_consumes_forward_at_ten_khz :
    let acq : GnssSynchro := { (default : GnssSynchro) with Acq_doppler_hz := 10000 }
    let cfg := gps_l1_ca_config 4000000 4000
    let s := construct cfg (default : Tracking ℚ ℚ)
    let t := start_tracking cfg default s acq
    let r := general_work cfg default t 0 default
    (1000 : ℤ) ≤ 4000000 ∧ (4000000 : ℤ) ≤ 50000000 ∧ |acq.Acq_doppler_hz| ≤ 10000 ∧
      1 ≤ r.2.consumed ∧
        (0 ≤ s.d_sample_counter - acq.Acq_samplestamp_samples →
          s.d_sample_counter - acq.Acq_samplestamp_samples < 2 ^ 31 →
          r.2.consumed ≤ 2 * t.d_current_prn_length_samples + 1) :=
  ⟨by norm_num, by norm_num, by norm_num,
    pull_in_consumes_forward 4000000 4000 default _ _ 0 default (by norm_num) (by norm_num)
      (by norm_num)⟩

/-- `start_tracking` moves the code phase by `+(T_prn_true - T_prn_mod)·N` where the
Doppler-stretched code needs it moved back: after 100 idle periods and a 10 kHz
acquisition the pull-in lands at sample 404003, more than a sample from every epoch. -/
theorem pull_in_misses_code_epoch :
    let cfg : Config := gps_l1_ca_config 4000000 4000
    let dsp : Dsp ℚ ℚ := default
    let acq : GnssSynchro :=
      { (default : GnssSynchro) with
        Acq_delay_samples := 0
        Acq_doppler_hz := 10000
        Acq_samplestamp_samples := 0 }
    let s := (run cfg dsp (construct cfg default)
      (List.replicate 100 (.general_work 0 default) ++ [.start_tracking acq, .general_work 0 default])).1
    let T_mod : ℚ := cfg.d_fs_in * cfg.GPS_L1_CA_CODE_LENGTH_CHIPS /
      ((1 + acq.Acq_doppler_hz / cfg.GPS_L1_FREQ_HZ) * cfg.GPS_L1_CA_CODE_RATE_HZ)
    Reachable cfg dsp s ∧ s.d_sample_counter = 404003 ∧
      ∀ k : ℤ, 1 < |(s.d_sample_counter : ℚ) -
        (acq.Acq_samplestamp_samples + acq.Acq_delay_samples + k * T_mod)| := by
  intro cfg dsp acq s T_mod
  have hs : s.d_sample_counter = 404003 := by
    dsimp only [s]
    rw [run_append, run_idle _ _ rfl]
    with_unfolding_all decide
  refine ⟨(Reachable.constructed (construct_constructed _ _)).run _, hs, fun k => ?_⟩
  have hT : T_mod = 630168000 / 157543 := by norm_num [T_mod, cfg, acq, gps_l1_ca_config]
  rw [hs, hT]
  simp only [acq, Nat.cast_zero, zero_add]
  rcases (show k ≤ 100 ∨ k = 101 ∨ 102 ≤ k by omega) with hk | rfl | hk
  · have hk' : (k : ℚ) ≤ 100 := by exact_mod_cast hk
    exact lt_abs.mpr (.inl (by push_cast; linarith))
  · norm_num [abs_of_pos]
  · have hk' : (102 : ℚ) ≤ k := by exact_mod_cast hk
    exact lt_abs.mpr (.inr (by push_cast; linarith))

end gnss_sdr.tracking
