import GnssSdr.Tracking.LocalCode

namespace gnss_sdr.tracking

variable {β σ : Type}

/-- `stop_tracking`: control message 2 on `d_queue` when there is one, and tracking
disabled. -/
def stop_tracking (cfg : Config) (s : Tracking β σ) : Tracking β σ × Option Nat :=
  ({ s with d_enable_tracking := false }, if cfg.d_queue then some 2 else none)

/-- The C/A table `start_tracking` builds: the code at indices `1..1023`, and the guard
chips `d_ca_code[0] = d_ca_code[1023]` and `d_ca_code[1024] = d_ca_code[1]`. -/
def ca_code_table (cfg : Config) (dsp : Dsp β σ) (prn : Nat) (d_ca_code : Int → β) :
    Int → β :=
  let code_length := cmath.trunc cfg.GPS_L1_CA_CODE_LENGTH_CHIPS
  let generated : Int → β := fun i =>
    if 1 ≤ i ∧ i ≤ 1023 then dsp.gps_l1_ca_code_gen_complex prn (i - 1).toNat else d_ca_code i
  let guarded : Int → β := fun i => if i = 0 then generated code_length else generated i
  fun i => if i = code_length + 1 then guarded 1 else guarded i

/-- `start_tracking`: the acquisition's code phase reprojected over the delay between
acquisition and tracking, the Doppler-corrected code frequency and block length, every
loop filter initialised, the remainders and accumulators cleared, the code table built,
and pull-in armed. Its `float` locals, from `radial_velocity` to `N_prn_diff`, are exact
rationals here, as every float and double of the model: the source rounds them to single
precision, which the reprojection scales by the delay in samples. -/
def start_tracking (cfg : Config) (dsp : Dsp β σ) (s : Tracking β σ) (acq : GnssSynchro) :
    Tracking β σ :=
  let d_acq_code_phase_samples := acq.Acq_delay_samples
  let d_acq_carrier_doppler_hz := acq.Acq_doppler_hz
  let d_acq_sample_stamp : Int := acq.Acq_samplestamp_samples
  let acq_trk_diff_samples := s.d_sample_counter - d_acq_sample_stamp
  let acq_trk_diff_seconds : ℚ := acq_trk_diff_samples / cfg.d_fs_in
  let radial_velocity := (cfg.GPS_L1_FREQ_HZ + d_acq_carrier_doppler_hz) / cfg.GPS_L1_FREQ_HZ
  let d_code_freq_chips := radial_velocity * cfg.GPS_L1_CA_CODE_RATE_HZ
  let T_chip_mod_seconds := 1 / d_code_freq_chips
  let T_prn_mod_seconds := T_chip_mod_seconds * cfg.GPS_L1_CA_CODE_LENGTH_CHIPS
  let T_prn_mod_samples := T_prn_mod_seconds * cfg.d_fs_in
  let T_prn_true_seconds := cfg.GPS_L1_CA_CODE_LENGTH_CHIPS / cfg.GPS_L1_CA_CODE_RATE_HZ
  let T_prn_true_samples := T_prn_true_seconds * cfg.d_fs_in
  let T_prn_diff_seconds := T_prn_true_seconds - T_prn_mod_seconds
  let N_prn_diff := acq_trk_diff_seconds / T_prn_true_seconds
  let corrected_acq_phase_samples := cmath.fmod
    (d_acq_code_phase_samples + T_prn_diff_seconds * N_prn_diff * cfg.d_fs_in) T_prn_true_samples
  let corrected_acq_phase_samples := if corrected_acq_phase_samples < 0
    then T_prn_mod_samples + corrected_acq_phase_samples else corrected_acq_phase_samples
  { s with
    d_acquisition_gnss_synchro := acq
    d_acq_code_phase_samples := corrected_acq_phase_samples
    d_acq_carrier_doppler_hz := d_acq_carrier_doppler_hz
    d_acq_sample_stamp := d_acq_sample_stamp
    d_code_freq_chips := d_code_freq_chips
    d_current_prn_length_samples := cmath.round T_prn_mod_samples
    d_current_prn_length_samples_m := cmath.round T_prn_mod_samples
    d_carrier_doppler_hz := d_acq_carrier_doppler_hz
    d_carrier_loop_filter := dsp.carrier_loop_filter.initial
    d_code_loop_filter := dsp.code_loop_filter.initial
    d_code_loop_filter_m := dsp.code_loop_filter.initial
    d_amplitude_loop_filter := dsp.amplitude_loop_filter.initial
    d_amplitude_loop_filter_m := dsp.amplitude_loop_filter.initial
    d_carrier_lock_fail_counter := 0
    d_rem_code_phase_samples := 0
    d_rem_code_phase_samples_m := 0
    d_rem_carr_phase_rad := 0
    d_acc_carrier_phase_rad := 0
    d_ca_code := ca_code_table cfg dsp acq.PRN s.d_ca_code
    d_pull_in := true
    d_enable_tracking := true }

/-- What a call hands to the outside: the item it emits (`none` for the pull-in call,
which returns one item it never writes), the samples it consumes, and the control
message it posts on `d_queue`. -/
structure Effects where
  record : Option GnssSynchro
  consumed : Int
  message : Option Nat
deriving DecidableEq

/-- The pull-in call: the input is shifted so that the next block starts on a code
epoch of the acquired signal. -/
def pull_in (s : Tracking β σ) : Tracking β σ × Effects :=
  let acq_to_trk_delay_samples := cmath.wrap_int32 (s.d_sample_counter - s.d_acq_sample_stamp)
  let acq_trk_shif_correction_samples := (s.d_current_prn_length_samples : ℚ) -
    cmath.fmod acq_to_trk_delay_samples s.d_current_prn_length_samples
  let samples_offset := cmath.round (s.d_acq_code_phase_samples + acq_trk_shif_correction_samples)
  ({ s with d_sample_counter := s.d_sample_counter + samples_offset, d_pull_in := false },
    ⟨none, samples_offset, none⟩)

theorem pull_in_d_sample_counter (s : Tracking β σ) :
    (pull_in s).1.d_sample_counter = s.d_sample_counter +
      cmath.round (s.d_acq_code_phase_samples + ((s.d_current_prn_length_samples : ℚ) -
        cmath.fmod (cmath.wrap_int32 (s.d_sample_counter - s.d_acq_sample_stamp) : ℤ)
          s.d_current_prn_length_samples)) := rfl

/-- The replicas a tracking call regenerates before correlating (using the Doppler of the
previous call). -/
def update_replicas (cfg : Config) (dsp : Dsp β σ) (s : Tracking β σ) : Tracking β σ :=
  let code := update_local_code cfg s
  let code_m := update_local_code_m cfg s
  { s with
    d_early_code := code.Early
    d_prompt_code := code.Prompt
    d_late_code := code.Late
    d_early_code_m := code_m.Early
    d_prompt_code_m := code_m.Prompt
    d_late_code_m := code_m.Late
    d_carr_sign := update_local_carrier cfg dsp s }

section update_replicas

variable (cfg : Config) (dsp : Dsp β σ) (s : Tracking β σ)

@[simp] theorem update_replicas_d_enable_tracking :
    (update_replicas cfg dsp s).d_enable_tracking = s.d_enable_tracking := rfl

end update_replicas

/-- The secondary prompt replica is rewritten only below the secondary block length:
from there on it keeps what earlier calls left. -/
theorem update_replicas_prompt_code_m_of_le (cfg : Config) (dsp : Dsp β σ) (s : Tracking β σ)
    {i : Nat} (h : s.d_current_prn_length_samples_m ≤ i) :
    (update_replicas cfg dsp s).d_prompt_code_m i = s.d_prompt_code_m i := by
  simp [update_replicas, update_local_code_m, code_replicas, not_lt.mpr h]

/-- The correlator outputs of a call: the plain correlator while `CADLL_init` holds (its
`corr` stays at 1.0), the CADLL one, with the secondary outputs and `corr`, after. The
secondary outputs are read only in CADLL mode. -/
def correlate (dsp : Dsp β σ) (s : Tracking β σ) (input : Nat → β) : Epl β × Epl β × ℚ :=
  let primary : Epl (Nat → β) := ⟨s.d_early_code, s.d_prompt_code, s.d_late_code⟩
  let secondary : Epl (Nat → β) := ⟨s.d_early_code_m, s.d_prompt_code_m, s.d_late_code_m⟩
  let cadll := dsp.Carrier_wipeoff_and_EPL_CADLL_volk s.d_current_prn_length_samples input
    s.d_carr_sign primary secondary s.a1 s.a2
  if s.CADLL_init then
    (dsp.Carrier_wipeoff_and_EPL_volk s.d_current_prn_length_samples input s.d_carr_sign primary,
      cadll.2.1, 1)
  else (cadll.1, cadll.2.1, cadll.2.2.1)

/-- A call whose prompt is NaN: every available sample is consumed and the acquisition
record is emitted flagged invalid, stamped at the new sample count. -/
def nan_block (cfg : Config) (s : Tracking β σ) (ninput_items : Nat) : Tracking β σ × Effects :=
  let d_sample_counter := s.d_sample_counter + ninput_items
  let record : GnssSynchro :=
    { s.d_acquisition_gnss_synchro with
      Prompt_I := 0
      Prompt_Q := 0
      Tracking_timestamp_secs := (d_sample_counter : ℚ) / cfg.d_fs_in
      Carrier_phase_rads := 0
      Code_phase_secs := 0
      CN0_dB_hz := 0
      Flag_valid_tracking := false }
  ({ s with d_sample_counter := d_sample_counter }, ⟨some record, ninput_items, none⟩)

/-- The loop updates of a steady-state call (lines 541-624): the PLL and both DLLs with
their filters, and the next block lengths from the remainders. -/
structure NcoUpdate (σ : Type) where
  d_carrier_loop_filter : σ
  d_carrier_doppler_hz : ℚ
  d_code_freq_chips : ℚ
  d_acc_carrier_phase_rad : ℚ
  d_rem_carr_phase_rad : ℚ
  d_code_loop_filter : σ
  code_error_filt_secs : ℚ
  d_code_loop_filter_m : σ
  code_error_filt_secs_m : ℚ
  T_prn_samples : ℚ
  K_blk_samples : ℚ
  K_blk_samples_m : ℚ

def nco_update (cfg : Config) (dsp : Dsp β σ) (s : Tracking β σ) (epl epl_m : Epl β) :
    NcoUpdate σ :=
  let carr_error_hz := dsp.pll_cloop_two_quadrant_atan epl.Prompt / cfg.GPS_TWO_PI
  let carrier := dsp.carrier_loop_filter.get_nco s.d_carrier_loop_filter carr_error_hz
  let d_carrier_doppler_hz := s.d_acq_carrier_doppler_hz + carrier.2
  let d_code_freq_chips := cfg.GPS_L1_CA_CODE_RATE_HZ +
    d_carrier_doppler_hz * cfg.GPS_L1_CA_CODE_RATE_HZ / cfg.GPS_L1_FREQ_HZ
  let carrier_phase_step := cfg.GPS_TWO_PI * d_carrier_doppler_hz * cfg.GPS_L1_CA_CODE_PERIOD
  let code := dsp.code_loop_filter.get_nco s.d_code_loop_filter
    (dsp.dll_nc_e_minus_l_normalized epl.Early epl.Late)
  let code_error_filt_secs := cfg.GPS_L1_CA_CODE_PERIOD * code.2 / cfg.GPS_L1_CA_CODE_RATE_HZ
  let code_m := dsp.code_loop_filter.get_nco s.d_code_loop_filter_m
    (dsp.dll_nc_e_minus_l_normalized epl_m.Early epl_m.Late)
  let code_error_filt_secs_m := cfg.GPS_L1_CA_CODE_PERIOD * code_m.2 / cfg.GPS_L1_CA_CODE_RATE_HZ
  let T_chip_seconds := 1 / d_code_freq_chips
  let T_prn_seconds := T_chip_seconds * cfg.GPS_L1_CA_CODE_LENGTH_CHIPS
  let T_prn_samples := T_prn_seconds * cfg.d_fs_in
  let K_blk_samples := T_prn_samples + s.d_rem_code_phase_samples +
    code_error_filt_secs * cfg.d_fs_in
  { d_carrier_loop_filter := carrier.1
    d_carrier_doppler_hz := d_carrier_doppler_hz
    d_code_freq_chips := d_code_freq_chips
    d_acc_carrier_phase_rad := s.d_acc_carrier_phase_rad + carrier_phase_step
    d_rem_carr_phase_rad := cmath.fmod (s.d_rem_carr_phase_rad + carrier_phase_step)
      cfg.GPS_TWO_PI
    d_code_loop_filter := code.1
    code_error_filt_secs := code_error_filt_secs
    d_code_loop_filter_m := if s.CADLL_init then s.d_code_loop_filter_m else code_m.1
    code_error_filt_secs_m := code_error_filt_secs_m
    T_prn_samples := T_prn_samples
    K_blk_samples := K_blk_samples
    K_blk_samples_m := if s.CADLL_init then K_blk_samples else
      T_prn_samples + s.d_rem_code_phase_samples_m + code_error_filt_secs_m * cfg.d_fs_in }

/-- The amplitude loops (lines 651-690): `a1` and `a2` and their filters' states. -/
def amplitude_update (dsp : Dsp β σ) (s : Tracking β σ) (epl epl_m : Epl β) (corr : ℚ) :
    σ × σ × ℚ × ℚ :=
  let d_input_power := corr
  if s.CADLL_init then
    let f_a1 := dsp.amplitude_loop_filter.get_nco s.d_amplitude_loop_filter (d_input_power / (99 / 100))
    (f_a1.1, s.d_amplitude_loop_filter_m, f_a1.2, f_a1.2 / 1.284025416687741)
  else
    let t := dsp.real epl.Prompt + dsp.real epl_m.Prompt
    let d := d_input_power / t
    let Z := d * dsp.real epl.Prompt
    let Z_m := d * dsp.real epl_m.Prompt
    let f_a1 := dsp.amplitude_loop_filter.get_nco s.d_amplitude_loop_filter (Z / (99 / 100))
    let f_a2 := dsp.amplitude_loop_filter.get_nco s.d_amplitude_loop_filter_m (Z_m / (99 / 100))
    (f_a1.1, f_a2.1, f_a1.2, f_a2.2)

/-- The loss-of-lock counter after an estimation: up when the carrier lock test or the
CN0 fails, otherwise down unless already zero. -/
def lock_fail_counter (d_carrier_lock_test d_CN0_SNV_dB_Hz : ℚ)
    (d_carrier_lock_fail_counter : Int) : Int :=
  if d_carrier_lock_test < CARRIER_LOCK_THRESHOLD ∨ d_CN0_SNV_dB_Hz < MINIMUM_VALID_CN0
  then d_carrier_lock_fail_counter + 1
  else if 0 < d_carrier_lock_fail_counter then d_carrier_lock_fail_counter - 1
  else d_carrier_lock_fail_counter

/-- CN0 estimation and the lock detector (lines 703-738): the prompt is buffered until
`CN0_ESTIMATION_SAMPLES` are held; the next call evaluates the estimators, moves the
lock-fail counter, and on loss of lock posts message 2 and disables tracking. -/
def lock_detector (cfg : Config) (dsp : Dsp β σ) (s : Tracking β σ) (prompt : β) :
    Tracking β σ × Option Nat :=
  if s.d_cn0_estimation_counter < CN0_ESTIMATION_SAMPLES then
    ({ s with
      d_Prompt_buffer := Function.update s.d_Prompt_buffer s.d_cn0_estimation_counter prompt
      d_cn0_estimation_counter := s.d_cn0_estimation_counter + 1 }, none)
  else
    let d_CN0_SNV_dB_Hz := dsp.cn0_svn_estimator s.d_Prompt_buffer
    let d_carrier_lock_test := dsp.carrier_lock_detector s.d_Prompt_buffer
    let fail := lock_fail_counter d_carrier_lock_test d_CN0_SNV_dB_Hz s.d_carrier_lock_fail_counter
    let s := { s with d_cn0_estimation_counter := 0, d_CN0_SNV_dB_Hz := d_CN0_SNV_dB_Hz }
    if MAXIMUM_LOCK_FAIL_COUNTER < fail then
      ({ s with d_carrier_lock_fail_counter := 0, d_enable_tracking := false },
        if cfg.d_queue then some 2 else none)
    else ({ s with d_carrier_lock_fail_counter := fail }, none)

/-- A steady-state call once the correlators are known and the prompt is not NaN: the
loops, the lock detector, the record stamped at the current PRN start, the remainders
after it, the one-shot promotion to CADLL mode, and the block consumed. -/
def track (cfg : Config) (dsp : Dsp β σ) (s : Tracking β σ) (epl epl_m : Epl β) (corr : ℚ) :
    Tracking β σ × Effects :=
  let nco := nco_update cfg dsp s epl epl_m
  let d_current_prn_length_samples := cmath.round nco.K_blk_samples
  let d_current_prn_length_samples_m := cmath.round nco.K_blk_samples_m
  let amplitude := amplitude_update dsp s epl epl_m corr
  let locked := lock_detector cfg dsp s epl.Prompt
  let Tracking_timestamp_secs :=
    ((s.d_sample_counter : ℚ) + s.d_rem_code_phase_samples) / cfg.d_fs_in
  let d_rem_code_phase_samples := nco.K_blk_samples - d_current_prn_length_samples
  let promote := s.CADLL_init && decide (1 < Tracking_timestamp_secs)
  let record : GnssSynchro :=
    { s.d_acquisition_gnss_synchro with
      Prompt_I := dsp.real epl.Prompt
      Prompt_Q := dsp.imag epl.Prompt
      Tracking_timestamp_secs := Tracking_timestamp_secs
      Code_phase_secs := 0
      Carrier_phase_rads := nco.d_acc_carrier_phase_rad
      Carrier_Doppler_hz := nco.d_carrier_doppler_hz
      CN0_dB_hz := locked.1.d_CN0_SNV_dB_Hz }
  ({ locked.1 with
      d_carrier_loop_filter := nco.d_carrier_loop_filter
      d_carrier_doppler_hz := nco.d_carrier_doppler_hz
      d_code_freq_chips := nco.d_code_freq_chips
      d_acc_carrier_phase_rad := nco.d_acc_carrier_phase_rad
      d_rem_carr_phase_rad := nco.d_rem_carr_phase_rad
      d_code_loop_filter := nco.d_code_loop_filter
      d_code_loop_filter_m := nco.d_code_loop_filter_m
      d_current_prn_length_samples := d_current_prn_length_samples
      d_current_prn_length_samples_m := d_current_prn_length_samples_m
      d_amplitude_loop_filter := amplitude.1
      d_amplitude_loop_filter_m := amplitude.2.1
      a1 := amplitude.2.2.1
      a2 := amplitude.2.2.2
      d_rem_code_phase_samples := d_rem_code_phase_samples
      d_rem_code_phase_samples_m := if promote then d_rem_code_phase_samples - 27
        else nco.K_blk_samples_m - d_current_prn_length_samples
      CADLL_init := s.CADLL_init && !promote
      d_sample_counter := s.d_sample_counter + d_current_prn_length_samples },
    ⟨some record, d_current_prn_length_samples, locked.2⟩)

section track

variable (cfg : Config) (dsp : Dsp β σ) (s : Tracking β σ) (epl epl_m : Epl β) (corr : ℚ)

theorem nco_update_K_blk_samples_m : (nco_update cfg dsp s epl epl_m).K_blk_samples_m =
    if s.CADLL_init then (nco_update cfg dsp s epl epl_m).K_blk_samples
    else (nco_update cfg dsp s epl epl_m).T_prn_samples + s.d_rem_code_phase_samples_m +
      (nco_update cfg dsp s epl epl_m).code_error_filt_secs_m * cfg.d_fs_in := rfl

/-- Whether a tracking call promotes to CADLL mode: `CADLL_init` still set and the
record's timestamp past one second. -/
def promotes (s : Tracking β σ) : Bool :=
  s.CADLL_init && decide (1 < ((s.d_sample_counter : ℚ) + s.d_rem_code_phase_samples) / cfg.d_fs_in)

theorem track_d_rem_code_phase_samples :
    (track cfg dsp s epl epl_m corr).1.d_rem_code_phase_samples =
      (nco_update cfg dsp s epl epl_m).K_blk_samples -
        cmath.round (nco_update cfg dsp s epl epl_m).K_blk_samples := rfl

theorem track_d_rem_carr_phase_rad :
    (track cfg dsp s epl epl_m corr).1.d_rem_carr_phase_rad =
      cmath.fmod (s.d_rem_carr_phase_rad + cfg.GPS_TWO_PI *
        (nco_update cfg dsp s epl epl_m).d_carrier_doppler_hz * cfg.GPS_L1_CA_CODE_PERIOD)
        cfg.GPS_TWO_PI := rfl

theorem track_d_acc_carrier_phase_rad :
    (track cfg dsp s epl epl_m corr).1.d_acc_carrier_phase_rad =
      s.d_acc_carrier_phase_rad + cfg.GPS_TWO_PI *
        (nco_update cfg dsp s epl epl_m).d_carrier_doppler_hz * cfg.GPS_L1_CA_CODE_PERIOD := rfl

theorem track_d_code_freq_chips :
    (track cfg dsp s epl epl_m corr).1.d_code_freq_chips =
      cfg.GPS_L1_CA_CODE_RATE_HZ + (track cfg dsp s epl epl_m corr).1.d_carrier_doppler_hz *
        cfg.GPS_L1_CA_CODE_RATE_HZ / cfg.GPS_L1_FREQ_HZ := rfl

theorem track_d_rem_code_phase_samples_m :
    (track cfg dsp s epl epl_m corr).1.d_rem_code_phase_samples_m =
      if promotes cfg s then
        (nco_update cfg dsp s epl epl_m).K_blk_samples -
          cmath.round (nco_update cfg dsp s epl epl_m).K_blk_samples - 27
      else (nco_update cfg dsp s epl epl_m).K_blk_samples_m -
        cmath.round (nco_update cfg dsp s epl epl_m).K_blk_samples := rfl

theorem track_d_current_prn_length_samples :
    (track cfg dsp s epl epl_m corr).1.d_current_prn_length_samples =
      cmath.round (nco_update cfg dsp s epl epl_m).K_blk_samples := rfl

theorem track_d_current_prn_length_samples_m :
    (track cfg dsp s epl epl_m corr).1.d_current_prn_length_samples_m =
      cmath.round (nco_update cfg dsp s epl epl_m).K_blk_samples_m := rfl

theorem track_CADLL_init :
    (track cfg dsp s epl epl_m corr).1.CADLL_init = (s.CADLL_init && !promotes cfg s) := rfl

end track

/-- A call while tracking is disabled: the acquisition record is emitted as it is and a
block of the current length consumed. -/
def idle (s : Tracking β σ) : Tracking β σ × Effects :=
  ({ s with d_sample_counter := s.d_sample_counter + s.d_current_prn_length_samples },
    ⟨some s.d_acquisition_gnss_synchro, s.d_current_prn_length_samples, none⟩)

/-- `Gps_L1_Ca_Dll_Pll_CADLL_Tracking_cc::general_work` on an input block of
`ninput_items` samples. -/
def general_work (cfg : Config) (dsp : Dsp β σ) (s : Tracking β σ) (ninput_items : Nat)
    (input : Nat → β) : Tracking β σ × Effects :=
  if s.d_enable_tracking then
    if s.d_pull_in then pull_in s
    else
      let s := update_replicas cfg dsp s
      let c := correlate dsp s input
      if dsp.isnan c.1.Prompt then nan_block cfg s ninput_items
      else track cfg dsp s c.1 c.2.1 c.2.2
  else idle s

/-- A steady-state call: tracking enabled, pull-in done, and a prompt that is not NaN. -/
def Steady (cfg : Config) (dsp : Dsp β σ) (s : Tracking β σ) (input : Nat → β) : Prop :=
  s.d_enable_tracking = true ∧ s.d_pull_in = false ∧
    dsp.isnan (correlate dsp (update_replicas cfg dsp s) input).1.Prompt = false

instance (cfg : Config) (dsp : Dsp β σ) (s : Tracking β σ) (input : Nat → β) :
    Decidable (Steady cfg dsp s input) :=
  inferInstanceAs (Decidable (_ ∧ _ ∧ _))

/-- Everything a `general_work` call can do: idle while disabled, pull in, drop a NaN
block, or track. -/
theorem general_work_cases (cfg : Config) (dsp : Dsp β σ) (s : Tracking β σ)
    (ninput_items : Nat) (input : Nat → β) :
    (s.d_enable_tracking = false ∧ general_work cfg dsp s ninput_items input = idle s) ∨
    (s.d_enable_tracking = true ∧ s.d_pull_in = true ∧
      general_work cfg dsp s ninput_items input = pull_in s) ∨
    (s.d_enable_tracking = true ∧ s.d_pull_in = false ∧
      general_work cfg dsp s ninput_items input =
        nan_block cfg (update_replicas cfg dsp s) ninput_items) ∨
    (Steady cfg dsp s input ∧
      let c := correlate dsp (update_replicas cfg dsp s) input
      general_work cfg dsp s ninput_items input =
        track cfg dsp (update_replicas cfg dsp s) c.1 c.2.1 c.2.2) := by
  unfold general_work Steady
  by_cases hen : s.d_enable_tracking <;> by_cases hpull : s.d_pull_in <;>
    by_cases hnan : dsp.isnan (correlate dsp (update_replicas cfg dsp s) input).1.Prompt <;>
    simp [hen, hpull, hnan]

theorem general_work_of_steady {cfg : Config} {dsp : Dsp β σ} {s : Tracking β σ}
    {input : Nat → β} (h : Steady cfg dsp s input) (ninput_items : Nat) :
    let c := correlate dsp (update_replicas cfg dsp s) input
    general_work cfg dsp s ninput_items input =
      track cfg dsp (update_replicas cfg dsp s) c.1 c.2.1 c.2.2 := by
  obtain ⟨hen, hpull, hnan⟩ := h
  simp [general_work, hen, hpull, hnan]

/-- The calls a channel makes on the block. -/
inductive Op (β : Type)
  | start_tracking (acq : GnssSynchro)
  | stop_tracking
  | general_work (ninput_items : Nat) (input : Nat → β)

/-- One call, with its effects. -/
def step (cfg : Config) (dsp : Dsp β σ) (s : Tracking β σ) : Op β → Tracking β σ × Effects
  | .start_tracking acq => (start_tracking cfg dsp s acq, ⟨none, 0, none⟩)
  | .stop_tracking => ((stop_tracking cfg s).1, ⟨none, 0, (stop_tracking cfg s).2⟩)
  | .general_work ninput_items input => general_work cfg dsp s ninput_items input

/-- The states a constructed block reaches through any sequence of calls. -/
inductive Reachable (cfg : Config) (dsp : Dsp β σ) : Tracking β σ → Prop
  | constructed {s : Tracking β σ} (h : s.Constructed cfg) : Reachable cfg dsp s
  | step {s : Tracking β σ} (op : Op β) (hs : Reachable cfg dsp s) :
      Reachable cfg dsp (step cfg dsp s op).1

/-- A sequence of calls: the final state and every call's effects, in order. -/
def run (cfg : Config) (dsp : Dsp β σ) : Tracking β σ → List (Op β) → Tracking β σ × List Effects
  | s, [] => (s, [])
  | s, op :: ops =>
    let r := step cfg dsp s op
    let t := run cfg dsp r.1 ops
    (t.1, r.2 :: t.2)

theorem run_append (cfg : Config) (dsp : Dsp β σ) (s : Tracking β σ) (ops ops' : List (Op β)) :
    run cfg dsp s (ops ++ ops') =
      ((run cfg dsp (run cfg dsp s ops).1 ops').1,
        (run cfg dsp s ops).2 ++ (run cfg dsp (run cfg dsp s ops).1 ops').2) := by
  induction ops generalizing s with
  | nil => rfl
  | cons op ops ih => simp [run, ih]

/-- While tracking is disabled, every call consumes a block of the current length and
emits the acquisition record: the sample counter advances by whole blocks. -/
theorem run_idle (cfg : Config) (dsp : Dsp β σ) {s : Tracking β σ}
    (hs : s.d_enable_tracking = false) (n ninput_items : Nat) (input : Nat → β) :
    run cfg dsp s (List.replicate n (.general_work ninput_items input)) =
      ({ s with d_sample_counter := s.d_sample_counter + n * s.d_current_prn_length_samples },
        List.replicate n ⟨some s.d_acquisition_gnss_synchro, s.d_current_prn_length_samples, none⟩) := by
  induction n generalizing s with
  | zero => simp [run]
  | succ n ih =>
    have hstep : step cfg dsp s (.general_work ninput_items input) = idle s := by
      simp [step, general_work, hs]
    rw [List.replicate_succ, run, hstep, ih (s := (idle s).1) hs]
    simp only [idle, List.replicate_succ, Prod.mk.injEq, and_true]
    congr 1
    push_cast
    ring

/-- Every state a run from a reachable state ends in is reachable. -/
theorem Reachable.run {cfg : Config} {dsp : Dsp β σ} {s : Tracking β σ}
    (hs : Reachable cfg dsp s) (ops : List (Op β)) : Reachable cfg dsp (run cfg dsp s ops).1 := by
  induction ops generalizing s with
  | nil => exact hs
  | cons op ops ih => exact ih (hs.step op)

end gnss_sdr.tracking
