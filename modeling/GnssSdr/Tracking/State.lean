import GnssSdr.Numerics

namespace gnss_sdr.tracking

/-- The `Gnss_Synchro` fields the tracking block reads from the acquisition record or
writes into the record it emits. -/
structure GnssSynchro where
  PRN : Nat
  Acq_delay_samples : ℚ
  Acq_doppler_hz : ℚ
  Acq_samplestamp_samples : Nat
  Flag_valid_tracking : Bool
  Prompt_I : ℚ
  Prompt_Q : ℚ
  Tracking_timestamp_secs : ℚ
  Carrier_phase_rads : ℚ
  Code_phase_secs : ℚ
  Carrier_Doppler_hz : ℚ
  CN0_dB_hz : ℚ
deriving DecidableEq, Repr, Inhabited

/-- The early, prompt and late outputs of one set of correlators. -/
structure Epl (β : Type) where
  Early : β
  Prompt : β
  Late : β
deriving Inhabited

/-- A loop filter (`d_carrier_loop_filter`, `d_code_loop_filter`, ...): the state its
`initialize()` leaves, and one `get_*_nco` step, whose state survives across PRN
periods. -/
structure LoopFilter (σ : Type) where
  initial : σ
  get_nco : σ → ℚ → σ × ℚ
deriving Inhabited

/-- The signal-processing routines `general_work` and `start_tracking` call from files
outside this component: the volk correlators, the discriminators, the loop filters, the
lock detectors, the C/A code generator and the carrier replica's cosine and sine. The
block is modelled for every choice of them. `β` stands for `gr_complex`, read through
`real`, `imag` and `std::isnan`; `σ` for a loop filter's state. -/
structure Dsp (β σ : Type) where
  real : β → ℚ
  imag : β → ℚ
  isnan : β → Bool
  gps_l1_ca_code_gen_complex : Nat → Nat → β
  carrier_replica : ℚ → β
  Carrier_wipeoff_and_EPL_volk : Int → (Nat → β) → (Nat → β) → Epl (Nat → β) → Epl β
  Carrier_wipeoff_and_EPL_CADLL_volk : Int → (Nat → β) → (Nat → β) → Epl (Nat → β) →
    Epl (Nat → β) → ℚ → ℚ → Epl β × Epl β × ℚ × ℚ
  pll_cloop_two_quadrant_atan : β → ℚ
  dll_nc_e_minus_l_normalized : β → β → ℚ
  carrier_loop_filter : LoopFilter σ
  code_loop_filter : LoopFilter σ
  amplitude_loop_filter : LoopFilter σ
  cn0_svn_estimator : (Nat → β) → ℚ
  carrier_lock_detector : (Nat → β) → ℚ
deriving Inhabited

/-- The construction parameters, with the `GPS_L1_CA.h` constants the block uses: that
header is not among the sources, so its values are parameters too. -/
structure Config where
  d_fs_in : Int
  d_vector_length : Nat
  d_early_late_spc_chips : ℚ
  d_queue : Bool
  GPS_L1_FREQ_HZ : ℚ
  GPS_L1_CA_CODE_RATE_HZ : ℚ
  GPS_L1_CA_CODE_LENGTH_CHIPS : ℚ
  GPS_L1_CA_CODE_PERIOD : ℚ
  GPS_TWO_PI : ℚ

/-- `#define`s of the tracking source. -/
def CN0_ESTIMATION_SAMPLES : Nat := 20
def MINIMUM_VALID_CN0 : ℚ := 25
def MAXIMUM_LOCK_FAIL_COUNTER : Int := 50
def CARRIER_LOCK_THRESHOLD : ℚ := 85 / 100

/-- The members of `Gps_L1_Ca_Dll_Pll_CADLL_Tracking_cc` that `start_tracking`,
`stop_tracking` and `general_work` read or write, with the record the channel's
acquisition filled. The replica buffers and the code table are functions from indices
to samples; an index the code never writes holds whatever the memory held. -/
structure Tracking (β σ : Type) where
  d_acquisition_gnss_synchro : GnssSynchro
  d_enable_tracking : Bool
  d_pull_in : Bool
  CADLL_init : Bool
  d_acq_code_phase_samples : ℚ
  d_acq_carrier_doppler_hz : ℚ
  d_acq_sample_stamp : Int
  d_sample_counter : Int
  d_code_freq_chips : ℚ
  d_carrier_doppler_hz : ℚ
  d_rem_code_phase_samples : ℚ
  d_rem_code_phase_samples_m : ℚ
  d_current_prn_length_samples : Int
  d_current_prn_length_samples_m : Int
  d_rem_carr_phase_rad : ℚ
  d_acc_carrier_phase_rad : ℚ
  a1 : ℚ
  a2 : ℚ
  d_carrier_loop_filter : σ
  d_code_loop_filter : σ
  d_code_loop_filter_m : σ
  d_amplitude_loop_filter : σ
  d_amplitude_loop_filter_m : σ
  d_cn0_estimation_counter : Nat
  d_Prompt_buffer : Nat → β
  d_CN0_SNV_dB_Hz : ℚ
  d_carrier_lock_fail_counter : Int
  d_ca_code : Int → β
  d_early_code : Nat → β
  d_prompt_code : Nat → β
  d_late_code : Nat → β
  d_early_code_m : Nat → β
  d_prompt_code_m : Nat → β
  d_late_code_m : Nat → β
  d_carr_sign : Nat → β
deriving Inhabited

/-- What the constructor sets: the code frequency, the remainders, the counters, the
flags and both block lengths. Every other member keeps whatever it held (the header,
where `CADLL_init` would be given its first value, is not among the sources). -/
structure Tracking.Constructed {β σ : Type} (cfg : Config) (s : Tracking β σ) : Prop where
  d_code_freq_chips : s.d_code_freq_chips = cfg.GPS_L1_CA_CODE_RATE_HZ
  d_rem_code_phase_samples : s.d_rem_code_phase_samples = 0
  d_rem_code_phase_samples_m : s.d_rem_code_phase_samples_m = 0
  d_rem_carr_phase_rad : s.d_rem_carr_phase_rad = 0
  d_sample_counter : s.d_sample_counter = 0
  d_acq_sample_stamp : s.d_acq_sample_stamp = 0
  d_enable_tracking : s.d_enable_tracking = false
  d_pull_in : s.d_pull_in = false
  d_current_prn_length_samples : s.d_current_prn_length_samples = cfg.d_vector_length
  d_current_prn_length_samples_m : s.d_current_prn_length_samples_m = cfg.d_vector_length
  d_cn0_estimation_counter : s.d_cn0_estimation_counter = 0
  d_CN0_SNV_dB_Hz : s.d_CN0_SNV_dB_Hz = 0
  d_carrier_lock_fail_counter : s.d_carrier_lock_fail_counter = 0

/-- The constructor's initialisations over the block's `memory`: every member it does
not set keeps what the memory held. -/
def construct {β σ : Type} (cfg : Config) (memory : Tracking β σ) : Tracking β σ :=
  { memory with
    d_code_freq_chips := cfg.GPS_L1_CA_CODE_RATE_HZ
    d_rem_code_phase_samples := 0
    d_rem_code_phase_samples_m := 0
    d_rem_carr_phase_rad := 0
    d_sample_counter := 0
    d_acq_sample_stamp := 0
    d_enable_tracking := false
    d_pull_in := false
    d_current_prn_length_samples := cfg.d_vector_length
    d_current_prn_length_samples_m := cfg.d_vector_length
    d_cn0_estimation_counter := 0
    d_CN0_SNV_dB_Hz := 0
    d_carrier_lock_fail_counter := 0 }

theorem construct_constructed {β σ : Type} (cfg : Config) (memory : Tracking β σ) :
    (construct cfg memory).Constructed cfg :=
  ⟨rfl, rfl, rfl, rfl, rfl, rfl, rfl, rfl, rfl, rfl, rfl, rfl, rfl⟩

/-- A block sampling at `d_fs_in`, with the values `GPS_L1_CA.h` gives the GPS L1 C/A
constants, a half-chip early-late spacing and a channel queue. -/
def gps_l1_ca_config (d_fs_in : Int) (d_vector_length : Nat) : Config where
  d_fs_in := d_fs_in
  d_vector_length := d_vector_length
  d_early_late_spc_chips := 1 / 2
  d_queue := true
  GPS_L1_FREQ_HZ := 1575420000
  GPS_L1_CA_CODE_RATE_HZ := 1023000
  GPS_L1_CA_CODE_LENGTH_CHIPS := 1023
  GPS_L1_CA_CODE_PERIOD := 1 / 1000
  GPS_TWO_PI := 6.283185307179586

end gnss_sdr.tracking
