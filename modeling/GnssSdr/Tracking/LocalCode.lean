import GnssSdr.Tracking.State

namespace gnss_sdr.tracking

variable {β σ : Type}

/-- A replica loop: `n` samples `f phase`, the phase starting at `phase` and advancing
by `step` after each sample (`tcode_chips` in the code replicas, `phase_rad` in the
carrier replica). -/
def phase_loop (f : ℚ → β) (step : ℚ) : Nat → ℚ → List β
  | 0, _ => []
  | n + 1, phase => f phase :: phase_loop f step n (phase + step)

/-- `memcpy`-style write of a list at the start of a buffer: the rest keeps its
contents. -/
def write_prefix (buf : Nat → β) (l : List β) : Nat → β :=
  fun i => l.getD i (buf i)

/-- The table index `update_local_code` reads at code phase `tcode_chips`. -/
def associated_chip_index (cfg : Config) (tcode_chips : ℚ) : Int :=
  1 + cmath.round (cmath.fmod (tcode_chips - cfg.d_early_late_spc_chips)
    (cmath.trunc cfg.GPS_L1_CA_CODE_LENGTH_CHIPS))

/-- The index `update_local_code_m` reads: the same, with a negative index wrapped by
1023. -/
def associated_chip_index_m (cfg : Config) (tcode_chips : ℚ) : Int :=
  let associated_chip_index := associated_chip_index cfg tcode_chips
  if associated_chip_index < 0 then 1023 + associated_chip_index else associated_chip_index

/-- The early-late spacing in samples at code frequency `d_code_freq_chips`. -/
def early_late_spc_samples (cfg : Config) (d_code_freq_chips : ℚ) : Int :=
  cmath.round (cfg.d_early_late_spc_chips / (d_code_freq_chips / cfg.d_fs_in))

/-- The code phase, in chips, at which the replica loop takes its `i`-th sample: it
starts `rem_code_phase_samples` samples before the block and steps by one sample. -/
def replica_code_phase (cfg : Config) (d_code_freq_chips rem_code_phase_samples : ℚ)
    (i : Nat) : ℚ :=
  -(rem_code_phase_samples * (d_code_freq_chips / cfg.d_fs_in)) +
    i * (d_code_freq_chips / cfg.d_fs_in)

/-- The early, prompt and late code replicas both generators write, from the remainder
`rem_code_phase_samples` and the block length `current_prn_length_samples` they read and
the table index they use: the early buffer gets `current_prn_length_samples + 2·spc`
samples, and the prompt and late buffers the slices of it that start `spc` and `2·spc`
samples later. -/
def code_replicas (cfg : Config) (index : ℚ → Int) (d_ca_code : Int → β)
    (d_code_freq_chips rem_code_phase_samples : ℚ) (current_prn_length_samples : Int)
    (early prompt late : Nat → β) : Epl (Nat → β) :=
  let code_phase_step_chips := d_code_freq_chips / cfg.d_fs_in
  let rem_code_phase_chips := rem_code_phase_samples * (d_code_freq_chips / cfg.d_fs_in)
  let tcode_chips := -rem_code_phase_chips
  let early_late_spc_samples := early_late_spc_samples cfg d_code_freq_chips
  let epl_loop_length_samples := current_prn_length_samples + early_late_spc_samples * 2
  let early := write_prefix early
    (phase_loop (fun t => d_ca_code (index t)) code_phase_step_chips
      epl_loop_length_samples.toNat tcode_chips)
  { Early := early
    Prompt := fun i => if (i : Int) < current_prn_length_samples
      then early (early_late_spc_samples + i).toNat else prompt i
    Late := fun i => if (i : Int) < current_prn_length_samples
      then early (early_late_spc_samples * 2 + i).toNat else late i }

/-- `update_local_code`: the primary replicas from `d_rem_code_phase_samples` and
`d_current_prn_length_samples`. -/
def update_local_code (cfg : Config) (s : Tracking β σ) : Epl (Nat → β) :=
  code_replicas cfg (associated_chip_index cfg) s.d_ca_code s.d_code_freq_chips
    s.d_rem_code_phase_samples s.d_current_prn_length_samples
    s.d_early_code s.d_prompt_code s.d_late_code

/-- `update_local_code_m`: the secondary replicas from `d_rem_code_phase_samples_m` and
`d_current_prn_length_samples_m`, with the wrapped index. -/
def update_local_code_m (cfg : Config) (s : Tracking β σ) : Epl (Nat → β) :=
  code_replicas cfg (associated_chip_index_m cfg) s.d_ca_code s.d_code_freq_chips
    s.d_rem_code_phase_samples_m s.d_current_prn_length_samples_m
    s.d_early_code_m s.d_prompt_code_m s.d_late_code_m

/-- `update_local_carrier`: `d_current_prn_length_samples` samples of the carrier
replica from `d_rem_carr_phase_rad`, stepping by `2π·d_carrier_doppler_hz/fs_in`. -/
def update_local_carrier (cfg : Config) (dsp : Dsp β σ) (s : Tracking β σ) : Nat → β :=
  let phase_step_rad := cfg.GPS_TWO_PI * s.d_carrier_doppler_hz / cfg.d_fs_in
  write_prefix s.d_carr_sign
    (phase_loop dsp.carrier_replica phase_step_rad s.d_current_prn_length_samples.toNat
      s.d_rem_carr_phase_rad)

theorem length_phase_loop (f : ℚ → β) (step : ℚ) (n : Nat) (phase : ℚ) :
    (phase_loop f step n phase).length = n := by
  induction n generalizing phase with
  | zero => rfl
  | succ n ih => simp [phase_loop, ih]

/-- The `i`-th sample of a replica loop is taken at phase `phase + i·step`: the
accumulated phase has no drift in exact arithmetic. -/
theorem getD_phase_loop (f : ℚ → β) (step : ℚ) {n i : Nat} (hi : i < n) (phase : ℚ) (d : β) :
    (phase_loop f step n phase).getD i d = f (phase + i * step) := by
  induction n generalizing i phase with
  | zero => omega
  | succ n ih =>
    cases i with
    | zero => simp [phase_loop]
    | succ i =>
      rw [phase_loop, List.getD_cons_succ, ih (by omega)]
      push_cast
      ring_nf

/-- Two replica loops whose sample functions agree at every phase they visit write the
same samples. -/
theorem phase_loop_congr {f g : ℚ → β} (step : ℚ) (n : Nat) (phase : ℚ)
    (h : ∀ i < n, f (phase + i * step) = g (phase + i * step)) :
    phase_loop f step n phase = phase_loop g step n phase := by
  induction n generalizing phase with
  | zero => rfl
  | succ n ih =>
    have h0 := h 0 (Nat.succ_pos n)
    simp only [Nat.cast_zero, zero_mul, add_zero] at h0
    rw [phase_loop, phase_loop, h0, ih]
    intro i hi
    have := h (i + 1) (by omega)
    push_cast at this
    rwa [show phase + step + i * step = phase + (i + 1) * step by ring]

/-- The `i`-th early sample inside the loop is the table entry at the sample's code
phase. -/
theorem code_replicas_early (cfg : Config) (index : ℚ → Int) (d_ca_code : Int → β)
    (d_code_freq_chips rem_code_phase_samples : ℚ) (current_prn_length_samples : Int)
    (early prompt late : Nat → β) {i : Nat}
    (hi : i < (current_prn_length_samples + early_late_spc_samples cfg d_code_freq_chips * 2).toNat) :
    (code_replicas cfg index d_ca_code d_code_freq_chips rem_code_phase_samples
      current_prn_length_samples early prompt late).Early i =
      d_ca_code (index (replica_code_phase cfg d_code_freq_chips rem_code_phase_samples i)) := by
  simp only [code_replicas, write_prefix, getD_phase_loop _ _ hi, replica_code_phase]

/-- With a nonnegative spacing, the prompt and late samples of the block are the early
samples `spc` and `2·spc` further on. -/
theorem code_replicas_prompt_late (cfg : Config) (index : ℚ → Int) (d_ca_code : Int → β)
    (d_code_freq_chips rem_code_phase_samples : ℚ) (current_prn_length_samples : Int)
    (early prompt late : Nat → β) (hspc : 0 ≤ early_late_spc_samples cfg d_code_freq_chips)
    {i : Nat} (hi : (i : Int) < current_prn_length_samples) :
    let r := code_replicas cfg index d_ca_code d_code_freq_chips rem_code_phase_samples
      current_prn_length_samples early prompt late
    r.Prompt i = r.Early ((early_late_spc_samples cfg d_code_freq_chips).toNat + i) ∧
      r.Late i = r.Early (2 * (early_late_spc_samples cfg d_code_freq_chips).toNat + i) := by
  simp only [code_replicas, if_pos hi]
  constructor <;> congr 1 <;> omega

/-- The secondary index is the primary one wherever the primary is not negative. -/
theorem associated_chip_index_m_of_nonneg (cfg : Config) {tcode_chips : ℚ}
    (h : 0 ≤ associated_chip_index cfg tcode_chips) :
    associated_chip_index_m cfg tcode_chips = associated_chip_index cfg tcode_chips := by
  simp [associated_chip_index_m, not_lt.mpr h]

end gnss_sdr.tracking
