import Mathlib
import GnssSdr.Numerics

namespace gnss_sdr.acquisition

/-- The parameters of a `pcps_sd_acquisition_cc` block: constructor arguments, the
setters the channel calls before `init`, and the bin count `init` leaves in
`d_num_doppler_bins`. Every dwell reduces indices modulo `d_samples_per_code`, an
unsigned division that is undefined for zero, so a configuration carries its
positivity; `max_dwells` is an `unsigned int`, so it carries its range. Floats are
modelled by an ordered field `α`. -/
structure Config (α : Type) where
  d_fft_size : Nat
  d_samples_per_code : Nat
  d_doppler_max : Nat
  d_doppler_step : Nat
  d_num_doppler_bins : Nat
  d_max_dwells : Nat
  d_bit_transition_flag : Bool
  d_peak : Nat
  d_threshold : α
  samples_per_code_pos : 0 < d_samples_per_code
  max_dwells_lt : d_max_dwells < 2 ^ 32 := by decide

/-- The Doppler of bin `doppler_index` as `init` and `general_work` compute it,
`-(int)d_doppler_max + d_doppler_step*doppler_index`: the sum is formed in
unsigned 32-bit arithmetic and read back as an `int`. -/
def Config.bin_doppler {α : Type} (cfg : Config α) (doppler_index : Nat) : Int :=
  cmath.wrap_int32 (-(cfg.d_doppler_max : Int) + cfg.d_doppler_step * doppler_index)

/-- What one dwell of `general_work` reads from its input block: the mean power
that becomes `d_input_power` and, for each Doppler bin and index, the squared
magnitude `volk_32fc_magnitude_squared_32f` leaves in `d_magnitude` after the
FFT-based correlation. Both are squared magnitudes of one block: they are
nonnegative, and a block of power zero is all zero and correlates to zero. -/
structure DwellData (α : Type) [LinearOrderedField α] where
  power : α
  magnitude : Nat → Nat → α
  power_nonneg : 0 ≤ power
  magnitude_nonneg : ∀ k i, 0 ≤ magnitude k i
  magnitude_eq_zero : power = 0 → ∀ k i, magnitude k i = 0

/-- The members of `pcps_sd_acquisition_cc` that `general_work` reads or writes,
with the three `Acq_*` fields of the shared `Gnss_Synchro` record it fills.
`d_mag_2nd_highest` is written but never read and is left out. -/
structure PcpsSdAcquisition (α : Type) where
  d_state : Nat
  d_active : Bool
  d_well_count : Nat
  d_sample_counter : Nat
  d_mag : α
  d_input_power : α
  d_test_statistics : α
  Acq_delay_samples : Nat
  Acq_doppler_hz : Int
  Acq_samplestamp_samples : Nat

/-- The values of one entry of the `peaks` map: its `"code phase"`, `"doppler"`
and `"sample counter"` keys. -/
structure Peak where
  code_phase : Nat
  doppler : Int
  sample_counter : Nat
deriving DecidableEq, Repr

/-- A peak taken from a bin below `d_num_doppler_bins` at the given sample counter. -/
def Peak.Valid {α : Type} (cfg : Config α) (sample_counter : Nat) (p : Peak) : Prop :=
  p.code_phase < cfg.d_samples_per_code ∧
    (∃ k < cfg.d_num_doppler_bins, p.doppler = cfg.bin_doppler k) ∧
    p.sample_counter = sample_counter

/-- The shared record holds a code phase below `samples_per_code` and the Doppler of
one of the bins the search visits. -/
def PcpsSdAcquisition.RecordValid {α : Type} (cfg : Config α) (s : PcpsSdAcquisition α) :
    Prop :=
  s.Acq_delay_samples < cfg.d_samples_per_code ∧
    ∃ k < cfg.d_num_doppler_bins, s.Acq_doppler_hz = cfg.bin_doppler k

end gnss_sdr.acquisition
