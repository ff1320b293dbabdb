import GnssSdr.Acquisition.State

namespace gnss_sdr.acquisition

variable {α : Type} [LinearOrderedField α]

/-- `volk_32f_index_max_16u` in the API the block calls it through, with an `unsigned int`
target: the first index of the largest of the `num_points` values, `0` when there are
none. -/
def volk_32f_index_max_16u (src0 : Nat → α) (num_points : Nat) : Nat :=
  (List.range' 1 (num_points - 1)).foldl
    (fun index i => if src0 index < src0 i then i else index) 0

/-- `peaks[key] = value` on the `std::map` keyed by normalised magnitude, kept as a
list sorted by increasing key: an existing key is overwritten. -/
def map_assign (key : α) (value : Peak) : List (α × Peak) → List (α × Peak)
  | [] => [(key, value)]
  | e :: rest =>
    if key < e.1 then (key, value) :: e :: rest
    else if key = e.1 then (key, value) :: rest
    else e :: map_assign key value rest

/-- The index `volk_32f_index_max_16u` returns for bin `doppler_index`. -/
def bin_indext (cfg : Config α) (data : DwellData α) (doppler_index : Nat) : Nat :=
  volk_32f_index_max_16u (data.magnitude doppler_index) cfg.d_fft_size

/-- The squared FFT size `fft_normalization_factor`; magnitudes are divided by its square. -/
def Config.fft_normalization_factor (cfg : Config α) : α :=
  (cfg.d_fft_size : α) * cfg.d_fft_size

/-- `magt`: the bin's largest magnitude, normalised by `fft_size⁴`. -/
def bin_magt (cfg : Config α) (data : DwellData α) (doppler_index : Nat) : α :=
  data.magnitude doppler_index (bin_indext cfg data doppler_index) /
    (cfg.fft_normalization_factor * cfg.fft_normalization_factor)

/-- Step 4 of the search for one bin: a peak beating `d_mag` becomes `d_mag`, and it
also replaces the record and `d_test_statistics` unless, in bit-transition mode,
its ratio does not beat the statistic kept from earlier dwells. -/
def record_maximum (cfg : Config α) (data : DwellData α) (s : PcpsSdAcquisition α)
    (doppler_index : Nat) : PcpsSdAcquisition α :=
  let magt := bin_magt cfg data doppler_index
  if s.d_mag < magt then
    if s.d_test_statistics < magt / s.d_input_power || !cfg.d_bit_transition_flag then
      { s with
        d_mag := magt
        Acq_delay_samples := bin_indext cfg data doppler_index % cfg.d_samples_per_code
        Acq_doppler_hz := cfg.bin_doppler doppler_index
        Acq_samplestamp_samples := s.d_sample_counter
        d_test_statistics := magt / s.d_input_power }
    else { s with d_mag := magt }
  else s

/-- The inner loop over the bin's indices: every magnitude above `threshold_spoofing`
is entered in `peaks` under its normalised value. -/
def collect_peaks (cfg : Config α) (data : DwellData α) (threshold_spoofing : α)
    (sample_counter doppler_index : Nat) (peaks : List (α × Peak)) : List (α × Peak) :=
  (List.range cfg.d_fft_size).foldl
    (fun peaks i =>
      if threshold_spoofing < data.magnitude doppler_index i then
        map_assign
          (data.magnitude doppler_index i /
            (cfg.fft_normalization_factor * cfg.fft_normalization_factor))
          ⟨i % cfg.d_samples_per_code, cfg.bin_doppler doppler_index, sample_counter⟩ peaks
      else peaks)
    peaks

/-- The Doppler search loop over `d_num_doppler_bins` bins, carrying the block state
and the `peaks` map. -/
def search (cfg : Config α) (data : DwellData α) (threshold_spoofing : α)
    (s : PcpsSdAcquisition α) : PcpsSdAcquisition α × List (α × Peak) :=
  (List.range cfg.d_num_doppler_bins).foldl
    (fun acc doppler_index =>
      (record_maximum cfg data acc.1 doppler_index,
        collect_peaks cfg data threshold_spoofing acc.1.d_sample_counter doppler_index acc.2))
    (s, [])

/-- The test inside the auxiliary-peak loop. As in the source, `next_doppler` is
read from `it->first`, the code phase of the earlier peak. -/
def use_this_peak (cfg : Config α) (higher_peaks : List (Int × Int)) (p : Peak) : Bool :=
  higher_peaks.all fun it =>
    let next_code_phase := it.1
    let next_doppler := it.1
    !(decide (|next_code_phase - (p.code_phase : Int)| < 2 * (cfg.d_samples_per_code : Int)) &&
      next_doppler == p.doppler)

/-- The auxiliary-peak loop over `peaks` in decreasing key order: the first `d_peak`
entries go to `higher_peaks`, and the first later entry passing `use_this_peak` is
returned. -/
def select_auxiliary_peak (cfg : Config α) :
    List (Int × Int) → Nat → List (α × Peak) → Option (α × Peak)
  | _, _, [] => none
  | higher_peaks, i, (key, p) :: rest =>
    if i < cfg.d_peak then
      select_auxiliary_peak cfg ((p.code_phase, p.doppler) :: higher_peaks) (i + 1) rest
    else if use_this_peak cfg higher_peaks p then some (key, p)
    else select_auxiliary_peak cfg higher_peaks i rest

/-- The decision at the end of a dwell (lines 451-483): the next `d_state`. -/
def dwell_decision (cfg : Config α) (s : PcpsSdAcquisition α)
    (acquire_auxiliary_peaks found_peak : Bool) : Nat :=
  if !cfg.d_bit_transition_flag then
    if acquire_auxiliary_peaks && !found_peak then 3
    else if cfg.d_threshold < s.d_test_statistics then 2
    else if s.d_well_count = cfg.d_max_dwells then 3
    else s.d_state
  else if s.d_well_count = cfg.d_max_dwells then
    if acquire_auxiliary_peaks && !found_peak then 3
    else if cfg.d_threshold < s.d_test_statistics then 2
    else 3
  else s.d_state

/-- A peak chosen by the auxiliary search overwrites the statistic and the record. -/
def apply_auxiliary_peak (s : PcpsSdAcquisition α) : Option (α × Peak) → PcpsSdAcquisition α
  | none => s
  | some (key, p) =>
    { s with
      d_test_statistics := key / s.d_input_power
      Acq_delay_samples := p.code_phase
      Acq_doppler_hz := p.doppler
      Acq_samplestamp_samples := p.sample_counter }

/-- One dwell, the `case 1` branch of `general_work`: power estimate, Doppler search,
auxiliary peaks when `d_peak > 1`, and the decision. -/
def dwell (cfg : Config α) (s : PcpsSdAcquisition α) (data : DwellData α) :
    PcpsSdAcquisition α :=
  let s := { s with
    d_input_power := data.power
    d_mag := 0
    d_sample_counter := s.d_sample_counter + cfg.d_fft_size
    d_well_count := (s.d_well_count + 1) % 2 ^ 32 }
  let acquire_auxiliary_peaks := decide (1 < cfg.d_peak)
  let threshold_spoofing :=
    cfg.d_threshold * s.d_input_power *
      (cfg.fft_normalization_factor * cfg.fft_normalization_factor)
  let searched := search cfg data threshold_spoofing s
  let found := if acquire_auxiliary_peaks then
    select_auxiliary_peak cfg [] 0 searched.2.reverse else none
  let s := apply_auxiliary_peak searched.1 found
  { s with d_state := dwell_decision cfg s acquire_auxiliary_peaks found.isSome }

end gnss_sdr.acquisition
