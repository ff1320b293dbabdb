import GnssSdr.Acquisition.Episodes
import GnssSdr.Acquisition.DopplerGrid
import GnssSdr.Tracking.PullIn

/-! The hand-off from acquisition to tracking through the shared `Gnss_Synchro` record:
what a positive acquisition leaves in the record's `Acq_*` fields, and what the pull-in
of the tracking block started on that record makes of it. -/

namespace gnss_sdr.acquisition

/-- A configuration `init` has initialised searches bins whose Doppler lies in
`[-d_doppler_max, d_doppler_max]`. -/
theorem Config.abs_bin_doppler_le {α : Type} (cfg : Config α) (hinit : cfg.Initialized)
    (hstep : 0 < cfg.d_doppler_step) (hfit : cfg.d_doppler_max + cfg.d_doppler_step < 2 ^ 31)
    {k : Nat} (hk : k < cfg.d_num_doppler_bins) : |cfg.bin_doppler k| ≤ cfg.d_doppler_max := by
  rw [hinit.num_doppler_bins_eq hstep hfit] at hk
  obtain ⟨h0, hle⟩ := step_mul_mem_of_lt hk
  rw [cfg.bin_doppler_of_lt hfit hk, abs_le]
  constructor <;> omega

variable {α : Type} [LinearOrderedField α]

/-- A positive decision carries a valid record: in every reachable state 2, with a
nonnegative threshold, the recorded code phase is below `d_samples_per_code` and the
recorded Doppler is a searched bin, so within `±d_doppler_max`. -/
theorem Reachable.record_of_success {cfg : Config α} (hmax : 1 ≤ cfg.d_max_dwells)
    (hthr : 0 ≤ cfg.d_threshold) (hinit : cfg.Initialized) (hstep : 0 < cfg.d_doppler_step)
    (hfit : cfg.d_doppler_max + cfg.d_doppler_step < 2 ^ 31) {admissible : DwellData α → Prop}
    {s : PcpsSdAcquisition α} (hs : Reachable cfg admissible s) (h2 : s.d_state = 2) :
    s.Acq_delay_samples < cfg.d_samples_per_code ∧
      (∃ k < cfg.d_num_doppler_bins, s.Acq_doppler_hz = cfg.bin_doppler k) ∧
      |s.Acq_doppler_hz| ≤ cfg.d_doppler_max := by
  have hinv := hs.invariant hmax
  have hpos : 0 < s.d_test_statistics := hthr.trans_lt (hinv.threshold_lt h2)
  obtain ⟨⟨hdelay, k, hk, hdop⟩, -⟩ := (hinv.record (by omega)).resolve_left hpos.ne'
  exact ⟨hdelay, ⟨k, hk, hdop⟩, hdop ▸ cfg.abs_bin_doppler_le hinit hstep hfit hk⟩

end gnss_sdr.acquisition

namespace gnss_sdr

/-- The shared `Gnss_Synchro` record once the acquisition block has written its three
`Acq_*` fields into it through `d_gnss_synchro`. -/
def acquisition_record (g : tracking.GnssSynchro) (s : acquisition.PcpsSdAcquisition ℚ) :
    tracking.GnssSynchro :=
  { g with
    Acq_delay_samples := s.Acq_delay_samples
    Acq_doppler_hz := s.Acq_doppler_hz
    Acq_samplestamp_samples := s.Acq_samplestamp_samples }

/-- A positive acquisition hands tracking a valid record, and tracking pulls in on it.
The record holds a code phase below `d_samples_per_code` and the Doppler of a searched
bin, within `±d_doppler_max`. The tracking block started on it consumes at least one
sample on its next `general_work` call, and at most two blocks and a sample when its
counter is at or past the acquisition stamp. -/
theorem acquisition_success_pulls_in_forward {cfg : acquisition.Config ℚ}
    (hmax : 1 ≤ cfg.d_max_dwells) (hthr : 0 ≤ cfg.d_threshold) (hinit : cfg.Initialized)
    (hstep : 0 < cfg.d_doppler_step) (hfit : cfg.d_doppler_max + cfg.d_doppler_step < 2 ^ 31)
    (hdoppler : cfg.d_doppler_max ≤ 10000) {admissible : acquisition.DwellData ℚ → Prop}
    {s : acquisition.PcpsSdAcquisition ℚ} (hs : acquisition.Reachable cfg admissible s)
    (h2 : s.d_state = 2) {β σ : Type} (fs : ℤ) (vl : Nat) (dsp : tracking.Dsp β σ)
    (t : tracking.Tracking β σ) (g : tracking.GnssSynchro) (ninput_items : Nat)
    (input : Nat → β) (hlo : 1000 ≤ fs) (hhi : fs ≤ 50000000) :
    let acq := acquisition_record g s
    let trk := tracking.start_tracking (tracking.gps_l1_ca_config fs vl) dsp t acq
    let r := tracking.general_work (tracking.gps_l1_ca_config fs vl) dsp trk ninput_items input
    acq.Acq_delay_samples < cfg.d_samples_per_code ∧
      (∃ k < cfg.d_num_doppler_bins, acq.Acq_doppler_hz = cfg.bin_doppler k) ∧
      |acq.Acq_doppler_hz| ≤ cfg.d_doppler_max ∧ 1 ≤ r.2.consumed ∧
      (0 ≤ t.d_sample_counter - acq.Acq_samplestamp_samples →
        t.d_sample_counter - acq.Acq_samplestamp_samples < 2 ^ 31 →
        r.2.consumed ≤ 2 * trk.d_current_prn_length_samples + 1) := by
  intro acq trk r
  obtain ⟨hdelay, ⟨k, hk, hbin⟩, hdop⟩ := hs.record_of_success hmax hthr hinit hstep hfit h2
  have hdop' : |acq.Acq_doppler_hz| ≤ cfg.d_doppler_max := by
    show |((s.Acq_doppler_hz : ℤ) : ℚ)| ≤ cfg.d_doppler_max
    rw [← Int.cast_abs]
    exact_mod_cast hdop
  rw [show r = tracking.pull_in trk from
    tracking.general_work_start_tracking _ dsp t acq ninput_items input]
  exact ⟨show ((s.Acq_delay_samples : ℕ) : ℚ) < cfg.d_samples_per_code by exact_mod_cast hdelay,
    ⟨k, hk, show ((s.Acq_doppler_hz : ℤ) : ℚ) = _ by rw [hbin]⟩, hdop',
    tracking.pull_in_after_start_consumed fs vl dsp t acq hlo hhi
      (hdop'.trans (by exact_mod_cast hdoppler))⟩

theorem acquisition_success_pulls_in_forward_after_one_dwell :
    let cfg : acquisition.Config ℚ :=
      { d_fft_size := 1, d_samples_per_code := 1, d_doppler_max := 0, d_doppler_step := 1,
        d_num_doppler_bins := 1, d_max_dwells := 1, d_bit_transition_flag := false,
        d_peak := 1, d_threshold := 0, samples_per_code_pos := Nat.one_pos }
    let data : acquisition.DwellData ℚ :=
      { power := 1, magnitude := fun _ _ => 1, power_nonneg := zero_le_one,
        magnitude_nonneg := fun _ _ => zero_le_one,
        magnitude_eq_zero := fun h _ _ => absurd h one_ne_zero }
    let s := (acquisition.run cfg (acquisition.initial 0 0 0 0)
      [.set_active true, .general_work 1 data, .general_work 1 data]).1
    let t : tracking.Tracking ℚ ℚ := default
    let acq := acquisition_record default s
    let trk := tracking.start_tracking (tracking.gps_l1_ca_config 4000000 4000) default t acq
    let r := tracking.general_work (tracking.gps_l1_ca_config 4000000 4000) default trk 0 default
    1 ≤ cfg.d_max_dwells ∧ 0 ≤ cfg.d_threshold ∧ cfg.Initialized ∧ 0 < cfg.d_doppler_step ∧
      cfg.d_doppler_max + cfg.d_doppler_step < 2 ^ 31 ∧ cfg.d_doppler_max ≤ 10000 ∧
      acquisition.Reachable cfg (fun _ => True) s ∧ s.d_state = 2 ∧
      (1000 : ℤ) ≤ 4000000 ∧ (4000000 : ℤ) ≤ 50000000 ∧
      (acq.Acq_delay_samples < cfg.d_samples_per_code ∧
        (∃ k < cfg.d_num_doppler_bins, acq.Acq_doppler_hz = cfg.bin_doppler k) ∧
        |acq.Acq_doppler_hz| ≤ cfg.d_doppler_max ∧ 1 ≤ r.2.consumed ∧
        (0 ≤ t.d_sample_counter - acq.Acq_samplestamp_samples →
          t.d_sample_counter - acq.Acq_samplestamp_samples < 2 ^ 31 →
          r.2.consumed ≤ 2 * trk.d_current_prn_length_samples + 1)) := by
  intro cfg data s t acq trk r
  have hs : acquisition.Reachable cfg (fun _ => True) s :=
    .step trivial (.step trivial (.step trivial (.initial 0 0 0 0)))
  have h2 : s.d_state = 2 := by with_unfolding_all decide
  have hinit : cfg.Initialized := ⟨2, by with_unfolding_all decide⟩
  exact ⟨by decide, le_rfl, hinit, by decide, by decide, by decide, hs, h2, by decide, by decide,
    acquisition_success_pulls_in_forward (by decide) le_rfl hinit (by decide) (by decide)
      (by decide) hs h2 4000000 4000 default t default 0 default (by decide) (by decide)⟩

end gnss_sdr
