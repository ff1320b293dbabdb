import GnssSdr.Tracking.GeneralWork

namespace gnss_sdr.tracking

variable {β σ : Type}

/-- Sample `i` of the carrier replica `update_local_carrier` writes is taken at phase
`d_rem_carr_phase_rad + i·2π·d_carrier_doppler_hz/fs_in`. -/
theorem update_local_carrier_apply (cfg : Config) (dsp : Dsp β σ) (s : Tracking β σ) {i : Nat}
    (hi : i < s.d_current_prn_length_samples.toNat) :
    update_local_carrier cfg dsp s i = dsp.carrier_replica (s.d_rem_carr_phase_rad +
      i * (cfg.GPS_TWO_PI * s.d_carrier_doppler_hz / cfg.d_fs_in)) := by
  simp only [update_local_carrier, write_prefix, getD_phase_loop _ _ hi]

/-- The carrier side of a steady-state call: the replica is generated from the remainder
and the Doppler the call finds, the call consumes the block length it has just computed,
and it leaves the remainder advanced by one nominal code period at the Doppler after
the PLL update, reduced modulo `GPS_TWO_PI`. -/
theorem general_work_carrier {cfg : Config} {dsp : Dsp β σ} {s : Tracking β σ}
    {input : Nat → β} (hsteady : Steady cfg dsp s input) (ninput_items : Nat) :
    let r := general_work cfg dsp s ninput_items input
    (update_replicas cfg dsp s).d_carr_sign = update_local_carrier cfg dsp s ∧
      r.2.consumed = r.1.d_current_prn_length_samples ∧
      r.1.d_rem_carr_phase_rad = cmath.fmod (s.d_rem_carr_phase_rad +
        cfg.GPS_TWO_PI * r.1.d_carrier_doppler_hz * cfg.GPS_L1_CA_CODE_PERIOD) cfg.GPS_TWO_PI := by
  intro r
  rw [show r = _ from general_work_of_steady hsteady ninput_items]
  exact ⟨rfl, rfl, rfl⟩

/-- Over a steady-state call, the remainder the next call's carrier replica starts from
agrees modulo `GPS_TWO_PI` with the phase this call's replica reaches after the samples
the call consumes exactly when `f'·GPS_L1_CA_CODE_PERIOD - f·L/fs_in` is an integer:
`f` is the Doppler this call's replica used, `f'` the one after the PLL update and `L`
the samples consumed. -/
theorem carrier_phase_continuous_iff {cfg : Config} {dsp : Dsp β σ} {s : Tracking β σ}
    {input : Nat → β} (hsteady : Steady cfg dsp s input) (ninput_items : Nat)
    (hpi : cfg.GPS_TWO_PI ≠ 0) :
    let r := general_work cfg dsp s ninput_items input
    (∃ k : ℤ, r.1.d_rem_carr_phase_rad = s.d_rem_carr_phase_rad +
        cfg.GPS_TWO_PI * s.d_carrier_doppler_hz * r.2.consumed / cfg.d_fs_in +
          k * cfg.GPS_TWO_PI) ↔
      ∃ m : ℤ, r.1.d_carrier_doppler_hz * cfg.GPS_L1_CA_CODE_PERIOD -
        s.d_carrier_doppler_hz * r.2.consumed / cfg.d_fs_in = m := by
  intro r
  obtain ⟨-, -, hrem⟩ := general_work_carrier hsteady ninput_items
  have hadv : cfg.GPS_TWO_PI * r.1.d_carrier_doppler_hz * cfg.GPS_L1_CA_CODE_PERIOD =
      cfg.GPS_TWO_PI * (r.1.d_carrier_doppler_hz * cfg.GPS_L1_CA_CODE_PERIOD) := mul_assoc ..
  have hrep : cfg.GPS_TWO_PI * s.d_carrier_doppler_hz * r.2.consumed / cfg.d_fs_in =
      cfg.GPS_TWO_PI * (s.d_carrier_doppler_hz * r.2.consumed / cfg.d_fs_in) := by ring
  rw [hrem, hadv, hrep]
  exact cmath.fmod_add_mul_eq_iff hpi _ _ _

/-- The carrier remainder agrees with the accumulated carrier phase up to whole turns of
`GPS_TWO_PI`. -/
def PhaseAligned (cfg : Config) (s : Tracking β σ) : Prop :=
  ∃ k : ℤ, s.d_rem_carr_phase_rad = s.d_acc_carrier_phase_rad + k * cfg.GPS_TWO_PI

/-- A tracking call adds the same phase step to the remainder and to the accumulator, and
`fmod` takes whole turns off the remainder. -/
theorem track_phase_aligned {cfg : Config} {dsp : Dsp β σ} {s : Tracking β σ}
    (h : PhaseAligned cfg s) (epl epl_m : Epl β) (corr : ℚ) :
    PhaseAligned cfg (track cfg dsp s epl epl_m corr).1 := by
  obtain ⟨k, hk⟩ := h
  rw [PhaseAligned, track_d_rem_carr_phase_rad, track_d_acc_carrier_phase_rad]
  exact cmath.fmod_add_congr hk _

/-- In every reachable state where tracking is enabled, the carrier remainder and the
accumulated carrier phase agree up to whole turns: `start_tracking` clears both, and
no call moves one without the other. -/
theorem Reachable.phase_aligned {cfg : Config} {dsp : Dsp β σ} {s : Tracking β σ}
    (hs : Reachable cfg dsp s) (hen : s.d_enable_tracking = true) : PhaseAligned cfg s := by
  induction hs with
  | constructed h => exact absurd (h.d_enable_tracking.symm.trans hen) Bool.false_ne_true
  | @step s op _ ih =>
    cases op with
    | start_tracking acq => exact ⟨0, by simp [gnss_sdr.tracking.step, start_tracking]⟩
    | stop_tracking => exact absurd hen Bool.false_ne_true
    | general_work ninput_items input =>
      rcases general_work_cases cfg dsp s ninput_items input with
        ⟨hdis, h⟩ | ⟨hen0, -, h⟩ | ⟨hen0, -, h⟩ | ⟨hst, h⟩ <;>
        simp only [gnss_sdr.tracking.step, h] at hen ⊢
      · exact absurd (hdis.symm.trans hen) Bool.false_ne_true
      · exact ih hen0
      · exact ih hen0
      · exact track_phase_aligned
          (show PhaseAligned cfg (update_replicas cfg dsp s) from ih hst.1) _ _ _

/-- Every record a steady-state call emits from a reachable state reports, in
`Carrier_phase_rads`, the phase the next call's carrier replica starts from, up to whole
turns of `GPS_TWO_PI`. -/
theorem record_carrier_phase_matches_remainder {cfg : Config} {dsp : Dsp β σ}
    {s : Tracking β σ} {input : Nat → β} (hs : Reachable cfg dsp s)
    (hsteady : Steady cfg dsp s input) (ninput_items : Nat) :
    ∃ record, (general_work cfg dsp s ninput_items input).2.record = some record ∧
      ∃ k : ℤ, (general_work cfg dsp s ninput_items input).1.d_rem_carr_phase_rad =
        record.Carrier_phase_rads + k * cfg.GPS_TWO_PI := by
  rw [general_work_of_steady hsteady ninput_items]
  exact ⟨_, rfl, track_phase_aligned
    (show PhaseAligned cfg (update_replicas cfg dsp s) from hs.phase_aligned hsteady.1) _ _ _⟩

theorem record_carrier_phase_matches_remainder_after_pull_in :
    let cfg : Config := gps_l1_ca_config 4000000 4000
    let dsp : Dsp ℚ ℚ := default
    let s := (run cfg dsp (construct cfg default)
      [.start_tracking { (default : GnssSynchro) with Acq_doppler_hz := 10000 },
        .general_work 0 default]).1
    Reachable cfg dsp s ∧ Steady cfg dsp s default ∧
      ∃ record, (general_work cfg dsp s 0 default).2.record = some record ∧
        ∃ k : ℤ, (general_work cfg dsp s 0 default).1.d_rem_carr_phase_rad =
          record.Carrier_phase_rads + k * cfg.GPS_TWO_PI := by
  intro cfg dsp s
  have hs : Reachable cfg dsp s := (Reachable.constructed (construct_constructed _ _)).run _
  have hsteady : Steady cfg dsp s default := by decide
  exact ⟨hs, hsteady, record_carrier_phase_matches_remainder hs hsteady 0⟩

/-- The code NCO is carrier aided in every reachable state where tracking is enabled: the
code replicas of the next call run at the chipping rate scaled by
`1 + d_carrier_doppler_hz / GPS_L1_FREQ_HZ`, with the Doppler its carrier replica uses.
`start_tracking` sets both from the acquisition's Doppler and every tracking call from
the PLL's new one; no other call moves either. -/
theorem Reachable.code_freq_carrier_aided {cfg : Config} {dsp : Dsp β σ} {s : Tracking β σ}
    (hF : cfg.GPS_L1_FREQ_HZ ≠ 0) (hs : Reachable cfg dsp s) (hen : s.d_enable_tracking = true) :
    s.d_code_freq_chips = cfg.GPS_L1_CA_CODE_RATE_HZ +
      s.d_carrier_doppler_hz * cfg.GPS_L1_CA_CODE_RATE_HZ / cfg.GPS_L1_FREQ_HZ := by
  induction hs with
  | constructed h => exact absurd (h.d_enable_tracking.symm.trans hen) Bool.false_ne_true
  | @step s op _ ih =>
    cases op with
    | start_tracking acq =>
      show (cfg.GPS_L1_FREQ_HZ + acq.Acq_doppler_hz) / cfg.GPS_L1_FREQ_HZ *
          cfg.GPS_L1_CA_CODE_RATE_HZ = cfg.GPS_L1_CA_CODE_RATE_HZ +
        acq.Acq_doppler_hz * cfg.GPS_L1_CA_CODE_RATE_HZ / cfg.GPS_L1_FREQ_HZ
      field_simp
      ring
    | stop_tracking => exact absurd hen Bool.false_ne_true
    | general_work ninput_items input =>
      rcases general_work_cases cfg dsp s ninput_items input with
        ⟨hdis, h⟩ | ⟨hen0, -, h⟩ | ⟨hen0, -, h⟩ | ⟨-, h⟩ <;>
        simp only [gnss_sdr.tracking.step, h] at hen ⊢
      · exact absurd (hdis.symm.trans hen) Bool.false_ne_true
      · exact ih hen0
      · exact ih hen0
      · exact track_d_code_freq_chips ..

theorem code_freq_carrier_aided_after_pull_in :
    let cfg : Config := gps_l1_ca_config 4000000 4000
    let dsp : Dsp ℚ ℚ := default
    let s := (run cfg dsp (construct cfg default)
      [.start_tracking { (default : GnssSynchro) with Acq_doppler_hz := 10000 },
        .general_work 0 default, .general_work 0 default]).1
    cfg.GPS_L1_FREQ_HZ ≠ 0 ∧ Reachable cfg dsp s ∧ s.d_enable_tracking = true ∧
      s.d_code_freq_chips = cfg.GPS_L1_CA_CODE_RATE_HZ +
        s.d_carrier_doppler_hz * cfg.GPS_L1_CA_CODE_RATE_HZ / cfg.GPS_L1_FREQ_HZ := by
  intro cfg dsp s
  have hF : cfg.GPS_L1_FREQ_HZ ≠ 0 := by decide
  have hs : Reachable cfg dsp s := (Reachable.constructed (construct_constructed _ _)).run _
  have hen : s.d_enable_tracking = true := by decide
  exact ⟨hF, hs, hen, Reachable.code_freq_carrier_aided hF hs hen⟩

/-- A block constructed for 4.0005 MHz sampling, started on a satellite acquired at
10 kHz Doppler with loop filters that output zero, and pulled in. Its first steady-state
call generates its carrier from phase 0 at 10 kHz and consumes 4000 samples, so its
replica ends at phase `2π·10000·4000/4000500`; the remainder it leaves for the next
call is `2π·10000·0.001` modulo `2π`, and the two differ by a fraction of a turn. -/
theorem carrier_remainder_skips_consumed_samples :
    let cfg : Config := gps_l1_ca_config 4000500 4000
    let dsp : Dsp ℚ ℚ := default
    let s := (run cfg dsp (construct cfg default)
      [.start_tracking { (default : GnssSynchro) with Acq_doppler_hz := 10000 },
        .general_work 0 default]).1
    let r := general_work cfg dsp s 0 default
    Reachable cfg dsp s ∧ Steady cfg dsp s default ∧ Steady cfg dsp r.1 default ∧
      s.d_rem_carr_phase_rad = 0 ∧ s.d_carrier_doppler_hz = 10000 ∧ r.2.consumed = 4000 ∧
      r.1.d_carrier_doppler_hz = 10000 ∧
      ¬∃ k : ℤ, r.1.d_rem_carr_phase_rad = s.d_rem_carr_phase_rad +
        cfg.GPS_TWO_PI * s.d_carrier_doppler_hz * r.2.consumed / cfg.d_fs_in +
          k * cfg.GPS_TWO_PI := by
  intro cfg dsp s r
  have hsteady : Steady cfg dsp s default := by with_unfolding_all decide
  have hf : s.d_carrier_doppler_hz = 10000 := rfl
  have hL : r.2.consumed = 4000 := by with_unfolding_all decide
  -- the loop filters of the default `Dsp` output zero
  have hf' : r.1.d_carrier_doppler_hz = 10000 := by
    show (general_work cfg dsp s 0 default).1.d_carrier_doppler_hz = _
    rw [general_work_of_steady hsteady]
    exact add_zero _
  have hP : cfg.GPS_L1_CA_CODE_PERIOD = 1 / 1000 := rfl
  have hfs : cfg.d_fs_in = 4000500 := rfl
  refine ⟨(Reachable.constructed (construct_constructed _ _)).run _, hsteady,
    by with_unfolding_all decide, rfl, hf, hL, hf',
    (carrier_phase_continuous_iff hsteady 0 (by with_unfolding_all decide)).not.mpr ?_⟩
  rw [hf', hf, hL, hP, hfs]
  exact cmath.not_exists_intCast_eq 0 (by norm_num) (by norm_num)

end gnss_sdr.tracking
