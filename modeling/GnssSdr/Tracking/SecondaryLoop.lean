import GnssSdr.Tracking.GeneralWork

namespace gnss_sdr.tracking

variable {β σ : Type}

/-- While `CADLL_init` holds, the secondary code NCO keeps the primary's remainder and
block length. -/
def Mirror (s : Tracking β σ) : Prop :=
  s.CADLL_init = true →
    s.d_rem_code_phase_samples_m = s.d_rem_code_phase_samples ∧
      s.d_current_prn_length_samples_m = s.d_current_prn_length_samples

theorem Tracking.Constructed.mirror {cfg : Config} {s : Tracking β σ} (h : s.Constructed cfg) :
    Mirror s := fun _ =>
  ⟨h.d_rem_code_phase_samples_m.trans h.d_rem_code_phase_samples.symm,
    h.d_current_prn_length_samples_m.trans h.d_current_prn_length_samples.symm⟩

/-- A tracking call leaves the NCOs mirrored whenever it leaves `CADLL_init` set: it
then ran with `CADLL_init`, so `K_blk_samples_m` was `K_blk_samples`, and it did not
promote. -/
theorem track_mirror (cfg : Config) (dsp : Dsp β σ) (s : Tracking β σ) (epl epl_m : Epl β)
    (corr : ℚ) : Mirror (track cfg dsp s epl epl_m corr).1 := by
  intro h
  rw [track_CADLL_init, Bool.and_eq_true, Bool.not_eq_true'] at h
  rw [track_d_rem_code_phase_samples_m, if_neg (by simp [h.2]), track_d_rem_code_phase_samples,
    track_d_current_prn_length_samples_m, track_d_current_prn_length_samples,
    nco_update_K_blk_samples_m, if_pos h.1]
  exact ⟨rfl, rfl⟩

/-- Every reachable state is mirrored: `start_tracking` clears both remainders and sets
both lengths alike, and no other call but a tracking one moves them. -/
theorem Reachable.mirror {cfg : Config} {dsp : Dsp β σ} {s : Tracking β σ}
    (hs : Reachable cfg dsp s) : Mirror s := by
  induction hs with
  | constructed h => exact h.mirror
  | @step s op _ ih =>
    cases op with
    | start_tracking acq => exact fun _ => ⟨rfl, rfl⟩
    | stop_tracking => exact ih
    | general_work ninput_items input =>
      rcases general_work_cases cfg dsp s ninput_items input with
        ⟨-, h⟩ | ⟨-, -, h⟩ | ⟨-, -, h⟩ | ⟨-, h⟩ <;> simp only [gnss_sdr.tracking.step, h]
      · exact ih
      · exact ih
      · exact ih
      · exact track_mirror _ _ _ _ _ _

/-- The secondary replicas are the primary ones, on every sample the primary loop
writes, when the two NCOs hold the same remainder and block length and the primary
never reads a negative table index (the only place the two generators differ). -/
theorem update_local_code_m_agrees (cfg : Config) (s : Tracking β σ)
    (hrem : s.d_rem_code_phase_samples_m = s.d_rem_code_phase_samples)
    (hlen : s.d_current_prn_length_samples_m = s.d_current_prn_length_samples)
    (hidx : ∀ i < (s.d_current_prn_length_samples +
        early_late_spc_samples cfg s.d_code_freq_chips * 2).toNat,
      0 ≤ associated_chip_index cfg
        (replica_code_phase cfg s.d_code_freq_chips s.d_rem_code_phase_samples i)) :
    (∀ i < (s.d_current_prn_length_samples +
        early_late_spc_samples cfg s.d_code_freq_chips * 2).toNat,
      (update_local_code_m cfg s).Early i = (update_local_code cfg s).Early i) ∧
    (0 ≤ early_late_spc_samples cfg s.d_code_freq_chips →
      ∀ i : Nat, (i : Int) < s.d_current_prn_length_samples →
        (update_local_code_m cfg s).Prompt i = (update_local_code cfg s).Prompt i ∧
          (update_local_code_m cfg s).Late i = (update_local_code cfg s).Late i) := by
  have hearly : ∀ i < (s.d_current_prn_length_samples +
      early_late_spc_samples cfg s.d_code_freq_chips * 2).toNat,
      (update_local_code_m cfg s).Early i = (update_local_code cfg s).Early i := by
    intro i hi
    rw [update_local_code_m, update_local_code, code_replicas_early _ _ _ _ _ _ _ _ _ (hlen ▸ hi),
      code_replicas_early _ _ _ _ _ _ _ _ _ hi, hrem, associated_chip_index_m_of_nonneg cfg (hidx i hi)]
  refine ⟨hearly, fun hspc i hi => ?_⟩
  obtain ⟨hp, hl⟩ := code_replicas_prompt_late cfg (associated_chip_index cfg) s.d_ca_code
    s.d_code_freq_chips s.d_rem_code_phase_samples _ s.d_early_code s.d_prompt_code s.d_late_code
    hspc hi
  obtain ⟨hp', hl'⟩ := code_replicas_prompt_late cfg (associated_chip_index_m cfg) s.d_ca_code
    s.d_code_freq_chips s.d_rem_code_phase_samples_m _ s.d_early_code_m s.d_prompt_code_m
    s.d_late_code_m hspc (hlen ▸ hi)
  have h1 := hearly ((early_late_spc_samples cfg s.d_code_freq_chips).toNat + i) (by omega)
  have h2 := hearly (2 * (early_late_spc_samples cfg s.d_code_freq_chips).toNat + i) (by omega)
  simp only [update_local_code_m, update_local_code] at h1 h2 ⊢
  rw [hp, hl, hp', hl', h1, h2]
  exact ⟨rfl, rfl⟩

/-- In every reachable state with `CADLL_init` set, the secondary NCO holds the
primary's remainder and block length, so `update_local_code_m` writes the primary's
early replica over the whole loop and, with a nonnegative spacing, its prompt and late
replicas over the block, as long as the primary's table indices are not negative. -/
theorem cadll_secondary_mirrors_primary {cfg : Config} {dsp : Dsp β σ} {s : Tracking β σ}
    (hs : Reachable cfg dsp s) (hinit : s.CADLL_init = true) :
    s.d_rem_code_phase_samples_m = s.d_rem_code_phase_samples ∧
      s.d_current_prn_length_samples_m = s.d_current_prn_length_samples ∧
      ((∀ i < (s.d_current_prn_length_samples +
          early_late_spc_samples cfg s.d_code_freq_chips * 2).toNat,
        0 ≤ associated_chip_index cfg
          (replica_code_phase cfg s.d_code_freq_chips s.d_rem_code_phase_samples i)) →
      (∀ i < (s.d_current_prn_length_samples +
          early_late_spc_samples cfg s.d_code_freq_chips * 2).toNat,
        (update_local_code_m cfg s).Early i = (update_local_code cfg s).Early i) ∧
      (0 ≤ early_late_spc_samples cfg s.d_code_freq_chips →
        ∀ i : Nat, (i : Int) < s.d_current_prn_length_samples →
          (update_local_code_m cfg s).Prompt i = (update_local_code cfg s).Prompt i ∧
            (update_local_code_m cfg s).Late i = (update_local_code cfg s).Late i)) := by
  obtain ⟨hrem, hlen⟩ := hs.mirror hinit
  exact ⟨hrem, hlen, update_local_code_m_agrees cfg s hrem hlen⟩

theorem cadll_secondary_mirrors_primary_after_steady_call :
    let cfg : Config := gps_l1_ca_config 4000000 4000
    let dsp : Dsp ℚ ℚ := default
    let s := (run cfg dsp (construct cfg { (default : Tracking ℚ ℚ) with CADLL_init := true })
      [.start_tracking { (default : GnssSynchro) with Acq_doppler_hz := 10000 },
        .general_work 0 default, .general_work 0 default]).1
    Reachable cfg dsp s ∧ s.CADLL_init = true ∧ s.d_rem_code_phase_samples ≠ 0 ∧
      s.d_rem_code_phase_samples_m = s.d_rem_code_phase_samples ∧
      s.d_current_prn_length_samples_m = s.d_current_prn_length_samples := by
  intro cfg dsp s
  have hs : Reachable cfg dsp s := (Reachable.constructed (construct_constructed _ _)).run _
  have hinit : s.CADLL_init = true ∧ s.d_rem_code_phase_samples ≠ 0 := by
    with_unfolding_all decide
  obtain ⟨hrem, hlen, -⟩ := cadll_secondary_mirrors_primary hs hinit.1
  exact ⟨hs, hinit.1, hinit.2, hrem, hlen⟩

/-- After the promotion to CADLL mode the secondary block is 3973 samples against the
primary's 4000: the CADLL correlator reads 4000 secondary samples, of which
`update_local_code_m` rewrote only 3973, so sample 3990 is stale. -/
theorem secondary_replica_shorter_than_correlation :
    let cfg : Config := gps_l1_ca_config 4000000 4000
    let dsp : Dsp ℚ ℚ := default
    let s := (run cfg dsp (construct cfg { (default : Tracking ℚ ℚ) with CADLL_init := true })
      (List.replicate 1000 (.general_work 0 default) ++
        [.start_tracking default, .general_work 0 default, .general_work 0 default,
          .general_work 0 default])).1
    Reachable cfg dsp s ∧ s.CADLL_init = false ∧ Steady cfg dsp s default ∧
      s.d_current_prn_length_samples_m = 3973 ∧ s.d_current_prn_length_samples = 4000 ∧
      (update_replicas cfg dsp s).d_prompt_code_m 3990 = s.d_prompt_code_m 3990 := by
  refine ⟨(Reachable.constructed (construct_constructed _ _)).run _, ?_⟩
  dsimp only
  rw [run_append, run_idle _ _ rfl]
  refine ⟨?_, ?_, ?_, ?_, update_replicas_prompt_code_m_of_le _ _ _ ?_⟩ <;>
    with_unfolding_all decide

end gnss_sdr.tracking
