import GnssSdr.Acquisition.GeneralWork

namespace gnss_sdr.acquisition

variable {α : Type} [LinearOrderedField α]

/-- The auxiliary-peak rule as the specification words it, for comparison with
`select_auxiliary_peak`: among candidates sorted by decreasing magnitude, the first
entry after the first `d_peak` whose Doppler differs from that of every one of those
entries lying within `2·samples_per_code` of it in code phase. -/
def spec_auxiliary_peak (cfg : Config α) (candidates : List (α × Peak)) : Option (α × Peak) :=
  (candidates.drop cfg.d_peak).find? fun e =>
    (candidates.take cfg.d_peak).all fun f =>
      !(decide (|(f.2.code_phase : Int) - e.2.code_phase| < 2 * (cfg.d_samples_per_code : Int)) &&
        f.2.doppler == e.2.doppler)

omit [LinearOrderedField α] in
/-- The auxiliary-peak loop from its `i`-th entry: the entries up to the `d_peak`-th
join the higher peaks (latest first), and the first later entry `use_this_peak` accepts
against them is chosen. -/
theorem select_auxiliary_peak_eq_find? (cfg : Config α) (higher_peaks : List (Int × Int))
    (i : Nat) (l : List (α × Peak)) (hi : i ≤ cfg.d_peak) :
    select_auxiliary_peak cfg higher_peaks i l =
      (l.drop (cfg.d_peak - i)).find? fun e => use_this_peak cfg
        (((l.take (cfg.d_peak - i)).map fun f => ((f.2.code_phase : Int), f.2.doppler)).reverse ++
          higher_peaks) e.2 := by
  induction l generalizing higher_peaks i with
  | nil => simp [select_auxiliary_peak]
  | cons e rest ih =>
    obtain ⟨key, p⟩ := e
    by_cases hlt : i < cfg.d_peak
    · obtain ⟨n, hn⟩ : ∃ n, cfg.d_peak - i = n + 1 := ⟨cfg.d_peak - i - 1, by omega⟩
      rw [select_auxiliary_peak, if_pos hlt, ih _ _ hlt, hn,
        show cfg.d_peak - (i + 1) = n by omega]
      simp
    · rw [select_auxiliary_peak, if_neg hlt, ih _ _ hi, show cfg.d_peak - i = 0 by omega]
      simp only [List.drop_zero, List.take_zero, List.map_nil, List.reverse_nil,
        List.nil_append, List.find?_cons]
      cases use_this_peak cfg higher_peaks p <;> rfl

omit [LinearOrderedField α] in
/-- The dwell's auxiliary search over the `peaks` map is the specification's rule with
one change: each higher peak's code phase stands where its Doppler should be compared
with the candidate's. -/
theorem select_auxiliary_peak_eq_rule (cfg : Config α) (candidates : List (α × Peak)) :
    select_auxiliary_peak cfg [] 0 candidates =
      (candidates.drop cfg.d_peak).find? fun e =>
        (candidates.take cfg.d_peak).all fun f =>
          !(decide (|(f.2.code_phase : Int) - e.2.code_phase| <
              2 * (cfg.d_samples_per_code : Int)) &&
            (f.2.code_phase : Int) == e.2.doppler) := by
  rw [select_auxiliary_peak_eq_find? cfg [] 0 candidates (Nat.zero_le _), Nat.sub_zero]
  congr 1
  funext e
  refine Bool.eq_iff_iff.mpr ?_
  simp only [use_this_peak, List.append_nil, List.all_reverse, List.all_eq_true, List.mem_map,
    forall_exists_index, and_imp, forall_apply_eq_imp_iff₂]

/-- The auxiliary search compares each higher peak's code phase with the candidate's
Doppler. With two peaks requested, one bin at -5 Hz and magnitudes 3, 2, 1, the rule
rejects the third candidate and the code accepts it: the episode ends in ACQ_SUCCESS. -/
theorem auxiliary_peak_compares_code_phase_with_doppler :
    let cfg : Config ℚ :=
      { d_fft_size := 3, d_samples_per_code := 3, d_doppler_max := 5, d_doppler_step := 11,
        d_num_doppler_bins := 1, d_max_dwells := 1, d_bit_transition_flag := false,
        d_peak := 2, d_threshold := 0, samples_per_code_pos := by decide }
    let data : DwellData ℚ :=
      { power := 1, magnitude := fun _ i => ((3 - i : Nat) : ℚ), power_nonneg := zero_le_one,
        magnitude_nonneg := fun _ _ => Nat.cast_nonneg _,
        magnitude_eq_zero := fun h => absurd h one_ne_zero }
    let s : PcpsSdAcquisition ℚ :=
      { initial 0 0 0 0 with d_state := 1, d_active := true }
    let candidates : List (ℚ × Peak) :=
      [(3 / 81, ⟨0, -5, 3⟩), (2 / 81, ⟨1, -5, 3⟩), (1 / 81, ⟨2, -5, 3⟩)]
    (∀ l : List (ℚ × Peak), select_auxiliary_peak cfg [] 0 l =
      (l.drop cfg.d_peak).find? fun e =>
        (l.take cfg.d_peak).all fun f =>
          !(decide (|(f.2.code_phase : Int) - e.2.code_phase| <
              2 * (cfg.d_samples_per_code : Int)) &&
            (f.2.code_phase : Int) == e.2.doppler)) ∧
      (search cfg data 0
          { s with d_input_power := 1, d_sample_counter := 3, d_well_count := 1 }).2.reverse =
        candidates ∧
      spec_auxiliary_peak cfg candidates = none ∧
      (run cfg s [.general_work 1 data, .general_work 1 data]).2 = [1] :=
  ⟨select_auxiliary_peak_eq_rule _, by with_unfolding_all decide⟩

end gnss_sdr.acquisition
