import GnssSdr.Acquisition.GeneralWork

namespace gnss_sdr.acquisition

variable {α : Type} [LinearOrderedField α]

theorem mem_foldl_map_assign {entries peaks : List (α × Peak)} {e : α × Peak}
    (h : e ∈ entries.foldl (fun m e => map_assign e.1 e.2 m) peaks) : e ∈ entries ∨ e ∈ peaks := by
  induction entries generalizing peaks with
  | nil => exact .inr h
  | cons a entries ih =>
    rcases ih h with h | h
    · exact .inl (List.mem_cons_of_mem _ h)
    · rcases mem_map_assign h with rfl | h
      · exact .inl (List.mem_cons_self _ _)
      · exact .inr h

/-- The assignments `peaks[tmp] = mtmp` the inner loop makes for bin `doppler_index`, in
index order: one for every magnitude above `threshold_spoofing`, under its normalised
value. -/
def bin_peak_assignments (cfg : Config α) (data : DwellData α) (threshold_spoofing : α)
    (sample_counter doppler_index : Nat) : List (α × Peak) :=
  ((List.range cfg.d_fft_size).filter fun i =>
      threshold_spoofing < data.magnitude doppler_index i).map fun i =>
    (data.magnitude doppler_index i / (cfg.fft_normalization_factor * cfg.fft_normalization_factor),
      ⟨i % cfg.d_samples_per_code, cfg.bin_doppler doppler_index, sample_counter⟩)

/-- All the assignments of the Doppler search loop, bin by bin. -/
def peak_assignments (cfg : Config α) (data : DwellData α) (threshold_spoofing : α)
    (sample_counter : Nat) : List (α × Peak) :=
  (List.range cfg.d_num_doppler_bins).flatMap
    (bin_peak_assignments cfg data threshold_spoofing sample_counter)

theorem collect_peaks_eq (cfg : Config α) (data : DwellData α) (threshold_spoofing : α)
    (sample_counter doppler_index : Nat) (peaks : List (α × Peak)) :
    collect_peaks cfg data threshold_spoofing sample_counter doppler_index peaks =
      (bin_peak_assignments cfg data threshold_spoofing sample_counter doppler_index).foldl
        (fun m e => map_assign e.1 e.2 m) peaks := by
  unfold collect_peaks bin_peak_assignments
  rw [List.foldl_map]
  generalize List.range cfg.d_fft_size = l
  induction l generalizing peaks with
  | nil => rfl
  | cons i l ih =>
    rw [List.foldl_cons, ih, List.filter_cons]
    by_cases h : threshold_spoofing < data.magnitude doppler_index i <;> simp [h]

/-- The search loop builds `peaks` by the assignments of `peak_assignments`, from an
empty map: the record it updates alongside never moves the sample counter the entries
are stamped with. -/
theorem search_snd (cfg : Config α) (data : DwellData α) (threshold_spoofing : α)
    (s : PcpsSdAcquisition α) :
    (search cfg data threshold_spoofing s).2 =
      (peak_assignments cfg data threshold_spoofing s.d_sample_counter).foldl
        (fun m e => map_assign e.1 e.2 m) [] := by
  unfold search peak_assignments
  suffices ∀ (l : List Nat) (acc : PcpsSdAcquisition α × List (α × Peak)),
      acc.1.d_sample_counter = s.d_sample_counter →
      (l.foldl (fun acc k => (record_maximum cfg data acc.1 k,
        collect_peaks cfg data threshold_spoofing acc.1.d_sample_counter k acc.2)) acc).2 =
        (l.flatMap (bin_peak_assignments cfg data threshold_spoofing s.d_sample_counter)).foldl
          (fun m e => map_assign e.1 e.2 m) acc.2 from this _ (s, []) rfl
  intro l
  induction l with
  | nil => intro acc _; rfl
  | cons k l ih =>
    intro acc hc
    rw [List.foldl_cons, ih _ (by simpa using hc), List.flatMap_cons, List.foldl_append, hc,
      collect_peaks_eq]

/-- Every assignment of the search is a magnitude above `threshold_spoofing`, of a bin
the search visits, under its normalised value. -/
theorem mem_peak_assignments {cfg : Config α} {data : DwellData α} {threshold_spoofing : α}
    {sample_counter : Nat} {e : α × Peak}
    (he : e ∈ peak_assignments cfg data threshold_spoofing sample_counter) :
    ∃ k < cfg.d_num_doppler_bins, ∃ i, threshold_spoofing < data.magnitude k i ∧
      e.1 = data.magnitude k i / (cfg.fft_normalization_factor * cfg.fft_normalization_factor) := by
  simp only [peak_assignments, bin_peak_assignments, List.mem_flatMap, List.mem_range,
    List.mem_map, List.mem_filter, decide_eq_true_eq] at he
  obtain ⟨k, hk, i, ⟨-, hi⟩, rfl⟩ := he
  exact ⟨k, hk, i, hi, rfl⟩

/-- Every entry of a dwell's `peaks` map lies above `threshold_spoofing`. -/
theorem search_peaks_above {cfg : Config α} {data : DwellData α} {threshold_spoofing : α}
    {s : PcpsSdAcquisition α} {e : α × Peak}
    (he : e ∈ (search cfg data threshold_spoofing s).2) :
    ∃ k < cfg.d_num_doppler_bins, ∃ i, threshold_spoofing < data.magnitude k i ∧
      e.1 = data.magnitude k i / (cfg.fft_normalization_factor * cfg.fft_normalization_factor) := by
  rw [search_snd] at he
  rcases mem_foldl_map_assign he with he | he
  · exact mem_peak_assignments he
  · exact absurd he (List.not_mem_nil _)

/-- A dwell whose auxiliary search finds a peak reports a magnitude above
`threshold_spoofing`, normalised, over the block power. -/
theorem dwell_searched_found (cfg : Config α) (hpeak : 1 < cfg.d_peak)
    (s : PcpsSdAcquisition α) (data : DwellData α) (hfound : (dwell_searched cfg s data).2 = true) :
    ∃ k < cfg.d_num_doppler_bins, ∃ i,
      cfg.d_threshold * data.power *
          (cfg.fft_normalization_factor * cfg.fft_normalization_factor) < data.magnitude k i ∧
        (dwell_searched cfg s data).1.d_test_statistics =
          data.magnitude k i / (cfg.fft_normalization_factor * cfg.fft_normalization_factor) /
            data.power := by
  unfold dwell_searched at hfound ⊢
  simp only [decide_eq_true hpeak, ite_true] at hfound ⊢
  obtain ⟨⟨key, p⟩, he⟩ := Option.isSome_iff_exists.mp hfound
  obtain ⟨k, hk, i, hthr, hkey⟩ :=
    search_peaks_above (List.mem_reverse.mp (select_auxiliary_peak_mem cfg he))
  refine ⟨k, hk, i, hthr, ?_⟩
  rw [he]
  simp only [apply_auxiliary_peak, search_d_input_power]
  rw [← hkey]

/-- A magnitude above `threshold_spoofing = d_threshold·P·F` gives, normalised by `F` and
over the block power `P`, a statistic above `d_threshold`: such a magnitude is nonzero,
so the block power is positive. -/
theorem threshold_lt_statistic (cfg : Config α) (hN : 0 < cfg.d_fft_size) (data : DwellData α)
    {k i : Nat} (h : cfg.d_threshold * data.power *
      (cfg.fft_normalization_factor * cfg.fft_normalization_factor) < data.magnitude k i) :
    cfg.d_threshold < data.magnitude k i /
      (cfg.fft_normalization_factor * cfg.fft_normalization_factor) / data.power := by
  have hF : 0 < cfg.fft_normalization_factor * cfg.fft_normalization_factor := by
    have : (0 : α) < cfg.d_fft_size := Nat.cast_pos.mpr hN
    unfold Config.fft_normalization_factor
    positivity
  have hP : 0 < data.power := by
    refine data.power_nonneg.lt_of_ne fun hP => ?_
    rw [← hP, mul_zero, zero_mul, data.magnitude_eq_zero hP.symm] at h
    exact lt_irrefl 0 h
  rw [lt_div_iff₀ hP, lt_div_iff₀ hF]
  exact h

/-- With auxiliary peaks requested (`d_peak > 1`) and a nonempty FFT, the threshold test
never decides a dwell: a dwell that finds an auxiliary peak reports it with a statistic
above `d_threshold`, since every `peaks` entry lies above `threshold_spoofing`. So a
deciding dwell (every dwell without bit-transition mode, whatever `d_max_dwells` is; the
`d_max_dwells`-th with it) ends in positive acquisition exactly when its auxiliary
search finds a peak, and in negative acquisition otherwise. -/
theorem auxiliary_peak_decides_dwell (cfg : Config α) (hpeak : 1 < cfg.d_peak)
    (hN : 0 < cfg.d_fft_size) (s : PcpsSdAcquisition α) (data : DwellData α) :
    ((dwell_searched cfg s data).2 = true →
        cfg.d_threshold < (dwell cfg s data).d_test_statistics) ∧
      (cfg.d_bit_transition_flag = false ∨ s.d_well_count + 1 = cfg.d_max_dwells →
        (dwell cfg s data).d_state = if (dwell_searched cfg s data).2 then 2 else 3) := by
  have hstat : (dwell_searched cfg s data).2 = true →
      cfg.d_threshold < (dwell_searched cfg s data).1.d_test_statistics := fun hfound => by
    obtain ⟨k, -, i, hthr, heq⟩ := dwell_searched_found cfg hpeak s data hfound
    rw [heq]
    exact threshold_lt_statistic cfg hN data hthr
  have hwell : s.d_well_count + 1 = cfg.d_max_dwells →
      (dwell_searched cfg s data).1.d_well_count = cfg.d_max_dwells := fun h => by
    rw [(dwell_searched_spec cfg s data).2.2.1, h, Nat.mod_eq_of_lt cfg.max_dwells_lt]
  have haux : decide (1 < cfg.d_peak) = true := decide_eq_true hpeak
  refine ⟨hstat, fun hdecides => ?_⟩
  rw [dwell_eq]
  dsimp only
  -- with auxiliary peaks the decision is the search's verdict, once it is taken
  cases hf : (dwell_searched cfg s data).2 <;> rcases hdecides with hflag | hmax
  · simp [dwell_decision, haux, hflag, hf]
  · cases hb : cfg.d_bit_transition_flag <;> simp [dwell_decision, haux, hb, hwell hmax, hf]
  · simp [dwell_decision, haux, hflag, hf, hstat hf]
  · cases hb : cfg.d_bit_transition_flag <;>
      simp [dwell_decision, haux, hb, hwell hmax, hf, hstat hf]

theorem auxiliary_peak_decides_dwell_two_peaks :
    let cfg : Config ℚ :=
      { d_fft_size := 3, d_samples_per_code := 3, d_doppler_max := 5, d_doppler_step := 11,
        d_num_doppler_bins := 1, d_max_dwells := 1, d_bit_transition_flag := false,
        d_peak := 2, d_threshold := 0, samples_per_code_pos := by decide }
    let data : DwellData ℚ :=
      { power := 1, magnitude := fun _ i => ((3 - i : Nat) : ℚ), power_nonneg := zero_le_one,
        magnitude_nonneg := fun _ _ => Nat.cast_nonneg _,
        magnitude_eq_zero := fun h => absurd h one_ne_zero }
    let s : PcpsSdAcquisition ℚ := { initial 0 0 0 0 with d_state := 1, d_active := true }
    1 < cfg.d_peak ∧ 0 < cfg.d_fft_size ∧
      ((dwell_searched cfg s data).2 = true →
          cfg.d_threshold < (dwell cfg s data).d_test_statistics) ∧
        (cfg.d_bit_transition_flag = false ∨ s.d_well_count + 1 = cfg.d_max_dwells →
          (dwell cfg s data).d_state = if (dwell_searched cfg s data).2 then 2 else 3) :=
  ⟨by decide, by decide, auxiliary_peak_decides_dwell _ (by decide) (by decide) _ _⟩

end gnss_sdr.acquisition
