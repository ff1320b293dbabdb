import GnssSdr.Acquisition.Episodes

namespace gnss_sdr.acquisition

variable {α : Type} [LinearOrderedField α]

/-- A running maximum over a list starts at its seed, bounds every value, and is the
seed or one of the values. -/
theorem foldl_max_spec {β : Type} (f : β → α) (l : List β) (m₀ : α) :
    m₀ ≤ l.foldl (fun m i => max m (f i)) m₀ ∧
      (∀ i ∈ l, f i ≤ l.foldl (fun m i => max m (f i)) m₀) ∧
      (l.foldl (fun m i => max m (f i)) m₀ = m₀ ∨
        ∃ i ∈ l, f i = l.foldl (fun m i => max m (f i)) m₀) := by
  induction l generalizing m₀ with
  | nil => simp
  | cons x l ih =>
    obtain ⟨hle, hall, hmem⟩ := ih (max m₀ (f x))
    simp only [List.foldl_cons, List.mem_cons, forall_eq_or_imp, exists_eq_or_imp]
    refine ⟨(le_max_left _ _).trans hle, ⟨(le_max_right _ _).trans hle, hall⟩, ?_⟩
    rcases hmem with h | h
    · rcases max_choice m₀ (f x) with h' | h'
      · exact .inl (h.trans h')
      · exact .inr (.inl (h.trans h').symm)
    · exact .inr (.inr h)

/-- `volk_32f_index_max_16u` over `n ≥ 1` points returns the first index of the largest
value. -/
theorem volk_32f_index_max_16u_spec (x : Nat → α) {n : Nat} (hn : 0 < n) :
    volk_32f_index_max_16u x n < n ∧ (∀ i < n, x i ≤ x (volk_32f_index_max_16u x n)) ∧
      ∀ i < volk_32f_index_max_16u x n, x i < x (volk_32f_index_max_16u x n) := by
  unfold volk_32f_index_max_16u
  suffices ∀ m, m + 1 ≤ n →
      let idx := (List.range' 1 m).foldl (fun index i => if x index < x i then i else index) 0
      idx ≤ m ∧ (∀ i ≤ m, x i ≤ x idx) ∧ ∀ i < idx, x i < x idx by
    obtain ⟨h1, h2, h3⟩ := this (n - 1) (by omega)
    exact ⟨by omega, fun i hi => h2 i (by omega), h3⟩
  intro m
  induction m with
  | zero => intro _; simp
  | succ m ih =>
    intro hm
    obtain ⟨h1, h2, h3⟩ := ih (by omega)
    simp only [List.range'_concat, List.foldl_append, List.foldl_cons, List.foldl_nil]
    rw [show 1 + 1 * m = m + 1 by omega]
    set idx := (List.range' 1 m).foldl (fun index i => if x index < x i then i else index) 0
    split_ifs with hlt
    · refine ⟨le_rfl, fun i hi => ?_, fun i hi => ?_⟩
      · rcases Nat.lt_or_eq_of_le hi with hi | rfl
        · exact (h2 i (by omega)).trans hlt.le
        · exact le_rfl
      · by_cases hi' : i ≤ m
        · exact (h2 i hi').trans_lt hlt
        · omega
    · refine ⟨by omega, fun i hi => ?_, h3⟩
      rcases Nat.lt_or_eq_of_le hi with hi | rfl
      · exact h2 i (by omega)
      · exact not_lt.mp hlt

/-- The largest normalised magnitude `|IFFT(...)[i]|²/fft_size⁴` of a dwell over every
Doppler bin and index: the `M` the search looks for. -/
def dwell_maximum (cfg : Config α) (data : DwellData α) : α :=
  (List.range cfg.d_num_doppler_bins ×ˢ List.range cfg.d_fft_size).foldl
    (fun m ki => max m (data.magnitude ki.1 ki.2 /
      (cfg.fft_normalization_factor * cfg.fft_normalization_factor))) 0

/-- The running maximum of the bins' `magt` over the first `j` bins. -/
def bins_maximum (cfg : Config α) (data : DwellData α) (j : Nat) : α :=
  (List.range j).foldl (fun m k => max m (bin_magt cfg data k)) 0

/-- The search has replaced the statistic and the record: in bit-transition mode when
the best ratio beats the statistic it started from, otherwise when any bin has a
nonzero peak. -/
def SearchUpdated (cfg : Config α) (test_statistics m power : α) : Prop :=
  (cfg.d_bit_transition_flag = true ∧ test_statistics < m / power) ∨
    (cfg.d_bit_transition_flag = false ∧ 0 < m)

instance (cfg : Config α) (test_statistics m power : α) :
    Decidable (SearchUpdated cfg test_statistics m power) :=
  inferInstanceAs (Decidable (_ ∨ _))

/-- The record holds bin `k`'s main peak at the given sample counter. -/
def MainPeakRecord (cfg : Config α) (data : DwellData α) (sample_counter k : Nat)
    (t : PcpsSdAcquisition α) : Prop :=
  t.Acq_delay_samples = bin_indext cfg data k % cfg.d_samples_per_code ∧
    t.Acq_doppler_hz = cfg.bin_doppler k ∧ t.Acq_samplestamp_samples = sample_counter

/-- `t` keeps the statistic and the record of `s`. -/
def SameRecord (s t : PcpsSdAcquisition α) : Prop :=
  t.d_test_statistics = s.d_test_statistics ∧ t.Acq_delay_samples = s.Acq_delay_samples ∧
    t.Acq_doppler_hz = s.Acq_doppler_hz ∧ t.Acq_samplestamp_samples = s.Acq_samplestamp_samples

theorem bin_magt_nonneg (cfg : Config α) (data : DwellData α) (k : Nat) :
    0 ≤ bin_magt cfg data k :=
  div_nonneg (data.magnitude_nonneg _ _) (mul_self_nonneg _)

theorem DwellData.power_pos_of_bin_magt_pos {cfg : Config α} {data : DwellData α} {k : Nat}
    (h : 0 < bin_magt cfg data k) : 0 < data.power := by
  refine lt_of_le_of_ne data.power_nonneg fun h0 => ?_
  simp [bin_magt, data.magnitude_eq_zero h0.symm] at h

theorem record_maximum_of_le {s : PcpsSdAcquisition α} {k : Nat}
    (h : bin_magt cfg data k ≤ s.d_mag) : record_maximum cfg data s k = s := by
  simp [record_maximum, not_lt.mpr h]

theorem record_maximum_of_write {s : PcpsSdAcquisition α} {k : Nat}
    (h : s.d_mag < bin_magt cfg data k)
    (hw : s.d_test_statistics < bin_magt cfg data k / s.d_input_power ∨
      cfg.d_bit_transition_flag = false) :
    record_maximum cfg data s k =
      { s with
        d_mag := bin_magt cfg data k
        Acq_delay_samples := bin_indext cfg data k % cfg.d_samples_per_code
        Acq_doppler_hz := cfg.bin_doppler k
        Acq_samplestamp_samples := s.d_sample_counter
        d_test_statistics := bin_magt cfg data k / s.d_input_power } := by
  rcases hw with hw | hw <;> simp [record_maximum, h, hw]

theorem record_maximum_of_keep {s : PcpsSdAcquisition α} {k : Nat}
    (h : s.d_mag < bin_magt cfg data k) (hbit : cfg.d_bit_transition_flag = true)
    (hn : ¬ s.d_test_statistics < bin_magt cfg data k / s.d_input_power) :
    record_maximum cfg data s k = { s with d_mag := bin_magt cfg data k } := by
  simp [record_maximum, h, hbit, hn]

/-- The loop invariant of the Doppler search: after `j` bins `d_mag` is the largest
`magt` so far, and the statistic and record were replaced (by the first bin reaching
that maximum) exactly when `SearchUpdated` holds. Bit-transition mode needs the
statistic it starts from to be nonnegative. -/
theorem search_loop (cfg : Config α) (data : DwellData α) (u₀ : PcpsSdAcquisition α)
    (hmag : u₀.d_mag = 0) (hpower : u₀.d_input_power = data.power)
    (htest : cfg.d_bit_transition_flag = true → 0 ≤ u₀.d_test_statistics) (j : Nat) :
    let u := (List.range j).foldl (record_maximum cfg data) u₀
    let D := bins_maximum cfg data j
    u.d_mag = D ∧
      if SearchUpdated cfg u₀.d_test_statistics D data.power then
        u.d_test_statistics = D / data.power ∧
          ∃ k < j, bin_magt cfg data k = D ∧ (∀ k' < k, bin_magt cfg data k' < D) ∧
            MainPeakRecord cfg data u₀.d_sample_counter k u
      else SameRecord u₀ u := by
  induction j with
  | zero =>
    refine ⟨hmag, ?_⟩
    rw [if_neg]
    · exact ⟨rfl, rfl, rfl, rfl⟩
    · rintro (⟨hb, h⟩ | ⟨-, h⟩) <;> simp [bins_maximum] at h
      linarith [htest hb]
  | succ j ih =>
    obtain ⟨hD, hrec⟩ := ih
    set u := (List.range j).foldl (record_maximum cfg data) u₀
    set D := bins_maximum cfg data j
    set m := bin_magt cfg data j
    have hD0 : 0 ≤ D := (foldl_max_spec _ _ _).1
    have hbound : ∀ k < j, bin_magt cfg data k ≤ D :=
      fun k hk => (foldl_max_spec _ _ _).2.1 k (List.mem_range.mpr hk)
    have hu_power : u.d_input_power = data.power := by
      rw [← hpower]; exact foldl_congr_proj _ _ (record_maximum_d_input_power cfg data) _ _
    have hu_count : u.d_sample_counter = u₀.d_sample_counter :=
      foldl_congr_proj _ _ (record_maximum_d_sample_counter cfg data) _ _
    have hDsucc : bins_maximum cfg data (j + 1) = max D m := by
      simp only [bins_maximum, List.range_succ, List.foldl_append, List.foldl_cons,
        List.foldl_nil, D, m]
    dsimp only
    rw [List.range_succ, List.foldl_append, List.foldl_cons, List.foldl_nil, hDsucc]
    by_cases hlt : D < m
    · have hm : 0 < m := hD0.trans_lt hlt
      have hdiv : D / data.power < m / data.power :=
        div_lt_div_of_pos_right hlt (DwellData.power_pos_of_bin_magt_pos hm)
      rw [max_eq_right hlt.le]
      by_cases hup : SearchUpdated cfg u₀.d_test_statistics m data.power
      · -- the bin replaces the record: its ratio beats the statistic, whichever wrote it
        have hw : u.d_test_statistics < m / u.d_input_power ∨
            cfg.d_bit_transition_flag = false := by
          rcases hup with ⟨-, h⟩ | ⟨hb, -⟩
          · rw [hu_power]
            split_ifs at hrec
            · exact .inl (hrec.1 ▸ hdiv)
            · exact .inl (hrec.1 ▸ h)
          · exact .inr hb
        rw [record_maximum_of_write (hD ▸ hlt) hw, if_pos hup]
        exact ⟨rfl, by rw [hu_power], j, Nat.lt_succ_self j, rfl,
          fun k' hk' => (hbound k' hk').trans_lt hlt, rfl, rfl, hu_count⟩
      · -- bit-transition mode keeps a statistic the bin does not beat
        have hbit : cfg.d_bit_transition_flag = true := by
          by_contra hb
          exact hup (.inr ⟨by simpa using hb, hm⟩)
        have hnot : ¬ SearchUpdated cfg u₀.d_test_statistics D data.power := by
          rintro (⟨hb, h⟩ | ⟨hb, h⟩)
          · exact hup (.inl ⟨hb, h.trans hdiv⟩)
          · exact hup (.inr ⟨hb, hm⟩)
        rw [if_neg hnot] at hrec
        have hn : ¬ u.d_test_statistics < m / u.d_input_power := by
          rw [hrec.1, hu_power]
          exact fun h => hup (.inl ⟨hbit, h⟩)
        rw [record_maximum_of_keep (hD ▸ hlt) hbit hn, if_neg hup]
        exact ⟨rfl, hrec⟩
    · rw [record_maximum_of_le (hD ▸ not_lt.mp hlt), max_eq_left (not_lt.mp hlt)]
      refine ⟨hD, ?_⟩
      split_ifs at hrec ⊢
      · obtain ⟨htest', k, hk, hkD, hfirst, hrecord⟩ := hrec
        exact ⟨htest', k, Nat.lt_succ_of_lt hk, hkD, hfirst, hrecord⟩
      · exact hrec

/-- With at most one peak requested no auxiliary peak is looked for: the dwell's block
state is the Doppler search's. -/
theorem dwell_searched_of_peak_le_one (hp : cfg.d_peak ≤ 1) (s : PcpsSdAcquisition α)
    (data : DwellData α) :
    dwell_searched cfg s data =
      ((List.range cfg.d_num_doppler_bins).foldl (record_maximum cfg data)
        { s with
          d_input_power := data.power
          d_mag := 0
          d_sample_counter := s.d_sample_counter + cfg.d_fft_size
          d_well_count := (s.d_well_count + 1) % 2 ^ 32 }, false) := by
  simp [dwell_searched, search_fst, apply_auxiliary_peak, not_lt.mpr hp]

/-- One dwell with at most one peak requested: the search loop over every bin, from a
statistic the dwell does not reset. -/
theorem dwell_record (hp : cfg.d_peak ≤ 1) (s : PcpsSdAcquisition α) (data : DwellData α)
    (htest : cfg.d_bit_transition_flag = true → 0 ≤ s.d_test_statistics) :
    let t := dwell cfg s data
    let D := bins_maximum cfg data cfg.d_num_doppler_bins
    if SearchUpdated cfg s.d_test_statistics D data.power then
      t.d_test_statistics = D / data.power ∧
        ∃ k < cfg.d_num_doppler_bins, bin_magt cfg data k = D ∧
          (∀ k' < k, bin_magt cfg data k' < D) ∧
          MainPeakRecord cfg data (s.d_sample_counter + cfg.d_fft_size) k t
    else SameRecord s t := by
  rw [dwell_eq, dwell_searched_of_peak_le_one hp]
  exact (search_loop cfg data
    { s with
      d_input_power := data.power
      d_mag := 0
      d_sample_counter := s.d_sample_counter + cfg.d_fft_size
      d_well_count := (s.d_well_count + 1) % 2 ^ 32 } rfl rfl htest _).2

/-- `magt` is the largest normalised magnitude of the bin, first reached at `indext`. -/
theorem bin_magt_spec (hN : 0 < cfg.d_fft_size) (data : DwellData α) (k : Nat) :
    let nf := cfg.fft_normalization_factor * cfg.fft_normalization_factor
    bin_indext cfg data k < cfg.d_fft_size ∧
      (∀ i < cfg.d_fft_size, data.magnitude k i / nf ≤ bin_magt cfg data k) ∧
      ∀ i < bin_indext cfg data k, data.magnitude k i / nf < bin_magt cfg data k := by
  have hnf : 0 < cfg.fft_normalization_factor * cfg.fft_normalization_factor := by
    unfold Config.fft_normalization_factor; positivity
  obtain ⟨h1, h2, h3⟩ := volk_32f_index_max_16u_spec (data.magnitude k) hN
  exact ⟨h1, fun i hi => div_le_div_of_nonneg_right (h2 i hi) hnf.le,
    fun i hi => div_lt_div_of_pos_right (h3 i hi) hnf⟩

theorem bin_magt_of_fft_size_eq_zero (hN : cfg.d_fft_size = 0) (data : DwellData α) (k : Nat) :
    bin_magt cfg data k = 0 := by
  simp [bin_magt, Config.fft_normalization_factor, hN]

/-- The running maximum over all bins is the largest normalised magnitude of the dwell. -/
theorem bins_maximum_eq_dwell_maximum (data : DwellData α) :
    bins_maximum cfg data cfg.d_num_doppler_bins = dwell_maximum cfg data := by
  obtain ⟨hb0, hball, hbmem⟩ := foldl_max_spec (bin_magt cfg data) (List.range cfg.d_num_doppler_bins) 0
  obtain ⟨hd0, hdall, hdmem⟩ := foldl_max_spec
    (fun ki : Nat × Nat => data.magnitude ki.1 ki.2 /
      (cfg.fft_normalization_factor * cfg.fft_normalization_factor))
    (List.range cfg.d_num_doppler_bins ×ˢ List.range cfg.d_fft_size) 0
  unfold bins_maximum dwell_maximum
  apply le_antisymm
  · rcases hbmem with h | ⟨k, hk, h⟩
    · rw [h]; exact hd0
    · rw [← h]
      rcases Nat.eq_zero_or_pos cfg.d_fft_size with hN | hN
      · rw [bin_magt_of_fft_size_eq_zero hN]; exact hd0
      · exact hdall (k, bin_indext cfg data k)
          (List.mem_product.mpr ⟨hk, List.mem_range.mpr (bin_magt_spec hN data k).1⟩)
  · rcases hdmem with h | ⟨⟨k, i⟩, hki, h⟩
    · rw [h]; exact hb0
    · rw [← h]
      obtain ⟨hk, hi⟩ := List.mem_product.mp hki
      have hN : 0 < cfg.d_fft_size := List.length_range cfg.d_fft_size ▸ List.length_pos_of_mem hi
      exact ((bin_magt_spec hN data k).2.1 i (List.mem_range.mp hi)).trans (hball k hk)

/-- The record holds the main peak of a dwell as read from its magnitudes: the first bin,
and in it the first index, reaching the dwell's largest normalised magnitude, stamped
with the given sample counter. -/
def DwellPeak (cfg : Config α) (data : DwellData α) (sample_counter : Nat)
    (t : PcpsSdAcquisition α) : Prop :=
  let nf := cfg.fft_normalization_factor * cfg.fft_normalization_factor
  ∃ k < cfg.d_num_doppler_bins, ∃ i < cfg.d_fft_size,
    data.magnitude k i / nf = dwell_maximum cfg data ∧
    (∀ k' < k, ∀ i' < cfg.d_fft_size, data.magnitude k' i' / nf < dwell_maximum cfg data) ∧
    (∀ i' < i, data.magnitude k i' / nf < dwell_maximum cfg data) ∧
    t.Acq_delay_samples = i % cfg.d_samples_per_code ∧ t.Acq_doppler_hz = cfg.bin_doppler k ∧
    t.Acq_samplestamp_samples = sample_counter

omit [LinearOrderedField α] in
theorem SameRecord.trans {s t u : PcpsSdAcquisition α} (h₁ : SameRecord s t)
    (h₂ : SameRecord t u) : SameRecord s u :=
  ⟨h₂.1.trans h₁.1, h₂.2.1.trans h₁.2.1, h₂.2.2.1.trans h₁.2.2.1, h₂.2.2.2.trans h₁.2.2.2⟩

theorem DwellPeak.of_sameRecord {data : DwellData α} {c : Nat} {t u : PcpsSdAcquisition α}
    (h : DwellPeak cfg data c t) (hsame : SameRecord t u) : DwellPeak cfg data c u := by
  obtain ⟨k, hk, i, hi, hmax, hk', hi', hd, hdop, hst⟩ := h
  exact ⟨k, hk, i, hi, hmax, hk', hi', hsame.2.1 ▸ hd, hsame.2.2.1 ▸ hdop, hsame.2.2.2 ▸ hst⟩

/-- A bin's main peak that is the first to reach a positive dwell maximum is the
dwell's main peak. -/
theorem MainPeakRecord.dwellPeak {data : DwellData α} {c k : Nat} {t : PcpsSdAcquisition α}
    (hk : k < cfg.d_num_doppler_bins) (hkD : bin_magt cfg data k = dwell_maximum cfg data)
    (hfirst : ∀ k' < k, bin_magt cfg data k' < dwell_maximum cfg data)
    (hpos : 0 < dwell_maximum cfg data) (hrec : MainPeakRecord cfg data c k t) :
    DwellPeak cfg data c t := by
  have hN : 0 < cfg.d_fft_size := Nat.pos_of_ne_zero fun h0 => by
    rw [← hkD, bin_magt_of_fft_size_eq_zero h0] at hpos; exact lt_irrefl _ hpos
  obtain ⟨hidx, hle, hlt⟩ := bin_magt_spec hN data k
  exact ⟨k, hk, bin_indext cfg data k, hidx, hkD,
    fun k' hk' i' hi' => ((bin_magt_spec hN data k').2.1 i' hi').trans_lt (hfirst k' hk'),
    fun i' hi' => hkD ▸ hlt i' hi', hrec⟩

/-- An updated search found a positive maximum: a statistic replaced in bit-transition
mode by a ratio above a nonnegative one, or a nonzero peak otherwise. -/
theorem SearchUpdated.pos {test_statistics m power : α}
    (htest : cfg.d_bit_transition_flag = true → 0 ≤ test_statistics) (hpower : 0 ≤ power)
    (h : SearchUpdated cfg test_statistics m power) : 0 < m := by
  rcases h with ⟨hb, h⟩ | ⟨-, h⟩
  · by_contra hm
    exact absurd ((htest hb).trans_lt h) (not_lt.mpr (div_nonpos_of_nonpos_of_nonneg
      (not_lt.mp hm) hpower))
  · exact h

/-- One dwell with at most one peak requested, read on its magnitudes: the statistic
and the record are replaced by the dwell's main peak when `SearchUpdated` holds for the
dwell's largest normalised magnitude, and kept otherwise. -/
theorem dwell_peak (hp : cfg.d_peak ≤ 1) (s : PcpsSdAcquisition α) (data : DwellData α)
    (htest : cfg.d_bit_transition_flag = true → 0 ≤ s.d_test_statistics) :
    let t := dwell cfg s data
    if SearchUpdated cfg s.d_test_statistics (dwell_maximum cfg data) data.power then
      t.d_test_statistics = dwell_maximum cfg data / data.power ∧
        DwellPeak cfg data (s.d_sample_counter + cfg.d_fft_size) t
    else SameRecord s t := by
  have h := dwell_record hp s data htest
  simp only [bins_maximum_eq_dwell_maximum] at h
  split_ifs at h ⊢ with hup
  · obtain ⟨htest', k, hk, hkD, hfirst, hrec⟩ := h
    exact ⟨htest', MainPeakRecord.dwellPeak hk hkD hfirst
      (hup.pos htest data.power_nonneg) hrec⟩
  · exact h

theorem dwell_d_sample_counter (s : PcpsSdAcquisition α) (data : DwellData α) :
    (dwell cfg s data).d_sample_counter = s.d_sample_counter + cfg.d_fft_size :=
  (dwell_searched_spec cfg s data).2.2.2.1

theorem foldl_dwell_d_sample_counter (s : PcpsSdAcquisition α) (ds : List (DwellData α)) :
    (ds.foldl (dwell cfg) s).d_sample_counter =
      s.d_sample_counter + cfg.d_fft_size * ds.length := by
  induction ds generalizing s with
  | nil => rfl
  | cons data ds ih =>
    rw [List.foldl_cons, ih, dwell_d_sample_counter, List.length_cons, Nat.mul_succ]
    omega

/-- The largest ratio `M_j / P_j` over a sequence of dwells, `0` for none. -/
def dwells_maximum (cfg : Config α) (ds : List (DwellData α)) : α :=
  ds.foldl (fun r data => max r (dwell_maximum cfg data / data.power)) 0

/-- The loop invariant over the dwells of a bit-transition episode: the statistic is the
largest ratio so far; when it is positive the record is the main peak of the first dwell
reaching it, and otherwise the record is still the one the episode started with. -/
theorem dwells_record_of_bit_transition (hp : cfg.d_peak ≤ 1)
    (hbit : cfg.d_bit_transition_flag = true) (s : PcpsSdAcquisition α)
    (hs : s.d_test_statistics = 0) (ds : List (DwellData α)) :
    let t := ds.foldl (dwell cfg) s
    let R := dwells_maximum cfg ds
    t.d_test_statistics = R ∧
      if 0 < R then
        ∃ pre data post, ds = pre ++ data :: post ∧ dwell_maximum cfg data / data.power = R ∧
          (∀ d ∈ pre, dwell_maximum cfg d / d.power < R) ∧
          DwellPeak cfg data (s.d_sample_counter + cfg.d_fft_size * (pre.length + 1)) t
      else SameRecord s t := by
  induction ds using List.reverseRecOn with
  | nil =>
    exact ⟨hs, (if_neg (lt_irrefl (0 : α))).mpr ⟨rfl, rfl, rfl, rfl⟩⟩
  | append_singleton l a ih =>
    obtain ⟨htest, hrec⟩ := ih
    set t := l.foldl (dwell cfg) s
    set R := dwells_maximum cfg l
    set r := dwell_maximum cfg a / a.power
    have hR0 : 0 ≤ R := (foldl_max_spec _ _ _).1
    have hRall : ∀ d ∈ l, dwell_maximum cfg d / d.power ≤ R := (foldl_max_spec _ _ _).2.1
    have hR : dwells_maximum cfg (l ++ [a]) = max R r := by
      simp only [dwells_maximum, List.foldl_append, List.foldl_cons, List.foldl_nil, R, r]
    have hdwell := dwell_peak hp t a (fun _ => htest ▸ hR0)
    have hcount : t.d_sample_counter + cfg.d_fft_size =
        s.d_sample_counter + cfg.d_fft_size * (l.length + 1) := by
      rw [foldl_dwell_d_sample_counter, Nat.mul_succ, Nat.add_assoc]
    dsimp only
    rw [List.foldl_append, List.foldl_cons, List.foldl_nil, hR]
    by_cases hlt : R < r
    · -- the dwell beats every earlier ratio: it holds the record
      have hup : SearchUpdated cfg t.d_test_statistics (dwell_maximum cfg a) a.power :=
        .inl ⟨hbit, htest ▸ hlt⟩
      rw [if_pos hup, hcount] at hdwell
      rw [max_eq_right hlt.le, if_pos (hR0.trans_lt hlt)]
      exact ⟨hdwell.1, l, a, [], rfl, rfl,
        fun d hd => (hRall d hd).trans_lt hlt, hdwell.2⟩
    · -- the earlier statistic stands, and so does the record
      have hup : ¬ SearchUpdated cfg t.d_test_statistics (dwell_maximum cfg a) a.power := by
        rintro (⟨-, h⟩ | ⟨hb, -⟩)
        · exact hlt (htest ▸ h)
        · simp [hbit] at hb
      rw [if_neg hup] at hdwell
      rw [max_eq_left (not_lt.mp hlt)]
      refine ⟨hdwell.1.trans htest, ?_⟩
      split_ifs at hrec ⊢
      · obtain ⟨pre, d, post, rfl, hd, hpre, hpeak⟩ := hrec
        exact ⟨pre, d, post ++ [a], by simp, hd, hpre, hpeak.of_sameRecord hdwell⟩
      · exact hrec.trans hdwell

/-- What the Doppler search leaves in the statistic and the record when no auxiliary
peak is looked for. Without bit transitions, a dwell with a nonzero peak writes its
ratio `M/P` and its main peak, whatever came before. With bit transitions, over the
dwells of an episode (the `general_work` calls made in state 1, from the statistic
reset to 0 on entering it), the statistic is the largest ratio so far and, once that is
positive, the record is the main peak of the first dwell reaching it; while it is 0 the
record keeps the values the episode started from. -/
def MainPeakLaws (cfg : Config α) : Prop :=
  (cfg.d_bit_transition_flag = false →
    ∀ (s : PcpsSdAcquisition α) (data : DwellData α), 0 < dwell_maximum cfg data →
      (dwell cfg s data).d_test_statistics = dwell_maximum cfg data / data.power ∧
        DwellPeak cfg data (s.d_sample_counter + cfg.d_fft_size) (dwell cfg s data)) ∧
  (cfg.d_bit_transition_flag = true →
    ∀ (s : PcpsSdAcquisition α) (ds : List (DwellData α)), s.d_test_statistics = 0 →
      (ds.foldl (dwell cfg) s).d_test_statistics = dwells_maximum cfg ds ∧
        if 0 < dwells_maximum cfg ds then
          ∃ pre data post, ds = pre ++ data :: post ∧
            dwell_maximum cfg data / data.power = dwells_maximum cfg ds ∧
            (∀ d ∈ pre, dwell_maximum cfg d / d.power < dwells_maximum cfg ds) ∧
            DwellPeak cfg data (s.d_sample_counter + cfg.d_fft_size * (pre.length + 1))
              (ds.foldl (dwell cfg) s)
        else SameRecord s (ds.foldl (dwell cfg) s))

theorem search_records_first_maximum (cfg : Config α) (hp : cfg.d_peak ≤ 1)
    (hN' : cfg.d_fft_size ≤ 65535) : MainPeakLaws cfg := by
  refine ⟨fun hbit s data hpos => ?_, fun hbit s ds hs => dwells_record_of_bit_transition hp hbit s hs ds⟩
  have h := dwell_peak hp s data (fun h => by simp [hbit] at h)
  rwa [if_pos (.inr ⟨hbit, hpos⟩)] at h

theorem search_records_first_maximum_one_bin :
    let cfg : Config ℚ :=
      { d_fft_size := 1, d_samples_per_code := 1, d_doppler_max := 1, d_doppler_step := 3,
        d_num_doppler_bins := 1, d_max_dwells := 2, d_bit_transition_flag := true, d_peak := 1,
        d_threshold := 0, samples_per_code_pos := Nat.one_pos }
    cfg.d_peak ≤ 1 ∧ cfg.d_fft_size ≤ 65535 ∧ MainPeakLaws cfg :=
  ⟨le_refl 1, by decide, search_records_first_maximum _ (le_refl 1) (by decide)⟩

/-- A bit-transition episode of one dwell over a block of power 1 that correlates to
zero in every bin: the largest ratio, 0, is that dwell's, yet the record keeps the
values the episode was entered with, `(0, 0, 0)`, instead of the dwell's main peak
(bin 0, at -1 Hz, stamped 1). -/
theorem zero_peak_episode_keeps_reset_record :
    let cfg : Config ℚ :=
      { d_fft_size := 1, d_samples_per_code := 1, d_doppler_max := 1, d_doppler_step := 3,
        d_num_doppler_bins := 1, d_max_dwells := 2, d_bit_transition_flag := true, d_peak := 1,
        d_threshold := 0, samples_per_code_pos := Nat.one_pos }
    let data : DwellData ℚ :=
      { power := 1, magnitude := fun _ _ => 0, power_nonneg := zero_le_one,
        magnitude_nonneg := fun _ _ => le_rfl, magnitude_eq_zero := fun _ _ _ => rfl }
    let t := (run cfg (initial 0 0 0 0)
      [.set_active true, .general_work 0 data, .general_work 1 data]).1
    t.d_test_statistics = dwells_maximum cfg [data] ∧
      dwell_maximum cfg data / data.power = dwells_maximum cfg [data] ∧
      t.Acq_doppler_hz = 0 ∧ ¬ DwellPeak cfg data 1 t := by
  intro cfg data t
  have ht : t.d_test_statistics = 0 ∧ t.Acq_doppler_hz = 0 := by with_unfolding_all decide
  have hM : dwells_maximum cfg [data] = 0 := by with_unfolding_all decide
  refine ⟨hM ▸ ht.1, by rw [hM]; with_unfolding_all decide, ht.2, ?_⟩
  rintro ⟨k, hk, -, -, -, -, -, -, hdop, -⟩
  obtain rfl : k = 0 := Nat.lt_one_iff.mp hk
  exact absurd (ht.2 ▸ hdop) (by decide)

end gnss_sdr.acquisition
