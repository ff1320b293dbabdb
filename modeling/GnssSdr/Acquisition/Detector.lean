import GnssSdr.Acquisition.Channel

namespace gnss_sdr.acquisition

/-! The detector an acquisition episode implements. With at most one peak requested,
both decision modes push ACQ_SUCCESS exactly when one of the episode's first
`d_max_dwells` dwells reaches a peak-to-power ratio above the threshold; they differ in
when they decide and which peak they record. -/

variable {α : Type} [LinearOrderedField α]

/-- The ratio one dwell's main peak reaches: its largest normalised correlation
magnitude over the block's power. -/
def dwell_ratio (cfg : Config α) (data : DwellData α) : α :=
  dwell_maximum cfg data / data.power

/-- The detection rule: one of the first `d_max_dwells` dwells has a ratio above the
threshold. -/
def Detects (cfg : Config α) (ds : List (DwellData α)) : Prop :=
  ∃ data ∈ ds.take cfg.d_max_dwells, cfg.d_threshold < dwell_ratio cfg data

instance (cfg : Config α) (ds : List (DwellData α)) : Decidable (Detects cfg ds) :=
  inferInstanceAs (Decidable (∃ data ∈ _, _))

section dwell

variable {cfg : Config α}

theorem dwell_ratio_nonneg (cfg : Config α) (data : DwellData α) : 0 ≤ dwell_ratio cfg data := by
  unfold dwell_ratio dwell_maximum
  exact div_nonneg (foldl_max_spec _ _ 0).1 data.power_nonneg

/-- With at most one peak requested, a dwell replaces the statistic by its ratio when the
search updates the record, and keeps it otherwise. -/
theorem dwell_test_statistics (hp : cfg.d_peak ≤ 1)
    (s : PcpsSdAcquisition α) (data : DwellData α) (htest : 0 ≤ s.d_test_statistics) :
    (dwell cfg s data).d_test_statistics =
      if SearchUpdated cfg s.d_test_statistics (dwell_maximum cfg data) data.power
      then dwell_ratio cfg data else s.d_test_statistics := by
  have h := dwell_peak hp s data (fun _ => htest)
  split_ifs at h ⊢
  · exact h.1
  · exact h.1

theorem dwell_test_statistics_nonneg (hp : cfg.d_peak ≤ 1)
    (s : PcpsSdAcquisition α) (data : DwellData α) (htest : 0 ≤ s.d_test_statistics) :
    0 ≤ (dwell cfg s data).d_test_statistics := by
  rw [dwell_test_statistics hp s data htest]
  split_ifs
  · exact dwell_ratio_nonneg cfg data
  · exact htest

/-- The threshold crossing of one dwell: from a nonnegative statistic that, outside
bit-transition mode, is not above the threshold, the statistic after the dwell is above
the threshold exactly when the one before was or the dwell's ratio is. -/
theorem threshold_lt_dwell_iff (hp : cfg.d_peak ≤ 1)
    (hthr : 0 ≤ cfg.d_threshold) (s : PcpsSdAcquisition α) (data : DwellData α)
    (htest : 0 ≤ s.d_test_statistics)
    (hbelow : cfg.d_bit_transition_flag = false → s.d_test_statistics ≤ cfg.d_threshold) :
    cfg.d_threshold < (dwell cfg s data).d_test_statistics ↔
      cfg.d_threshold < s.d_test_statistics ∨ cfg.d_threshold < dwell_ratio cfg data := by
  rw [dwell_test_statistics hp s data htest]
  split_ifs with hup
  · -- the record is replaced: the statistic is the dwell's ratio
    rcases hup with ⟨-, hlt⟩ | ⟨hbit, -⟩
    · exact (or_iff_right_of_imp fun h => h.trans hlt).symm
    · exact (or_iff_right_of_imp fun h => absurd h (not_lt.mpr (hbelow hbit))).symm
  · -- the record is kept: the dwell's ratio does not cross the threshold past it
    refine (or_iff_left_of_imp fun h => ?_).symm
    cases hbit : cfg.d_bit_transition_flag
    · have hr : dwell_ratio cfg data ≤ 0 := div_nonpos_of_nonpos_of_nonneg
        (not_lt.mp fun hD => hup (.inr ⟨hbit, hD⟩)) data.power_nonneg
      exact absurd (h.trans_le hr) (not_lt.mpr hthr)
    · exact h.trans_le (not_lt.mp fun hr => hup (.inl ⟨hbit, hr⟩))

/-- With at most one peak requested, the state a dwell from state 1 leaves: at the last
dwell a success when the statistic is above the threshold and a failure otherwise;
before it a success outside bit-transition mode when the statistic is above the
threshold, and state 1 otherwise. -/
theorem dwell_d_state (hp : cfg.d_peak ≤ 1) (s : PcpsSdAcquisition α) (data : DwellData α)
    (h1 : s.d_state = 1) (hw : s.d_well_count < cfg.d_max_dwells) :
    (dwell cfg s data).d_state =
      if s.d_well_count + 1 = cfg.d_max_dwells then
        (if cfg.d_threshold < (dwell cfg s data).d_test_statistics then 2 else 3)
      else if cfg.d_bit_transition_flag = false ∧
          cfg.d_threshold < (dwell cfg s data).d_test_statistics then 2
      else 1 := by
  have hstate := (dwell_searched_spec cfg s data).1
  have hwell := dwell_searched_d_well_count_of_lt hw data
  rw [dwell_eq]
  simp only [dwell_decision, hwell, hstate, h1, decide_eq_false (not_lt.mpr hp), Bool.false_and,
    Bool.not_false, Bool.false_eq_true, if_false]
  by_cases hw : s.d_well_count + 1 = cfg.d_max_dwells <;>
    by_cases ht : cfg.d_threshold < (dwell_searched cfg s data).1.d_test_statistics <;>
    cases cfg.d_bit_transition_flag <;> simp [hw, ht]

end dwell

section episode

variable {cfg : Config α}

/-- A decided block reports on the next call and then stays silent. -/
theorem run_work_calls_decided {s : PcpsSdAcquisition α} (h : s.d_state = 2 ∨ s.d_state = 3)
    (calls : List (Nat × DwellData α)) (hne : calls ≠ []) :
    (run cfg s (work_calls calls)).2 = [if s.d_state = 2 then 1 else 2] := by
  obtain ⟨c, calls, rfl⟩ := List.exists_cons_of_ne_nil hne
  obtain ⟨hmsg, h0, ha⟩ := @step_decided α _ cfg s h c.1 c.2
  rw [work_calls_cons, run_cons, hmsg, (run_work_calls_idle h0 ha calls).1]
  rfl

/-- The rest of an episode from state 1 pushes ACQ_SUCCESS exactly when the statistic is
already above the threshold or one of the dwells left has a ratio above it. The
statistic is nonnegative and, outside bit-transition mode, not above the threshold. -/
theorem run_work_calls_detects (hp : cfg.d_peak ≤ 1)
    (hthr : 0 ≤ cfg.d_threshold) :
    ∀ (calls : List (Nat × DwellData α)) (t : PcpsSdAcquisition α), t.d_state = 1 →
      t.d_well_count < cfg.d_max_dwells → 0 ≤ t.d_test_statistics →
      (cfg.d_bit_transition_flag = false → t.d_test_statistics ≤ cfg.d_threshold) →
      cfg.d_max_dwells - t.d_well_count + 1 ≤ calls.length →
      (run cfg t (work_calls calls)).2 =
        [if cfg.d_threshold < t.d_test_statistics ∨
            ∃ data ∈ (calls.map Prod.snd).take (cfg.d_max_dwells - t.d_well_count),
              cfg.d_threshold < dwell_ratio cfg data then 1 else 2] := by
  intro calls
  induction calls with
  | nil => intro t _ _ _ _ hlen; simp at hlen
  | cons c calls ih =>
    intro t h1 hlt hnn hbelow hlen
    have hwell := dwell_d_well_count_of_lt hlt c.2
    have hcross := threshold_lt_dwell_iff hp hthr t c.2 hnn hbelow
    have hstate := dwell_d_state hp t c.2 h1 hlt
    set u := dwell cfg t c.2
    have hne : calls ≠ [] := by rintro rfl; simp at hlen; omega
    -- the condition on `t` is the condition on `u` with the dwell just made
    obtain ⟨k, hk⟩ : ∃ k, cfg.d_max_dwells - t.d_well_count = k + 1 :=
      ⟨cfg.d_max_dwells - t.d_well_count - 1, by omega⟩
    have hcond : (cfg.d_threshold < t.d_test_statistics ∨
        ∃ data ∈ ((c :: calls).map Prod.snd).take (k + 1),
          cfg.d_threshold < dwell_ratio cfg data) ↔
        (cfg.d_threshold < u.d_test_statistics ∨
          ∃ data ∈ (calls.map Prod.snd).take k, cfg.d_threshold < dwell_ratio cfg data) := by
      simp only [hcross, List.map_cons, List.take_succ_cons, List.mem_cons, exists_eq_or_imp,
        or_assoc]
    rw [work_calls_cons, run_cons, show step cfg t (.general_work c.1 c.2) = (u, none) from
      general_work_of_one _ _ _ _ h1, Option.toList_none, List.nil_append, hk,
      if_congr hcond rfl rfl]
    by_cases hlast : t.d_well_count + 1 = cfg.d_max_dwells
    · -- the last dwell decides on its statistic; the next call reports
      rw [if_pos hlast] at hstate
      by_cases ht : cfg.d_threshold < u.d_test_statistics
      · rw [if_pos ht] at hstate
        rw [run_work_calls_decided (.inl hstate) calls hne, if_pos hstate, if_pos (.inl ht)]
      · rw [if_neg ht] at hstate
        rw [run_work_calls_decided (.inr hstate) calls hne, if_neg (by omega),
          show k = 0 by omega, List.take_zero, if_neg (by simp [ht])]
    · rw [if_neg hlast] at hstate
      by_cases hsucc : cfg.d_bit_transition_flag = false ∧
          cfg.d_threshold < u.d_test_statistics
      · -- a success before the last dwell outside bit-transition mode
        rw [if_pos hsucc] at hstate
        rw [run_work_calls_decided (.inl hstate) calls hne, if_pos hstate, if_pos (.inl hsucc.2)]
      · -- no decision: the episode goes on from `u`
        rw [if_neg hsucc] at hstate
        have hu : cfg.d_max_dwells - u.d_well_count = k := by omega
        rw [ih u hstate (by omega) (dwell_test_statistics_nonneg hp t c.2 hnn) (fun hb => not_lt.mp fun h => hsucc ⟨hb, h⟩)
          (by simp at hlen; omega), hu]

end episode

/-- Both decision modes implement one detector. With at most one peak requested
(`d_peak ≤ 1`), a nonnegative threshold and
`d_max_dwells ≥ 1`, an active idle block fed `d_max_dwells + 2` or more `general_work`
calls pushes exactly one message: ACQ_SUCCESS when one of the dwells the calls after the
activation carry, among the first `d_max_dwells`, has a peak-to-power ratio above the
threshold, and ACQ_FAIL otherwise. Outside bit-transition mode the episode stops at the
first such dwell; in bit-transition mode it runs all `d_max_dwells` dwells and decides
on their largest ratio. -/
theorem acquisition_detects_above_threshold {cfg : Config α} (hp : cfg.d_peak ≤ 1)
    (hthr : 0 ≤ cfg.d_threshold) (hmax : 1 ≤ cfg.d_max_dwells)
    {s : PcpsSdAcquisition α} (h0 : s.d_state = 0) (ha : s.d_active = true)
    (calls : List (Nat × DwellData α)) (hlen : cfg.d_max_dwells + 2 ≤ calls.length) :
    (run cfg s (work_calls calls)).2 =
      [if Detects cfg ((calls.drop 1).map Prod.snd) then 1 else 2] := by
  obtain ⟨c, calls, rfl⟩ := List.exists_cons_of_ne_nil (by rintro rfl; simp at hlen : calls ≠ [])
  have h1 : (step cfg s (.general_work c.1 c.2)).1.d_state = 1 := by
    rw [step, general_work_of_zero _ _ _ _ h0, if_pos ha]
  obtain ⟨hwell, hstat, hnone⟩ := step_activation h0 h1
  rw [work_calls_cons, run_cons, hnone, Option.toList_none, List.nil_append,
    run_work_calls_detects hp hthr calls _ h1 (by rw [hwell]; omega) hstat.ge
      (fun _ => hstat.trans_le hthr) (by rw [hwell]; simp at hlen; omega),
    hwell, hstat, Nat.sub_zero, List.drop_one, List.tail_cons,
    if_congr (or_iff_right (not_lt.mpr hthr)) rfl rfl]
  rfl

theorem acquisition_detects_above_threshold_second_dwell :
    let cfg : Config ℚ :=
      { d_fft_size := 1, d_samples_per_code := 1, d_doppler_max := 0, d_doppler_step := 1,
        d_num_doppler_bins := 1, d_max_dwells := 2, d_bit_transition_flag := false,
        d_peak := 1, d_threshold := 0, samples_per_code_pos := Nat.one_pos }
    let quiet : DwellData ℚ :=
      { power := 1, magnitude := fun _ _ => 0, power_nonneg := zero_le_one,
        magnitude_nonneg := fun _ _ => le_rfl, magnitude_eq_zero := fun _ _ _ => rfl }
    let strong : DwellData ℚ :=
      { power := 1, magnitude := fun _ _ => 1, power_nonneg := zero_le_one,
        magnitude_nonneg := fun _ _ => zero_le_one,
        magnitude_eq_zero := fun h _ _ => absurd h one_ne_zero }
    let s : PcpsSdAcquisition ℚ := { initial 0 0 0 0 with d_active := true }
    let calls := [(1, quiet), (1, quiet), (1, strong), (1, quiet)]
    cfg.d_peak ≤ 1 ∧ 0 ≤ cfg.d_threshold ∧ 1 ≤ cfg.d_max_dwells ∧
      s.d_state = 0 ∧ s.d_active = true ∧ cfg.d_max_dwells + 2 ≤ calls.length ∧
      (run cfg s (work_calls calls)).2 =
        [if Detects cfg ((calls.drop 1).map Prod.snd) then 1 else 2] := by
  intro cfg quiet strong s calls
  exact ⟨le_rfl, le_rfl, by decide, rfl, rfl, by decide,
    acquisition_detects_above_threshold le_rfl le_rfl (by decide) rfl rfl calls
      (by decide)⟩

section reported_peak

variable {cfg : Config α}

/-- An idle block keeps its record whatever `general_work` calls it gets. -/
theorem run_work_calls_idle_sameRecord {s : PcpsSdAcquisition α} (h0 : s.d_state = 0)
    (ha : s.d_active = false) (calls : List (Nat × DwellData α)) :
    SameRecord s (run cfg s (work_calls calls)).1 := by
  induction calls generalizing s with
  | nil => exact ⟨rfl, rfl, rfl, rfl⟩
  | cons c calls ih =>
    rw [work_calls_cons, run_cons, step, general_work_of_zero _ _ _ _ h0, if_neg (by simp [ha])]
    exact SameRecord.trans ⟨rfl, rfl, rfl, rfl⟩ (ih h0 ha)

/-- A decided block keeps its record through the report and the idle calls after it. -/
theorem run_work_calls_decided_sameRecord {s : PcpsSdAcquisition α}
    (h : s.d_state = 2 ∨ s.d_state = 3) (calls : List (Nat × DwellData α)) (hne : calls ≠ []) :
    SameRecord s (run cfg s (work_calls calls)).1 := by
  obtain ⟨c, calls, rfl⟩ := List.exists_cons_of_ne_nil hne
  obtain ⟨-, h0, ha⟩ := @step_decided α _ cfg s h c.1 c.2
  rw [work_calls_cons, run_cons]
  refine SameRecord.trans ?_ (run_work_calls_idle_sameRecord h0 ha calls)
  rcases h with h | h
  · rw [step, general_work_of_two _ _ _ _ h]; exact ⟨rfl, rfl, rfl, rfl⟩
  · rw [step, general_work_of_three _ _ _ _ h]; exact ⟨rfl, rfl, rfl, rfl⟩

/-- Outside bit-transition mode, the dwells of an episode below the threshold leave it
running, and the first dwell above it decides and records its main peak, which the
report then hands over unchanged. -/
theorem run_work_calls_first_peak (hp : cfg.d_peak ≤ 1)
    (hthr : 0 ≤ cfg.d_threshold) (hbit : cfg.d_bit_transition_flag = false) (n : Nat)
    (data : DwellData α) (post : List (Nat × DwellData α))
    (hdet : cfg.d_threshold < dwell_ratio cfg data) (hpost : post ≠ []) :
    ∀ (pre : List (Nat × DwellData α)) (t : PcpsSdAcquisition α), t.d_state = 1 →
      t.d_well_count + pre.length < cfg.d_max_dwells → 0 ≤ t.d_test_statistics →
      t.d_test_statistics ≤ cfg.d_threshold →
      (∀ c ∈ pre, dwell_ratio cfg c.2 ≤ cfg.d_threshold) →
      (run cfg t (work_calls (pre ++ (n, data) :: post))).2 = [1] ∧
        DwellPeak cfg data (t.d_sample_counter + cfg.d_fft_size * (pre.length + 1))
          (run cfg t (work_calls (pre ++ (n, data) :: post))).1 := by
  intro pre
  induction pre with
  | nil =>
    intro t h1 _ hnn hle _
    have hstat : cfg.d_threshold < (dwell cfg t data).d_test_statistics :=
      (threshold_lt_dwell_iff hp hthr t data hnn fun _ => hle).mpr (.inr hdet)
    have h2 : (dwell cfg t data).d_state = 2 := by
      rw [dwell_d_state hp t data h1 (by omega)]
      simp [hbit, hstat]
    -- the dwell's maximum is positive, so the search recorded its main peak
    have hD : 0 < dwell_maximum cfg data := by
      by_contra hD
      exact absurd (hthr.trans_lt hdet)
        (not_lt.mpr (div_nonpos_of_nonpos_of_nonneg (not_lt.mp hD) data.power_nonneg))
    have hpeak := dwell_peak hp t data (fun _ => hnn)
    rw [if_pos (.inr ⟨hbit, hD⟩)] at hpeak
    rw [List.nil_append, work_calls_cons, run_cons, show step cfg t (.general_work n data) =
      (dwell cfg t data, none) from general_work_of_one _ _ _ _ h1, Option.toList_none,
      List.nil_append, run_work_calls_decided (.inl h2) post hpost, if_pos h2, List.length_nil,
      zero_add, mul_one]
    exact ⟨rfl, hpeak.2.of_sameRecord (run_work_calls_decided_sameRecord (.inl h2) post hpost)⟩
  | cons c pre ih =>
    intro t h1 hlt hnn hle hpre
    have hc := hpre c (List.mem_cons_self _ _)
    have hcross := threshold_lt_dwell_iff hp hthr t c.2 hnn fun _ => hle
    rw [List.length_cons] at hlt
    have hlt' : t.d_well_count < cfg.d_max_dwells := by omega
    have hstate := dwell_d_state hp t c.2 h1 hlt'
    have hwell := dwell_d_well_count_of_lt hlt' c.2
    have hcount : (dwell cfg t c.2).d_sample_counter = t.d_sample_counter + cfg.d_fft_size :=
      dwell_d_sample_counter t c.2
    have hnn' := dwell_test_statistics_nonneg hp t c.2 hnn
    set u := dwell cfg t c.2
    -- a dwell below the threshold keeps the episode in state 1
    have hle' : u.d_test_statistics ≤ cfg.d_threshold :=
      not_lt.mp fun h => (hcross.mp h).elim (not_lt.mpr hle) (not_lt.mpr hc)
    rw [if_neg (by omega), if_neg fun h => not_lt.mpr hle' h.2] at hstate
    rw [List.cons_append, work_calls_cons, run_cons, show step cfg t (.general_work c.1 c.2) =
      (u, none) from general_work_of_one _ _ _ _ h1, Option.toList_none, List.nil_append]
    obtain ⟨hmsg, hpk⟩ := ih u hstate (by omega) hnn' hle'
      fun c' h' => hpre c' (List.mem_cons_of_mem _ h')
    have hstamp : t.d_sample_counter + cfg.d_fft_size + cfg.d_fft_size * (pre.length + 1) =
        t.d_sample_counter + cfg.d_fft_size * ((c :: pre).length + 1) := by
      rw [List.length_cons]; ring
    rw [hcount, hstamp] at hpk
    exact ⟨hmsg, hpk⟩

/-- In bit-transition mode the dwells of an episode run without a decision until the
last, which decides on the statistic: the calls carrying them act as the fold of
`dwell` over their inputs. -/
theorem run_work_calls_bit_dwells (hp : cfg.d_peak ≤ 1) (hbit : cfg.d_bit_transition_flag = true)
    (rest : List (Nat × DwellData α)) :
    ∀ (cs : List (Nat × DwellData α)) (t : PcpsSdAcquisition α), t.d_state = 1 → cs ≠ [] →
      t.d_well_count + cs.length = cfg.d_max_dwells →
      run cfg t (work_calls (cs ++ rest)) =
          run cfg ((cs.map Prod.snd).foldl (dwell cfg) t) (work_calls rest) ∧
        ((cs.map Prod.snd).foldl (dwell cfg) t).d_state =
          if cfg.d_threshold < ((cs.map Prod.snd).foldl (dwell cfg) t).d_test_statistics
          then 2 else 3 := by
  intro cs
  induction cs with
  | nil => intro t _ hne _; exact absurd rfl hne
  | cons c cs ih =>
    intro t h1 _ hlen
    have hlt : t.d_well_count < cfg.d_max_dwells := by rw [← hlen, List.length_cons]; omega
    have hstate := dwell_d_state hp t c.2 h1 hlt
    have hwell := dwell_d_well_count_of_lt hlt c.2
    rw [List.cons_append, work_calls_cons, run_cons, show step cfg t (.general_work c.1 c.2) =
      (dwell cfg t c.2, none) from general_work_of_one _ _ _ _ h1, Option.toList_none,
      List.nil_append, List.map_cons, List.foldl_cons]
    by_cases hne : cs = []
    · -- the last dwell decides
      subst hne
      rw [List.length_singleton] at hlen
      refine ⟨rfl, ?_⟩
      rw [List.map_nil, List.foldl_nil, hstate, if_pos hlen]
    · -- an earlier dwell stays in state 1
      rw [List.length_cons] at hlen
      have hlen' := List.length_pos.mpr hne
      rw [if_neg (by omega), if_neg (by simp [hbit])] at hstate
      exact ih (dwell cfg t c.2) hstate hne (by rw [hwell]; omega)

end reported_peak

/-- What a positive acquisition reports outside bit-transition mode. With at most one
peak requested and a nonnegative threshold, an active idle block fed an activation call, dwells below the threshold, fewer than
`d_max_dwells` of them, and then a dwell above it, pushes ACQ_SUCCESS on the call after
that dwell. The record it leaves, also after any further calls, is that dwell's main
peak: the first bin and index reaching its maximum, stamped with the sample counter at
the end of that dwell. -/
theorem acquisition_reports_first_detecting_peak {cfg : Config α} (hp : cfg.d_peak ≤ 1)
    (hthr : 0 ≤ cfg.d_threshold)
    (hbit : cfg.d_bit_transition_flag = false) {s : PcpsSdAcquisition α} (h0 : s.d_state = 0)
    (ha : s.d_active = true) (first : Nat × DwellData α) (pre : List (Nat × DwellData α))
    (n : Nat) (data : DwellData α) (post : List (Nat × DwellData α))
    (hpre : pre.length < cfg.d_max_dwells)
    (hbelow : ∀ c ∈ pre, dwell_ratio cfg c.2 ≤ cfg.d_threshold)
    (hdet : cfg.d_threshold < dwell_ratio cfg data) (hpost : post ≠ []) :
    let r := run cfg s (work_calls (first :: pre ++ (n, data) :: post))
    r.2 = [1] ∧
      DwellPeak cfg data (s.d_sample_counter + cfg.d_fft_size * first.1 +
        cfg.d_fft_size * (pre.length + 1)) r.1 := by
  intro r
  have h1 : (step cfg s (.general_work first.1 first.2)).1.d_state = 1 := by
    rw [step, general_work_of_zero _ _ _ _ h0, if_pos ha]
  have hcount : (step cfg s (.general_work first.1 first.2)).1.d_sample_counter =
      s.d_sample_counter + cfg.d_fft_size * first.1 := by
    rw [step, general_work_of_zero _ _ _ _ h0, if_pos ha]
  obtain ⟨hwell, hstat, hnone⟩ := step_activation h0 h1
  obtain ⟨hmsg, hpk⟩ := run_work_calls_first_peak hp hthr hbit n data post hdet hpost pre _ h1
    (by rw [hwell]; omega) hstat.ge (hstat.trans_le hthr) hbelow
  rw [hcount] at hpk
  simp only [r, List.cons_append, work_calls_cons, run_cons, hnone, Option.toList_none,
    List.nil_append]
  exact ⟨hmsg, hpk⟩

theorem acquisition_reports_first_detecting_peak_second_dwell :
    let cfg : Config ℚ :=
      { d_fft_size := 1, d_samples_per_code := 1, d_doppler_max := 0, d_doppler_step := 1,
        d_num_doppler_bins := 1, d_max_dwells := 2, d_bit_transition_flag := false,
        d_peak := 1, d_threshold := 0, samples_per_code_pos := Nat.one_pos }
    let quiet : DwellData ℚ :=
      { power := 1, magnitude := fun _ _ => 0, power_nonneg := zero_le_one,
        magnitude_nonneg := fun _ _ => le_rfl, magnitude_eq_zero := fun _ _ _ => rfl }
    let strong : DwellData ℚ :=
      { power := 1, magnitude := fun _ _ => 1, power_nonneg := zero_le_one,
        magnitude_nonneg := fun _ _ => zero_le_one,
        magnitude_eq_zero := fun h _ _ => absurd h one_ne_zero }
    let s : PcpsSdAcquisition ℚ := { initial 0 0 0 0 with d_active := true }
    let pre : List (Nat × DwellData ℚ) := [(1, quiet)]
    let post : List (Nat × DwellData ℚ) := [(1, quiet)]
    let r := run cfg s (work_calls ((1, quiet) :: pre ++ (1, strong) :: post))
    cfg.d_peak ≤ 1 ∧ 0 ≤ cfg.d_threshold ∧
      cfg.d_bit_transition_flag = false ∧ s.d_state = 0 ∧ s.d_active = true ∧
      pre.length < cfg.d_max_dwells ∧ (∀ c ∈ pre, dwell_ratio cfg c.2 ≤ cfg.d_threshold) ∧
      cfg.d_threshold < dwell_ratio cfg strong ∧ post ≠ [] ∧
      (r.2 = [1] ∧ DwellPeak cfg strong (s.d_sample_counter + cfg.d_fft_size * 1 +
        cfg.d_fft_size * (pre.length + 1)) r.1) := by
  intro cfg quiet strong s pre post r
  have hbelow : ∀ c ∈ pre, dwell_ratio cfg c.2 ≤ cfg.d_threshold := by
    with_unfolding_all decide
  have hdet : cfg.d_threshold < dwell_ratio cfg strong := by with_unfolding_all decide
  exact ⟨le_rfl, le_rfl, rfl, rfl, rfl, by decide, hbelow, hdet, by simp [post],
    acquisition_reports_first_detecting_peak le_rfl le_rfl rfl rfl rfl (1, quiet)
      pre 1 strong post (by decide) hbelow hdet (by simp [post])⟩

/-- What a positive acquisition reports in bit-transition mode. With at most one peak
requested and a nonnegative threshold, an active idle block fed an activation call, `d_max_dwells ≥ 1` dwells and at least one more call
pushes one message: ACQ_SUCCESS when the largest ratio of the dwells is above the
threshold, ACQ_FAIL otherwise. A success leaves in the record, also after any further
calls, the main peak of the first dwell reaching that largest ratio, stamped with the
sample counter at the end of that dwell. -/
theorem acquisition_bit_transition_reports_largest_peak {cfg : Config α} (hp : cfg.d_peak ≤ 1)
    (hthr : 0 ≤ cfg.d_threshold)
    (hbit : cfg.d_bit_transition_flag = true) (hmax : 1 ≤ cfg.d_max_dwells)
    {s : PcpsSdAcquisition α} (h0 : s.d_state = 0) (ha : s.d_active = true)
    (first : Nat × DwellData α) (cs : List (Nat × DwellData α))
    (hlen : cs.length = cfg.d_max_dwells) (post : List (Nat × DwellData α)) (hpost : post ≠ []) :
    let R := dwells_maximum cfg (cs.map Prod.snd)
    let r := run cfg s (work_calls (first :: cs ++ post))
    r.2 = [if cfg.d_threshold < R then 1 else 2] ∧
      (cfg.d_threshold < R → ∃ pre data rest, cs.map Prod.snd = pre ++ data :: rest ∧
        dwell_ratio cfg data = R ∧ (∀ d ∈ pre, dwell_ratio cfg d < R) ∧
        DwellPeak cfg data (s.d_sample_counter + cfg.d_fft_size * first.1 +
          cfg.d_fft_size * (pre.length + 1)) r.1) := by
  intro R r
  have h1 : (step cfg s (.general_work first.1 first.2)).1.d_state = 1 := by
    rw [step, general_work_of_zero _ _ _ _ h0, if_pos ha]
  have hcount : (step cfg s (.general_work first.1 first.2)).1.d_sample_counter =
      s.d_sample_counter + cfg.d_fft_size * first.1 := by
    rw [step, general_work_of_zero _ _ _ _ h0, if_pos ha]
  obtain ⟨hwell, hstat, hnone⟩ := step_activation h0 h1
  have hne : cs ≠ [] := by rintro rfl; simp at hlen; omega
  obtain ⟨hrun, hdec⟩ := run_work_calls_bit_dwells hp hbit post cs _ h1 hne (by rw [hwell]; omega)
  obtain ⟨hT, hrec⟩ := dwells_record_of_bit_transition hp hbit _ hstat (cs.map Prod.snd)
  set T := (cs.map Prod.snd).foldl (dwell cfg) (step cfg s (.general_work first.1 first.2)).1
  have hr : r = run cfg T (work_calls post) := by
    simp only [r, List.cons_append, work_calls_cons, run_cons, hnone, Option.toList_none,
      List.nil_append, Prod.mk.eta]
    exact hrun
  have hdecided : T.d_state = 2 ∨ T.d_state = 3 := by rw [hdec]; split_ifs <;> simp
  refine ⟨?_, fun hR => ?_⟩
  · rw [hr, run_work_calls_decided hdecided post hpost, hdec, hT]
    by_cases h : cfg.d_threshold < R <;> simp [h]
  · rw [if_pos (hthr.trans_lt hR)] at hrec
    obtain ⟨pre, data, rest, hds, hratio, hpre, hpeak⟩ := hrec
    refine ⟨pre, data, rest, hds, hratio, hpre, ?_⟩
    rw [hr, ← hcount]
    exact hpeak.of_sameRecord (run_work_calls_decided_sameRecord hdecided post hpost)

theorem acquisition_bit_transition_reports_largest_peak_two_dwells :
    let cfg : Config ℚ :=
      { d_fft_size := 1, d_samples_per_code := 1, d_doppler_max := 0, d_doppler_step := 1,
        d_num_doppler_bins := 1, d_max_dwells := 2, d_bit_transition_flag := true,
        d_peak := 1, d_threshold := 0, samples_per_code_pos := Nat.one_pos }
    let quiet : DwellData ℚ :=
      { power := 1, magnitude := fun _ _ => 0, power_nonneg := zero_le_one,
        magnitude_nonneg := fun _ _ => le_rfl, magnitude_eq_zero := fun _ _ _ => rfl }
    let strong : DwellData ℚ :=
      { power := 1, magnitude := fun _ _ => 1, power_nonneg := zero_le_one,
        magnitude_nonneg := fun _ _ => zero_le_one,
        magnitude_eq_zero := fun h _ _ => absurd h one_ne_zero }
    let s : PcpsSdAcquisition ℚ := { initial 0 0 0 0 with d_active := true }
    let cs : List (Nat × DwellData ℚ) := [(1, quiet), (1, strong)]
    let post : List (Nat × DwellData ℚ) := [(1, quiet)]
    let R := dwells_maximum cfg (cs.map Prod.snd)
    let r := run cfg s (work_calls ((1, quiet) :: cs ++ post))
    cfg.d_peak ≤ 1 ∧ 0 ≤ cfg.d_threshold ∧
      cfg.d_bit_transition_flag = true ∧ 1 ≤ cfg.d_max_dwells ∧ s.d_state = 0 ∧
      s.d_active = true ∧ cs.length = cfg.d_max_dwells ∧ post ≠ [] ∧
      (r.2 = [if cfg.d_threshold < R then 1 else 2] ∧
        (cfg.d_threshold < R → ∃ pre data rest, cs.map Prod.snd = pre ++ data :: rest ∧
          dwell_ratio cfg data = R ∧ (∀ d ∈ pre, dwell_ratio cfg d < R) ∧
          DwellPeak cfg data (s.d_sample_counter + cfg.d_fft_size * 1 +
            cfg.d_fft_size * (pre.length + 1)) r.1)) := by
  intro cfg quiet strong s cs post R r
  exact ⟨le_rfl, le_rfl, rfl, by decide, rfl, rfl, rfl, by simp [post],
    acquisition_bit_transition_reports_largest_peak le_rfl le_rfl rfl (by decide)
      rfl rfl (1, quiet) cs rfl post (by simp [post])⟩

end gnss_sdr.acquisition
