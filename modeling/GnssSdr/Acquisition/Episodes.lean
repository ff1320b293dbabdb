import GnssSdr.Acquisition.GeneralWork

namespace gnss_sdr.acquisition

variable {α : Type} [LinearOrderedField α]

section decision

variable (cfg : Config α) {s : PcpsSdAcquisition α} (aux found : Bool)

theorem dwell_decision_mem (h : s.d_state = 1) :
    dwell_decision cfg s aux found = 1 ∨ dwell_decision cfg s aux found = 2 ∨
      dwell_decision cfg s aux found = 3 := by
  unfold dwell_decision
  split_ifs <;> simp [h]

/-- A dwell stays in state 1 only while the dwell count has not reached `max_dwells`. -/
theorem dwell_decision_eq_one (h : dwell_decision cfg s aux found = s.d_state) (h1 : s.d_state = 1) :
    s.d_well_count ≠ cfg.d_max_dwells := by
  unfold dwell_decision at h
  split_ifs at h <;> omega

/-- In bit-transition mode a decision is taken only at the last dwell. -/
theorem dwell_decision_bit (hbit : cfg.d_bit_transition_flag = true) (h1 : s.d_state = 1)
    (h : dwell_decision cfg s aux found ≠ 1) : s.d_well_count = cfg.d_max_dwells := by
  unfold dwell_decision at h
  simp only [hbit, Bool.not_true, Bool.false_eq_true, ↓reduceIte] at h
  split_ifs at h with hw <;> first | exact hw | exact absurd h1 h

/-- State 2 is entered only when the statistic exceeds the threshold. -/
theorem dwell_decision_eq_two (h1 : s.d_state = 1) (h : dwell_decision cfg s aux found = 2) :
    cfg.d_threshold < s.d_test_statistics := by
  unfold dwell_decision at h
  split_ifs at h <;> first | assumption | omega

end decision

section general_work

variable (cfg : Config α) (s : PcpsSdAcquisition α) (n : Nat) (data : DwellData α)

theorem general_work_of_zero (h : s.d_state = 0) :
    general_work cfg s n data =
      (if s.d_active then
        { s with
          Acq_delay_samples := 0, Acq_doppler_hz := 0, Acq_samplestamp_samples := 0,
          d_well_count := 0, d_mag := 0, d_input_power := 0, d_test_statistics := 0, d_state := 1,
          d_sample_counter := s.d_sample_counter + cfg.d_fft_size * n }
      else { s with d_sample_counter := s.d_sample_counter + cfg.d_fft_size * n }, none) := by
  simp only [general_work, h]
  split_ifs <;> first | rfl | simp only [h]

theorem general_work_of_one (h : s.d_state = 1) :
    general_work cfg s n data = (dwell cfg s data, none) := by
  simp only [general_work, h]

theorem general_work_of_two (h : s.d_state = 2) :
    general_work cfg s n data =
      ({ s with
          d_active := false
          d_state := 0
          d_sample_counter := s.d_sample_counter + cfg.d_fft_size * n }, some 1) := by
  simp only [general_work, h]

theorem general_work_of_three (h : s.d_state = 3) :
    general_work cfg s n data =
      ({ s with
          d_active := false
          d_state := 0
          d_sample_counter := s.d_sample_counter + cfg.d_fft_size * n }, some 2) := by
  simp only [general_work, h]

theorem general_work_of_four_le (h : 4 ≤ s.d_state) : general_work cfg s n data = (s, none) := by
  obtain ⟨k, hk⟩ : ∃ k, s.d_state = k + 4 := ⟨s.d_state - 4, by omega⟩
  simp only [general_work, hk]

end general_work

/-- The invariant of the acquisition state machine, for `max_dwells ≥ 1`: the state
is a known one, a dwell is pending only below `max_dwells`, bit-transition
decisions come at the last dwell, state 2 has passed the threshold, and inside an
episode a nonzero statistic comes with a record written by one of its dwells. -/
structure Invariant (cfg : Config α) (s : PcpsSdAcquisition α) : Prop where
  state_le : s.d_state ≤ 3
  well_lt : s.d_state = 1 → s.d_well_count < cfg.d_max_dwells
  well_eq : cfg.d_bit_transition_flag = true → (s.d_state = 2 ∨ s.d_state = 3) →
    s.d_well_count = cfg.d_max_dwells
  threshold_lt : s.d_state = 2 → cfg.d_threshold < s.d_test_statistics
  record : s.d_state ≠ 0 → s.d_test_statistics = 0 ∨
    (s.RecordValid cfg ∧ ∃ j < s.d_well_count,
      s.Acq_samplestamp_samples + j * cfg.d_fft_size = s.d_sample_counter)

theorem Invariant.of_state_zero {cfg : Config α} {s : PcpsSdAcquisition α} (h : s.d_state = 0) :
    Invariant cfg s :=
  ⟨by omega, by omega, fun _ h' => by omega, by omega, fun h' => absurd h h'⟩

theorem Invariant.state_cases {cfg : Config α} {s : PcpsSdAcquisition α} (hinv : Invariant cfg s) :
    s.d_state = 0 ∨ s.d_state = 1 ∨ s.d_state = 2 ∨ s.d_state = 3 := by
  have := hinv.state_le
  omega

/-- Below `max_dwells`, an `unsigned int`, `d_well_count++` does not wrap. -/
theorem dwell_searched_d_well_count_of_lt {cfg : Config α} {s : PcpsSdAcquisition α}
    (hw : s.d_well_count < cfg.d_max_dwells) (data : DwellData α) :
    (dwell_searched cfg s data).1.d_well_count = s.d_well_count + 1 := by
  rw [(dwell_searched_spec cfg s data).2.2.1]
  exact Nat.mod_eq_of_lt (by have := cfg.max_dwells_lt; omega)

theorem dwell_d_well_count_of_lt {cfg : Config α} {s : PcpsSdAcquisition α}
    (hw : s.d_well_count < cfg.d_max_dwells) (data : DwellData α) :
    (dwell cfg s data).d_well_count = s.d_well_count + 1 :=
  dwell_searched_d_well_count_of_lt hw data

/-- Inside an episode the count is below `max_dwells`, so a dwell counts one more. -/
theorem Invariant.dwell_d_well_count {cfg : Config α} {s : PcpsSdAcquisition α}
    (hinv : Invariant cfg s) (h1 : s.d_state = 1) (data : DwellData α) :
    (dwell cfg s data).d_well_count = s.d_well_count + 1 :=
  dwell_d_well_count_of_lt (hinv.well_lt h1) data

/-- A dwell from state 1 keeps the invariant. -/
theorem Invariant.dwell {cfg : Config α} {s : PcpsSdAcquisition α} (hinv : Invariant cfg s)
    (h1 : s.d_state = 1) (data : DwellData α) : Invariant cfg (dwell cfg s data) := by
  obtain ⟨hstate, -, -, hcount, -, hwrote⟩ := dwell_searched_spec cfg s data
  have hwell := dwell_searched_d_well_count_of_lt (hinv.well_lt h1) data
  rw [dwell_eq]
  set t := (dwell_searched cfg s data).1
  set a := decide (1 < cfg.d_peak)
  set f := (dwell_searched cfg s data).2
  have ht1 : t.d_state = 1 := hstate.trans h1
  have hlt := hinv.well_lt h1
  refine ⟨?_, fun h => ?_, fun hbit h => ?_, fun h => ?_, fun _ => ?_⟩
  · rcases dwell_decision_mem cfg a f ht1 with h | h | h <;> simp [h]
  · have := dwell_decision_eq_one cfg a f (h.trans ht1.symm) ht1
    simp only at this ⊢
    omega
  · simp only at h ⊢
    exact dwell_decision_bit cfg (s := t) a f hbit ht1 (by rcases h with h | h <;> simp [h])
  · exact dwell_decision_eq_two cfg (s := t) a f ht1 h
  · simp only
    rcases hwrote with ⟨htest, hdelay, hdop, hstamp⟩ | ⟨hvalid, hstamp, -⟩
    · rcases hinv.record (by omega) with h0 | ⟨⟨hd, hdv⟩, j, hj, hjs⟩
      · exact .inl (htest.trans h0)
      · refine .inr ⟨⟨hdelay ▸ hd, hdop ▸ hdv⟩, j + 1, by omega, ?_⟩
        rw [hstamp, hcount, ← hjs]
        ring
    · exact .inr ⟨hvalid, 0, by omega, by simp [hstamp, hcount]⟩

section step

variable {cfg : Config α}

/-- Every call keeps the invariant, given `max_dwells ≥ 1` for the activation. -/
theorem step_invariant (hmax : 1 ≤ cfg.d_max_dwells) {s : PcpsSdAcquisition α}
    (hinv : Invariant cfg s) (op : Op α) : Invariant cfg (step cfg s op).1 := by
  cases op with
  | set_active b => exact ⟨hinv.1, hinv.2, hinv.3, hinv.4, hinv.5⟩
  | general_work n data =>
    rcases (by have := hinv.state_le; omega : s.d_state = 0 ∨ s.d_state = 1 ∨ s.d_state = 2 ∨
      s.d_state = 3) with h | h | h | h
    · rw [step, general_work_of_zero _ _ _ _ h]
      split_ifs
      · exact ⟨by simp, fun _ => hmax, fun _ h' => by simp at h', fun h' => by simp at h',
          fun _ => .inl rfl⟩
      · exact Invariant.of_state_zero h
    · rw [step, general_work_of_one _ _ _ _ h]
      exact hinv.dwell h data
    · rw [step, general_work_of_two _ _ _ _ h]
      exact Invariant.of_state_zero rfl
    · rw [step, general_work_of_three _ _ _ _ h]
      exact Invariant.of_state_zero rfl

theorem Reachable.invariant (hmax : 1 ≤ cfg.d_max_dwells) {admissible : DwellData α → Prop}
    {s : PcpsSdAcquisition α} (h : Reachable cfg admissible s) : Invariant cfg s := by
  induction h with
  | initial => exact Invariant.of_state_zero rfl
  | step _ _ ih => exact step_invariant hmax ih _

/-- Nothing is pushed from states 0 and 1. -/
theorem step_message_of_le_one {s : PcpsSdAcquisition α} (h : s.d_state ≤ 1) (op : Op α) :
    (step cfg s op).2 = none := by
  cases op with
  | set_active => rfl
  | general_work n data =>
    rcases (by omega : s.d_state = 0 ∨ s.d_state = 1) with h | h
    · rw [step, general_work_of_zero _ _ _ _ h]
    · rw [step, general_work_of_one _ _ _ _ h]

/-- The transition out of state 0 is the activation: it restarts the dwell count and
the statistic and pushes nothing. -/
theorem step_activation {s : PcpsSdAcquisition α} (h0 : s.d_state = 0) {op : Op α}
    (h1 : (step cfg s op).1.d_state = 1) :
    (step cfg s op).1.d_well_count = 0 ∧ (step cfg s op).1.d_test_statistics = 0 ∧
      (step cfg s op).2 = none := by
  cases op with
  | set_active => simp [step, h0] at h1
  | general_work n data =>
    rw [step, general_work_of_zero _ _ _ _ h0] at h1 ⊢
    split_ifs at h1 ⊢
    · exact ⟨rfl, rfl, rfl⟩
    · simp [h0] at h1

theorem length_trace (s : PcpsSdAcquisition α) (ops : List (Op α)) :
    (trace cfg s ops).length = ops.length := by
  induction ops generalizing s with
  | nil => rfl
  | cons op ops ih => simp [trace, ih]

theorem run_cons (s : PcpsSdAcquisition α) (op : Op α) (ops : List (Op α)) :
    run cfg s (op :: ops) =
      ((run cfg (step cfg s op).1 ops).1, (step cfg s op).2.toList ++
        (run cfg (step cfg s op).1 ops).2) := rfl

end step

section episode

variable {cfg : Config α}

private theorem dropLast_trace_cons {s : PcpsSdAcquisition α} {op : Op α} {ops : List (Op α)}
    (hops : ops ≠ []) :
    (trace cfg s (op :: ops)).dropLast =
      (step cfg s op).1 :: (trace cfg (step cfg s op).1 ops).dropLast := by
  have : trace cfg (step cfg s op).1 ops ≠ [] := by
    rw [← List.length_pos, length_trace]; exact List.length_pos.mpr hops
  rw [trace, List.dropLast_cons_of_ne_nil this]

/-- What the rest of an episode from `t` pushes and leaves, given the dwell ends `E`
already passed. -/
def EpisodeOutcome (cfg : Config α) (t : PcpsSdAcquisition α) (ops : List (Op α))
    (E : List Nat) : Prop :=
  (run cfg t ops).2 = [if ∃ u ∈ t :: trace cfg t ops, u.d_state = 2 then 1 else 2] ∧
    ((run cfg t ops).2 = [1] →
      cfg.d_threshold < (run cfg t ops).1.d_test_statistics ∧
      (run cfg t ops).1.RecordValid cfg ∧
      (run cfg t ops).1.Acq_samplestamp_samples ∈ E ++ dwell_ends cfg t ops)

/-- A call that pushes nothing passes the outcome of the rest of the episode back. -/
theorem EpisodeOutcome.cons {t : PcpsSdAcquisition α} {op : Op α} {ops : List (Op α)}
    {E F : List Nat} (hnone : (step cfg t op).2 = none)
    (hends : E ++ dwell_ends cfg t (op :: ops) = F ++ dwell_ends cfg (step cfg t op).1 ops)
    (h2 : t.d_state = 2 → (step cfg t op).1.d_state = 2)
    (hrest : EpisodeOutcome cfg (step cfg t op).1 ops F) : EpisodeOutcome cfg t (op :: ops) E := by
  obtain ⟨hmsg, hsucc⟩ := hrest
  unfold EpisodeOutcome
  rw [run_cons, hnone, hends]
  refine ⟨?_, fun h1 => hsucc (by simpa using h1)⟩
  simp only [Option.toList_none, List.nil_append, hmsg, trace, List.mem_cons, exists_eq_or_imp]
  by_cases ht2 : t.d_state = 2 <;> simp [ht2, h2]

/-- The rest of an episode, from a state `t` inside it whose dwells so far ended at the
counters `E`: if the calls end the episode exactly at their last one, they push one
message, ACQ_SUCCESS iff state 2 is visited, and a success leaves in the record a
statistic above the threshold, a valid bin and the counter of one of the dwells. -/
theorem episode_tail (hthr : 0 ≤ cfg.d_threshold) (c₁ : Nat) :
    ∀ (ops : List (Op α)) (t : PcpsSdAcquisition α) (E : List Nat),
      Invariant cfg t → t.d_state ≠ 0 →
      t.d_sample_counter = c₁ + t.d_well_count * cfg.d_fft_size →
      E = (List.range t.d_well_count).map (fun j => c₁ + (j + 1) * cfg.d_fft_size) →
      (∀ u ∈ (trace cfg t ops).dropLast, u.d_state ≠ 0) →
      (run cfg t ops).1.d_state = 0 → EpisodeOutcome cfg t ops E := by
  intro ops
  induction ops with
  | nil => intro t E _ ht _ _ _ hend; exact absurd hend ht
  | cons op ops ih =>
    intro t E hinv ht hcount hE hinside hend
    have hnext : ∀ {t' : PcpsSdAcquisition α}, (step cfg t op).1 = t' → t'.d_state ≠ 0 →
        ops ≠ [] ∧ ∀ u ∈ (trace cfg t' ops).dropLast, u.d_state ≠ 0 := by
      rintro t' rfl ht'
      have hops : ops ≠ [] := by
        rintro rfl
        exact ht' (by simpa [run_cons, run] using hend)
      refine ⟨hops, fun u hu => hinside u ?_⟩
      rw [dropLast_trace_cons hops]
      exact List.mem_cons_of_mem _ hu
    have hend' : (run cfg (step cfg t op).1 ops).1.d_state = 0 := by simpa [run_cons] using hend
    cases op with
    | set_active b =>
      obtain ⟨-, hin⟩ := hnext rfl ht
      exact EpisodeOutcome.cons rfl (by simp [dwell_ends, step]) id
        (ih _ E ⟨hinv.1, hinv.2, hinv.3, hinv.4, hinv.5⟩ ht hcount hE hin hend')
    | general_work n data =>
      rcases (by have := hinv.state_le; omega : t.d_state = 1 ∨ t.d_state = 2 ∨ t.d_state = 3)
        with h | h | h
      · -- a dwell: one more dwell end
        have hstep : step cfg t (.general_work n data) = (dwell cfg t data, none) :=
          general_work_of_one _ _ _ _ h
        obtain ⟨hstate, -, -, hc, -, -⟩ := dwell_searched_spec cfg t data
        have ht' : (dwell cfg t data).d_state ≠ 0 := by
          rw [dwell_eq]
          rcases dwell_decision_mem cfg (decide (1 < cfg.d_peak)) (dwell_searched cfg t data).2
            (hstate.trans h) with h' | h' | h' <;> simp [h']
        obtain ⟨-, hin⟩ := hnext (congrArg Prod.fst hstep) ht'
        have hwell' := hinv.dwell_d_well_count h data
        have hc' : (dwell cfg t data).d_sample_counter = t.d_sample_counter + cfg.d_fft_size := by
          rw [dwell_eq]; exact hc
        refine EpisodeOutcome.cons (F := E ++ [(dwell cfg t data).d_sample_counter])
          (by rw [hstep]) ?_ (fun h2 => absurd (h.symm.trans h2) (by omega)) ?_
        · simp [dwell_ends, hstep, h]
        · rw [hstep]
          refine ih _ _ (hinv.dwell h data) ht' (by rw [hc', hwell', hcount]; ring) ?_ hin
            (by simpa [hstep] using hend')
          rw [hwell', List.range_succ, List.map_append, hE, hc', hcount]
          simp only [List.map_cons, List.map_nil]
          congr 2
          ring
      all_goals
        -- states 2 and 3: the message ends the episode
        obtain ⟨m, hstep, hm⟩ : ∃ m, step cfg t (.general_work n data) =
            ({ t with
              d_active := false
              d_state := 0
              d_sample_counter := t.d_sample_counter + cfg.d_fft_size * n }, some m) ∧
            m = (if t.d_state = 2 then 1 else 2) := by
          first
          | exact ⟨1, general_work_of_two _ _ _ _ h, by simp [h]⟩
          | exact ⟨2, general_work_of_three _ _ _ _ h, by simp [h]⟩
        have hops : ops = [] := by
          by_contra hops
          exact hinside _ (by rw [dropLast_trace_cons hops, hstep]; exact List.mem_cons_self _ _)
            rfl
        subst hops
        refine ⟨?_, fun h1 => ?_⟩
        · simp [run_cons, run, trace, hstep, hm]
        · have h2 : t.d_state = 2 := by
            by_contra h2
            simp [run_cons, run, hstep, hm, h2] at h1
          have hlt := hinv.threshold_lt h2
          obtain ⟨hvalid, j, hj, hjs⟩ := (hinv.record ht).resolve_left (by
            intro h0; rw [h0] at hlt; exact absurd hthr (not_le.mpr hlt))
          simp only [run_cons, run, hstep, dwell_ends, h2, List.append_nil]
          refine ⟨hlt, hvalid, ?_⟩
          rw [hE]
          refine List.mem_append.mpr (.inl (List.mem_map.mpr
            ⟨t.d_well_count - j - 1, List.mem_range.mpr ?_, ?_⟩))
          · omega
          have hsplit : (t.d_well_count - j - 1 + 1) * cfg.d_fft_size + j * cfg.d_fft_size =
              t.d_well_count * cfg.d_fft_size := by
            rw [← Nat.add_mul]; congr 1; omega
          omega

end episode

end gnss_sdr.acquisition
