import GnssSdr.Acquisition.Dwells

namespace gnss_sdr.acquisition

variable {α : Type} [LinearOrderedField α]

/-- A channel that only feeds the block: one `general_work` call per entry, with its
item count and what a dwell would read from the first item. -/
def work_calls (calls : List (Nat × DwellData α)) : List (Op α) :=
  calls.map fun c => .general_work c.1 c.2

@[simp] theorem work_calls_cons (c : Nat × DwellData α) (calls : List (Nat × DwellData α)) :
    work_calls (c :: calls) = .general_work c.1 c.2 :: work_calls calls := rfl

/-- A run that closes its episode: exactly one message, ACQ_SUCCESS or ACQ_FAIL, and
the block left idle, in state 0 and inactive. -/
def ReportsOnce (r : PcpsSdAcquisition α × List Nat) : Prop :=
  (r.2 = [1] ∨ r.2 = [2]) ∧ r.1.d_state = 0 ∧ r.1.d_active = false

/-- The `general_work` calls an acquisition may still take before it reports: the
activation, the dwells left below `d_max_dwells`, and the call that pushes the
message. Zero for an idle block. -/
def calls_to_report (cfg : Config α) (s : PcpsSdAcquisition α) : Nat :=
  match s.d_state with
  | 0 => if s.d_active then cfg.d_max_dwells + 2 else 0
  | 1 => cfg.d_max_dwells - s.d_well_count + 1
  | _ => 1

section report

variable {cfg : Config α} {s : PcpsSdAcquisition α}

omit [LinearOrderedField α] in
theorem calls_to_report_of_one (h : s.d_state = 1) :
    calls_to_report cfg s = cfg.d_max_dwells - s.d_well_count + 1 := by
  simp [calls_to_report, h]

omit [LinearOrderedField α] in
theorem calls_to_report_of_decided (h : s.d_state = 2 ∨ s.d_state = 3) :
    calls_to_report cfg s = 1 := by
  rcases h with h | h <;> simp [calls_to_report, h]

/-- An active block or a running episode has a call left to make. -/
theorem calls_to_report_pos (hinv : Invariant cfg s) (hpend : s.d_state ≠ 0 ∨ s.d_active = true) :
    0 < calls_to_report cfg s := by
  rcases hinv.state_cases with h | h | h | h
  · simp [calls_to_report, h, hpend.resolve_left (· h)]
  · rw [calls_to_report_of_one h]; omega
  all_goals rw [calls_to_report_of_decided (by omega)]; omega

theorem calls_to_report_le (hinv : Invariant cfg s) :
    calls_to_report cfg s ≤ cfg.d_max_dwells + 2 := by
  rcases hinv.state_cases with h | h | h | h
  · simp only [calls_to_report, h]; split_ifs <;> omega
  · rw [calls_to_report_of_one h]; omega
  all_goals rw [calls_to_report_of_decided (by omega)]; omega

theorem calls_to_report_le_of_episode (hinv : Invariant cfg s) (hep : s.d_state ≠ 0) :
    calls_to_report cfg s ≤ cfg.d_max_dwells + 1 := by
  rcases hinv.state_cases.resolve_left hep with h | h
  · rw [calls_to_report_of_one h]; omega
  · rw [calls_to_report_of_decided h]; omega

/-- A dwell keeps the episode going and uses up one of its calls. -/
theorem calls_to_report_dwell (hinv : Invariant cfg s) (h : s.d_state = 1) (data : DwellData α) :
    (dwell cfg s data).d_state ≠ 0 ∧
      calls_to_report cfg (dwell cfg s data) + 1 ≤ calls_to_report cfg s := by
  have hwell := hinv.dwell_d_well_count h data
  have hlt := hinv.well_lt h
  have hmem : (dwell cfg s data).d_state = 1 ∨ (dwell cfg s data).d_state = 2 ∨
      (dwell cfg s data).d_state = 3 :=
    dwell_decision_mem cfg _ _ ((dwell_searched_spec cfg s data).1.trans h)
  rw [calls_to_report_of_one h]
  rcases hmem with h' | h'
  · rw [calls_to_report_of_one h', hwell]
    exact ⟨by omega, by omega⟩
  · rw [calls_to_report_of_decided h']
    exact ⟨by omega, by omega⟩

/-- An idle block stays idle and silent whatever `general_work` calls it gets. -/
theorem run_work_calls_idle (h0 : s.d_state = 0) (ha : s.d_active = false)
    (calls : List (Nat × DwellData α)) :
    (run cfg s (work_calls calls)).2 = [] ∧ (run cfg s (work_calls calls)).1.d_state = 0 ∧
      (run cfg s (work_calls calls)).1.d_active = false := by
  induction calls generalizing s with
  | nil => exact ⟨rfl, h0, ha⟩
  | cons c calls ih =>
    have hstep : step cfg s (.general_work c.1 c.2) =
        ({ s with d_sample_counter := s.d_sample_counter + cfg.d_fft_size * c.1 }, none) := by
      rw [step, general_work_of_zero _ _ _ _ h0, if_neg (by simp [ha])]
    rw [work_calls_cons, run_cons, hstep]
    exact ih h0 ha

/-- The call from state 2 or 3 pushes the decision and leaves the block idle. -/
theorem step_decided (h : s.d_state = 2 ∨ s.d_state = 3) (n : Nat) (data : DwellData α) :
    (step cfg s (.general_work n data)).2 = some (if s.d_state = 2 then 1 else 2) ∧
      (step cfg s (.general_work n data)).1.d_state = 0 ∧
      (step cfg s (.general_work n data)).1.d_active = false := by
  rcases h with h | h
  · rw [step, general_work_of_two _ _ _ _ h]; simp [h]
  · rw [step, general_work_of_three _ _ _ _ h]; simp [h]

theorem ReportsOnce.cons {op : Op α} {ops : List (Op α)} (hnone : (step cfg s op).2 = none)
    (h : ReportsOnce (run cfg (step cfg s op).1 ops)) : ReportsOnce (run cfg s (op :: ops)) := by
  rw [run_cons, hnone]
  exact h

/-- Given `max_dwells ≥ 1`, every pending acquisition reports within `calls_to_report`
calls: each call either activates the block, runs a dwell that brings the dwell count
closer to `d_max_dwells`, or pushes the decision; once idle the block stays silent. -/
theorem run_work_calls_reports (hmax : 1 ≤ cfg.d_max_dwells) :
    ∀ (calls : List (Nat × DwellData α)) (s : PcpsSdAcquisition α), Invariant cfg s →
      (s.d_state ≠ 0 ∨ s.d_active = true) → calls_to_report cfg s ≤ calls.length →
      ReportsOnce (run cfg s (work_calls calls)) := by
  intro calls
  induction calls with
  | nil =>
    intro s hinv hpend hlen
    exact absurd hlen (by have := calls_to_report_pos hinv hpend; simp; omega)
  | cons c calls ih =>
    intro s hinv hpend hlen
    rw [List.length_cons] at hlen
    rcases hinv.state_cases with h | h | h | h
    · -- the activation starts an episode of `d_max_dwells` dwells at most
      have ha := hpend.resolve_left (· h)
      have h1 : (step cfg s (.general_work c.1 c.2)).1.d_state = 1 := by
        rw [step, general_work_of_zero _ _ _ _ h, if_pos ha]
      obtain ⟨hwell, -, hnone⟩ := step_activation h h1
      refine ReportsOnce.cons hnone
        (ih _ (step_invariant hmax hinv _) (.inl (by rw [h1]; exact one_ne_zero)) ?_)
      rw [calls_to_report_of_one h1, hwell]
      simp [calls_to_report, h, ha] at hlen
      omega
    · -- a dwell: one dwell fewer left, or a decision
      have hstep : step cfg s (.general_work c.1 c.2) = (dwell cfg s c.2, none) :=
        general_work_of_one _ _ _ _ h
      obtain ⟨hne, hfewer⟩ := calls_to_report_dwell hinv h c.2
      refine ReportsOnce.cons (by rw [hstep]) ?_
      rw [hstep]
      exact ih (dwell cfg s c.2) (hinv.dwell h c.2) (.inl hne) (by omega)
    all_goals
      -- the decision is pushed; the rest of the calls find the block idle
      obtain ⟨hmsg, h0, ha⟩ := @step_decided α _ cfg s (by omega) c.1 c.2
      obtain ⟨hrest, h0', ha'⟩ := run_work_calls_idle h0 ha calls
      refine ⟨?_, h0', ha'⟩
      rw [work_calls_cons, run_cons, hmsg, hrest]
      simp [h]

end report

/-- The properties of the acquisition state machine over every sequence of
activations and `general_work` calls from a constructed block. Every reachable
state is one of the four states, a pending dwell is below `max_dwells`,
bit-transition decisions come at the last dwell, and states 0 and 1 push nothing.
Every episode, from the activation to the next return to state 0, pushes exactly
one message, ACQ_SUCCESS iff it visits state 2; a success leaves a statistic above
the threshold and a record of a bin the search visits, stamped with the counter at
the end of one of the episode's dwells. And every episode ends: after `w` dwells, any
`max_dwells - w` more dwells and one call push that one message and leave the block idle,
so no episode runs more than `max_dwells` dwells. -/
def EpisodeLaws (cfg : Config α) : Prop :=
  (∀ s, Reachable cfg (fun _ => True) s →
    (s.d_state = 0 ∨ s.d_state = 1 ∨ s.d_state = 2 ∨ s.d_state = 3) ∧
    (s.d_state = 1 → s.d_well_count < cfg.d_max_dwells) ∧
    (cfg.d_bit_transition_flag = true → (s.d_state = 2 ∨ s.d_state = 3) →
      s.d_well_count = cfg.d_max_dwells) ∧
    (s.d_state ≤ 1 → ∀ op, (step cfg s op).2 = none)) ∧
  (∀ s op ops, Reachable cfg (fun _ => True) s → s.d_state = 0 →
    (step cfg s op).1.d_state = 1 →
    (∀ t ∈ (trace cfg (step cfg s op).1 ops).dropLast, t.d_state ≠ 0) →
    (run cfg s (op :: ops)).1.d_state = 0 →
    (run cfg s (op :: ops)).2 =
        [if ∃ t ∈ trace cfg s (op :: ops), t.d_state = 2 then 1 else 2] ∧
      ((run cfg s (op :: ops)).2 = [1] →
        cfg.d_threshold < (run cfg s (op :: ops)).1.d_test_statistics ∧
        (run cfg s (op :: ops)).1.Acq_delay_samples < cfg.d_samples_per_code ∧
        (∃ k < cfg.d_num_doppler_bins,
          (run cfg s (op :: ops)).1.Acq_doppler_hz = cfg.bin_doppler k) ∧
        (run cfg s (op :: ops)).1.Acq_samplestamp_samples ∈ dwell_ends cfg s (op :: ops))) ∧
  (∀ s, Reachable cfg (fun _ => True) s → s.d_state = 1 → ∀ calls : List (Nat × DwellData α),
    cfg.d_max_dwells - s.d_well_count + 1 ≤ calls.length →
      ReportsOnce (run cfg s (work_calls calls)))

/-- With `max_dwells ≥ 1` and a nonnegative threshold the acquisition block obeys
its episode laws on every run. The invariant carries the pending-dwell bound and
the tie between a nonzero statistic and its record; `episode_tail` follows one
episode to its message, and the rank `calls_to_report` bounds its length. -/
theorem acquisition_episode_laws (cfg : Config α) (hmax : 1 ≤ cfg.d_max_dwells)
    (hthr : 0 ≤ cfg.d_threshold) : EpisodeLaws cfg := by
  refine ⟨fun s hs => ?_, fun s op ops hs h0 h1 hinside hend => ?_,
    fun s hs h1 calls hlen => run_work_calls_reports hmax calls s (hs.invariant hmax)
      (.inl (by omega)) (by rwa [calls_to_report_of_one h1])⟩
  · have hinv := hs.invariant hmax
    exact ⟨by have := hinv.state_le; omega, hinv.well_lt, hinv.well_eq,
      fun h op => step_message_of_le_one h op⟩
  · obtain ⟨hwell, -, hnone⟩ := step_activation h0 h1
    have hinv₁ := (Reachable.step (by cases op <;> trivial : op.Admissible fun _ => True) hs).invariant hmax
    have hout := episode_tail hthr (step cfg s op).1.d_sample_counter ops (step cfg s op).1 []
      hinv₁ (by omega) (by rw [hwell]; ring) (by rw [hwell]; rfl) hinside
      (by simpa [run_cons] using hend)
    have hends : [] ++ dwell_ends cfg s (op :: ops) = [] ++ dwell_ends cfg (step cfg s op).1 ops := by
      cases op <;> simp [dwell_ends, h0]
    obtain ⟨hmsg, hsucc⟩ := EpisodeOutcome.cons hnone hends (fun h => absurd h (by omega)) hout
    refine ⟨by simpa [h0] using hmsg, fun hm => ?_⟩
    obtain ⟨hlt, ⟨hd, hdop⟩, hstamp⟩ := hsucc hm
    exact ⟨hlt, hd, hdop, by simpa using hstamp⟩

/-- The episode laws at a one-dwell configuration with threshold zero. -/
theorem acquisition_episode_laws_one_dwell :
    let cfg : Config ℚ :=
      { d_fft_size := 1, d_samples_per_code := 1, d_doppler_max := 0,
        d_doppler_step := 1, d_num_doppler_bins := 1, d_max_dwells := 1,
        d_bit_transition_flag := false, d_peak := 1, d_threshold := 0,
        samples_per_code_pos := Nat.one_pos }
    1 ≤ cfg.d_max_dwells ∧ 0 ≤ cfg.d_threshold ∧ EpisodeLaws cfg :=
  ⟨le_refl 1, le_refl 0, acquisition_episode_laws _ (le_refl 1) (le_refl 0)⟩

/-- Every acquisition the channel starts is answered, and answered once: given
`d_max_dwells ≥ 1`, from any reachable state where the block is active or an episode
is under way, any `d_max_dwells + 2` or more `general_work` calls, whatever their
input, push exactly one message (ACQ_SUCCESS or ACQ_FAIL) and leave the block idle in
state 0, inactive. The bound counts the activation, at most `d_max_dwells` dwells, and
the call that pushes the decision. -/
theorem acquisition_reports_within_max_dwells {cfg : Config α} (hmax : 1 ≤ cfg.d_max_dwells)
    {admissible : DwellData α → Prop} {s : PcpsSdAcquisition α}
    (hs : Reachable cfg admissible s) (hpend : s.d_state ≠ 0 ∨ s.d_active = true)
    (calls : List (Nat × DwellData α)) (hlen : cfg.d_max_dwells + 2 ≤ calls.length) :
    ReportsOnce (run cfg s (work_calls calls)) :=
  run_work_calls_reports hmax calls s (hs.invariant hmax) hpend
    ((calls_to_report_le (hs.invariant hmax)).trans hlen)

theorem acquisition_reports_within_max_dwells_after_activation :
    let cfg : Config ℚ :=
      { d_fft_size := 1, d_samples_per_code := 1, d_doppler_max := 0, d_doppler_step := 1,
        d_num_doppler_bins := 1, d_max_dwells := 1, d_bit_transition_flag := false,
        d_peak := 1, d_threshold := 0, samples_per_code_pos := Nat.one_pos }
    let s := (step cfg (initial 0 0 0 0) (.set_active true)).1
    let data : DwellData ℚ :=
      { power := 0, magnitude := fun _ _ => 0, power_nonneg := le_rfl,
        magnitude_nonneg := fun _ _ => le_rfl, magnitude_eq_zero := fun _ _ _ => rfl }
    let calls := List.replicate 3 (1, data)
    1 ≤ cfg.d_max_dwells ∧ Reachable cfg (fun _ => True) s ∧ (s.d_state ≠ 0 ∨ s.d_active = true) ∧
      cfg.d_max_dwells + 2 ≤ calls.length ∧ ReportsOnce (run cfg s (work_calls calls)) := by
  intro cfg s data calls
  have hs : Reachable cfg (fun _ => True) s :=
    @Reachable.step ℚ _ cfg _ (initial 0 0 0 0) (.set_active true) trivial (.initial 0 0 0 0)
  exact ⟨by decide, hs, .inr rfl, by decide,
    acquisition_reports_within_max_dwells (by decide) hs (.inr rfl) calls (by decide)⟩

/-- The block owes the channel a report: it is active, or an episode is under way. -/
def PcpsSdAcquisition.pending (s : PcpsSdAcquisition α) : Bool :=
  decide (s.d_state ≠ 0) || s.d_active

/-- A call that requests an acquisition, `set_active(true)`. -/
def Op.is_activation : Op α → Bool
  | .set_active active => active
  | .general_work _ _ => false

/-- One call pushes a message only by settling what the block owed, and leaves it owing
one only if it owed one before or the call was an activation. -/
theorem step_messages_le (cfg : Config α) (s : PcpsSdAcquisition α) (op : Op α) :
    (step cfg s op).2.toList.length + (step cfg s op).1.pending.toNat ≤
      s.pending.toNat + op.is_activation.toNat := by
  cases op with
  | set_active b =>
    cases b <;> cases hs : s.d_state <;> simp [step, PcpsSdAcquisition.pending, Op.is_activation, hs]
  | general_work n data =>
    rcases (by omega : s.d_state = 0 ∨ s.d_state = 1 ∨ s.d_state = 2 ∨ s.d_state = 3 ∨
      4 ≤ s.d_state) with h | h | h | h | h
    · rw [step, general_work_of_zero _ _ _ _ h]
      cases ha : s.d_active <;> simp [PcpsSdAcquisition.pending, Op.is_activation, h, ha]
    · have hmem : (dwell cfg s data).d_state = 1 ∨ (dwell cfg s data).d_state = 2 ∨
          (dwell cfg s data).d_state = 3 :=
        dwell_decision_mem cfg _ _ ((dwell_searched_spec cfg s data).1.trans h)
      rw [step, general_work_of_one _ _ _ _ h]
      have : (dwell cfg s data).d_state ≠ 0 := by omega
      simp [PcpsSdAcquisition.pending, Op.is_activation, h, this]
    · rw [step, general_work_of_two _ _ _ _ h]; simp [PcpsSdAcquisition.pending, Op.is_activation, h]
    · rw [step, general_work_of_three _ _ _ _ h]; simp [PcpsSdAcquisition.pending, Op.is_activation, h]
    · rw [step, general_work_of_four_le _ _ _ _ h]; simp

/-- The block never reports more than it was asked for: over every sequence of
`set_active` and `general_work` calls from any state, the messages pushed are at most
the `set_active(true)` calls plus one for a report already owed at the start. -/
theorem acquisition_reports_only_when_asked (cfg : Config α) (s : PcpsSdAcquisition α)
    (ops : List (Op α)) :
    (run cfg s ops).2.length ≤ (ops.filter Op.is_activation).length + s.pending.toNat := by
  induction ops generalizing s with
  | nil => simp [run]
  | cons op ops ih =>
    have hstep := step_messages_le cfg s op
    have hrest := ih (step cfg s op).1
    rw [run_cons, List.length_append, List.filter_cons]
    cases hop : op.is_activation <;> simp only [hop, Bool.toNat_true, Bool.toNat_false] at hstep <;>
      simp <;> omega

/-- The items a call consumes from the input stream: none for `set_active`. -/
def Op.consumed (s : PcpsSdAcquisition α) : Op α → Nat
  | .set_active _ => 0
  | .general_work ninput_items _ => general_work_consumed s ninput_items

/-- The items a sequence of calls consumes, each call in the state it finds. -/
def run_consumed (cfg : Config α) : PcpsSdAcquisition α → List (Op α) → Nat
  | _, [] => 0
  | s, op :: ops => op.consumed s + run_consumed cfg (step cfg s op).1 ops

/-- Each call advances the sample counter by `d_fft_size` samples for each item it
consumes: the dwell of state 1 adds one block for its one item, the other states one
block per item. -/
theorem step_d_sample_counter (cfg : Config α) (s : PcpsSdAcquisition α) (op : Op α) :
    (step cfg s op).1.d_sample_counter = s.d_sample_counter + cfg.d_fft_size * op.consumed s := by
  cases op with
  | set_active b => simp [step, Op.consumed]
  | general_work n data =>
    rcases (by omega : s.d_state = 0 ∨ s.d_state = 1 ∨ s.d_state = 2 ∨ s.d_state = 3 ∨
      4 ≤ s.d_state) with h | h | h | h | h
    · rw [step, general_work_of_zero _ _ _ _ h]
      split_ifs <;> simp [Op.consumed, general_work_consumed, h]
    · rw [step, general_work_of_one _ _ _ _ h, dwell_d_sample_counter]
      simp [Op.consumed, general_work_consumed, h]
    · rw [step, general_work_of_two _ _ _ _ h]
      simp [Op.consumed, general_work_consumed, h]
    · rw [step, general_work_of_three _ _ _ _ h]
      simp [Op.consumed, general_work_consumed, h]
    · obtain ⟨k, hk⟩ : ∃ k, s.d_state = k + 4 := ⟨s.d_state - 4, by omega⟩
      rw [step, general_work_of_four_le _ _ _ _ h]
      simp [Op.consumed, general_work_consumed, hk]

/-- The sample counter is the input stream's position: over every sequence of
`set_active` and `general_work` calls from any state, `d_sample_counter` advances by
`d_fft_size` samples for each item the calls consume, one dwell's item included, so
the sample stamps the dwells record are in the time base of the samples fed. -/
theorem acquisition_sample_counter_counts_consumed (cfg : Config α) (s : PcpsSdAcquisition α)
    (ops : List (Op α)) :
    (run cfg s ops).1.d_sample_counter =
      s.d_sample_counter + cfg.d_fft_size * run_consumed cfg s ops := by
  induction ops generalizing s with
  | nil => simp [run, run_consumed]
  | cons op ops ih =>
    rw [run_cons, run_consumed, ih, step_d_sample_counter]
    ring

section set_active

variable {cfg : Config α}

/-- Inside an episode the block never reads `d_active`, and the report clears it:
whatever `d_active` holds, the calls that finish the episode push the same messages
and end in the same state. -/
theorem run_work_calls_set_active (b : Bool) :
    ∀ (calls : List (Nat × DwellData α)) (s : PcpsSdAcquisition α), Invariant cfg s →
      s.d_state ≠ 0 → calls_to_report cfg s ≤ calls.length →
      run cfg { s with d_active := b } (work_calls calls) = run cfg s (work_calls calls) := by
  intro calls
  induction calls with
  | nil =>
    intro s hinv hep hlen
    exact absurd hlen (by have := calls_to_report_pos hinv (.inl hep); simp; omega)
  | cons c calls ih =>
    intro s hinv hep hlen
    rw [List.length_cons] at hlen
    rw [work_calls_cons, run_cons, run_cons]
    rcases hinv.state_cases.resolve_left hep with h | h | h
    · -- a dwell carries the flag through unread
      obtain ⟨hne, hfewer⟩ := calls_to_report_dwell hinv h c.2
      rw [step, step, general_work_of_one cfg { s with d_active := b } c.1 c.2 h,
        general_work_of_one cfg s c.1 c.2 h, dwell_set_active]
      dsimp only
      rw [ih (dwell cfg s c.2) (hinv.dwell h c.2) hne (by omega)]
    · -- the report overwrites it
      rw [step, step, general_work_of_two cfg { s with d_active := b } c.1 c.2 h,
        general_work_of_two cfg s c.1 c.2 h]
    · rw [step, step, general_work_of_three cfg { s with d_active := b } c.1 c.2 h,
        general_work_of_three cfg s c.1 c.2 h]

end set_active

/-- During an acquisition episode the block ignores the channel's `set_active`: a
call `set_active(b)` made while `d_state ≠ 0` changes neither the messages nor the
final state of any run of `general_work` calls long enough to finish the episode
(`d_max_dwells + 1` calls). A deactivation does not abort the episode, which still
reports; an activation is lost, and the block ends the episode inactive instead of
starting another. -/
theorem set_active_ignored_during_episode {cfg : Config α} (hmax : 1 ≤ cfg.d_max_dwells)
    {admissible : DwellData α → Prop} {s : PcpsSdAcquisition α}
    (hs : Reachable cfg admissible s) (hep : s.d_state ≠ 0) (b : Bool)
    (calls : List (Nat × DwellData α)) (hlen : cfg.d_max_dwells + 1 ≤ calls.length) :
    run cfg s (.set_active b :: work_calls calls) = run cfg s (work_calls calls) := by
  have hinv := hs.invariant hmax
  rw [run_cons]
  exact run_work_calls_set_active b calls s hinv hep
    ((calls_to_report_le_of_episode hinv hep).trans hlen)

theorem set_active_ignored_during_episode_deactivation :
    let cfg : Config ℚ :=
      { d_fft_size := 1, d_samples_per_code := 1, d_doppler_max := 0, d_doppler_step := 1,
        d_num_doppler_bins := 1, d_max_dwells := 1, d_bit_transition_flag := false,
        d_peak := 1, d_threshold := 0, samples_per_code_pos := Nat.one_pos }
    let data : DwellData ℚ :=
      { power := 1, magnitude := fun _ _ => 1, power_nonneg := zero_le_one,
        magnitude_nonneg := fun _ _ => zero_le_one,
        magnitude_eq_zero := fun h => absurd h one_ne_zero }
    let s := (step cfg (step cfg (initial 0 0 0 0) (.set_active true)).1 (.general_work 1 data)).1
    let calls := List.replicate 2 (1, data)
    1 ≤ cfg.d_max_dwells ∧ Reachable cfg (fun _ => True) s ∧ s.d_state ≠ 0 ∧
      cfg.d_max_dwells + 1 ≤ calls.length ∧
      run cfg s (.set_active false :: work_calls calls) = run cfg s (work_calls calls) := by
  intro cfg data s calls
  have hs : Reachable cfg (fun _ => True) s :=
    @Reachable.step ℚ _ cfg _ _ (.general_work 1 data) trivial
      (@Reachable.step ℚ _ cfg _ (initial 0 0 0 0) (.set_active true) trivial (.initial 0 0 0 0))
  have hep : s.d_state ≠ 0 := by decide
  exact ⟨by decide, hs, hep, by decide,
    set_active_ignored_during_episode (by decide) hs hep false calls (by decide)⟩

section zero_dwells

variable {cfg : Config α} {s : PcpsSdAcquisition α}

/-- With `d_max_dwells = 0`, a dwell that does not bring the count to `2 ^ 32` counts
one more dwell; in bit-transition mode it never decides, and without it and without
auxiliary peaks it can only stay or succeed. -/
theorem dwell_of_max_dwells_zero (hmax : cfg.d_max_dwells = 0) (h1 : s.d_state = 1)
    (hw : s.d_well_count + 1 < 2 ^ 32) (data : DwellData α) :
    (dwell cfg s data).d_well_count = s.d_well_count + 1 ∧
      (cfg.d_bit_transition_flag = true → (dwell cfg s data).d_state = 1) ∧
      (cfg.d_peak ≤ 1 → (dwell cfg s data).d_state = 1 ∨ (dwell cfg s data).d_state = 2) := by
  obtain ⟨hstate, -, hwell, -⟩ := dwell_searched_spec cfg s data
  rw [Nat.mod_eq_of_lt hw] at hwell
  rw [dwell_eq]
  refine ⟨hwell, fun hbit => ?_, fun hpeak => ?_⟩
  · simp [dwell_decision, hbit, hwell, hmax, hstate, h1]
  · have haux : decide (1 < cfg.d_peak) = false := decide_eq_false (by omega)
    simp only [dwell_decision, haux, Bool.false_and, hwell, hmax, hstate, h1]
    split_ifs <;> simp_all

/-- With `d_max_dwells = 0`, the dwell that wraps the count to 0 decides. -/
theorem dwell_decides_at_wrap (hmax : cfg.d_max_dwells = 0) (hw : s.d_well_count + 1 = 2 ^ 32)
    (data : DwellData α) : (dwell cfg s data).d_state ≠ 1 := by
  obtain ⟨hstate, -, hwell, -⟩ := dwell_searched_spec cfg s data
  rw [hw, Nat.mod_self] at hwell
  rw [dwell_eq]
  dsimp only
  unfold dwell_decision
  split_ifs <;> simp_all

theorem run_bit_transition_of_max_dwells_zero (hmax : cfg.d_max_dwells = 0)
    (hbit : cfg.d_bit_transition_flag = true) (calls : List (Nat × DwellData α))
    (h1 : s.d_state = 1) (hlen : s.d_well_count + calls.length < 2 ^ 32) :
    (run cfg s (work_calls calls)).2 = [] ∧ (run cfg s (work_calls calls)).1.d_state = 1 ∧
      (run cfg s (work_calls calls)).1.d_well_count = s.d_well_count + calls.length := by
  induction calls generalizing s with
  | nil => exact ⟨rfl, h1, rfl⟩
  | cons c calls ih =>
    rw [List.length_cons] at hlen
    obtain ⟨hwell, hstay, -⟩ := dwell_of_max_dwells_zero hmax h1 (by omega) c.2
    rw [work_calls_cons, run_cons, step, general_work_of_one _ _ _ _ h1]
    obtain ⟨hmsg, hst, hcount⟩ := ih (hstay hbit) (by rw [hwell]; omega)
    exact ⟨hmsg, hst, by rw [hcount, hwell, List.length_cons]; ring⟩

theorem run_no_fail_of_max_dwells_zero (hmax : cfg.d_max_dwells = 0) (hpeak : cfg.d_peak ≤ 1)
    (calls : List (Nat × DwellData α))
    (h : s.d_state = 1 ∧ s.d_well_count + calls.length < 2 ^ 32 ∨ s.d_state = 2) :
    2 ∉ (run cfg s (work_calls calls)).2 := by
  induction calls generalizing s with
  | nil => simp [run]
  | cons c calls ih =>
    rcases h with ⟨h1, hlen⟩ | h2
    · rw [List.length_cons] at hlen
      obtain ⟨hwell, -, hstay⟩ := dwell_of_max_dwells_zero hmax h1 (by omega) c.2
      rw [work_calls_cons, run_cons, step, general_work_of_one _ _ _ _ h1]
      exact ih ((hstay hpeak).imp_left fun h => ⟨h, by rw [hwell]; omega⟩)
    · obtain ⟨hmsg, h0, ha⟩ := @step_decided α _ cfg s (.inl h2) c.1 c.2
      rw [work_calls_cons, run_cons, hmsg, (run_work_calls_idle h0 ha calls).1]
      simp [h2]

end zero_dwells

/-- With `d_max_dwells = 0`, `d_well_count == d_max_dwells` holds only once the unsigned
dwell count wraps, so an episode decides only at its `2 ^ 32`-th dwell. Until then, a run
from state 1 stays silent in state 1 in bit-transition mode, and never pushes ACQ_FAIL
without it (with `d_peak ≤ 1`). -/
theorem acquisition_decides_only_at_wrap_without_dwells {cfg : Config α}
    (hmax : cfg.d_max_dwells = 0) {s : PcpsSdAcquisition α} (h1 : s.d_state = 1)
    (calls : List (Nat × DwellData α)) (hlen : s.d_well_count + calls.length < 2 ^ 32) :
    (cfg.d_bit_transition_flag = true →
        (run cfg s (work_calls calls)).2 = [] ∧ (run cfg s (work_calls calls)).1.d_state = 1 ∧
          (run cfg s (work_calls calls)).1.d_well_count = s.d_well_count + calls.length) ∧
      (cfg.d_peak ≤ 1 → 2 ∉ (run cfg s (work_calls calls)).2) ∧
      ∀ (t : PcpsSdAcquisition α) (data : DwellData α),
        t.d_well_count + 1 = 2 ^ 32 → (dwell cfg t data).d_state ≠ 1 :=
  ⟨fun hbit => run_bit_transition_of_max_dwells_zero hmax hbit calls h1 hlen,
    fun hpeak => run_no_fail_of_max_dwells_zero hmax hpeak calls (.inl ⟨h1, hlen⟩),
    fun _ data hw => dwell_decides_at_wrap hmax hw data⟩

theorem acquisition_decides_only_at_wrap_without_dwells_bit_transition :
    let cfg : Config ℚ :=
      { d_fft_size := 1, d_samples_per_code := 1, d_doppler_max := 0, d_doppler_step := 1,
        d_num_doppler_bins := 1, d_max_dwells := 0, d_bit_transition_flag := true,
        d_peak := 1, d_threshold := 0, samples_per_code_pos := Nat.one_pos }
    let s : PcpsSdAcquisition ℚ := { initial 0 0 0 0 with d_state := 1, d_active := true }
    let data : DwellData ℚ :=
      { power := 1, magnitude := fun _ _ => 1, power_nonneg := zero_le_one,
        magnitude_nonneg := fun _ _ => zero_le_one,
        magnitude_eq_zero := fun h => absurd h one_ne_zero }
    let calls := List.replicate 4 (1, data)
    cfg.d_max_dwells = 0 ∧ s.d_state = 1 ∧ s.d_well_count + calls.length < 2 ^ 32 ∧
      (cfg.d_bit_transition_flag = true →
          (run cfg s (work_calls calls)).2 = [] ∧ (run cfg s (work_calls calls)).1.d_state = 1 ∧
            (run cfg s (work_calls calls)).1.d_well_count = s.d_well_count + calls.length) ∧
        (cfg.d_peak ≤ 1 → 2 ∉ (run cfg s (work_calls calls)).2) ∧
        ∀ (t : PcpsSdAcquisition ℚ) (data : DwellData ℚ),
          t.d_well_count + 1 = 2 ^ 32 → (dwell cfg t data).d_state ≠ 1 :=
  ⟨rfl, rfl, by decide, acquisition_decides_only_at_wrap_without_dwells rfl rfl _ (by decide)⟩

end gnss_sdr.acquisition
