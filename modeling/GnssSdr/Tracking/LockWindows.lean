import GnssSdr.Tracking.LockDetector

namespace gnss_sdr.tracking

variable {β σ : Type}

/-- One call of the lock detector on the prompt buffer: below `CN0_ESTIMATION_SAMPLES`
it stores the prompt at the counter and counts it; at `CN0_ESTIMATION_SAMPLES` it
evaluates the estimators on the buffer as it stands, stores nothing and clears the
counter. -/
theorem lock_detector_buffer (cfg : Config) (dsp : Dsp β σ) (s : Tracking β σ) (prompt : β) :
    (lock_detector cfg dsp s prompt).1.d_cn0_estimation_counter =
        (if s.d_cn0_estimation_counter < CN0_ESTIMATION_SAMPLES
          then s.d_cn0_estimation_counter + 1 else 0) ∧
      (lock_detector cfg dsp s prompt).1.d_Prompt_buffer =
        (if s.d_cn0_estimation_counter < CN0_ESTIMATION_SAMPLES
          then Function.update s.d_Prompt_buffer s.d_cn0_estimation_counter prompt
          else s.d_Prompt_buffer) ∧
      (¬s.d_cn0_estimation_counter < CN0_ESTIMATION_SAMPLES →
        (lock_detector cfg dsp s prompt).1.d_CN0_SNV_dB_Hz = dsp.cn0_svn_estimator s.d_Prompt_buffer) := by
  unfold lock_detector
  split
  · exact ⟨rfl, rfl, fun h => absurd ‹_› h⟩
  · dsimp only
    split <;> exact ⟨rfl, rfl, fun _ => rfl⟩

theorem lock_detector_d_pull_in (cfg : Config) (dsp : Dsp β σ) (s : Tracking β σ) (prompt : β) :
    (lock_detector cfg dsp s prompt).1.d_pull_in = s.d_pull_in := by
  unfold lock_detector
  split
  · rfl
  · dsimp only
    split <;> rfl

/-- The lock detector's part of a steady-state call, on the call's prompt. -/
theorem general_work_buffer {cfg : Config} {dsp : Dsp β σ} {s : Tracking β σ} {input : Nat → β}
    (hsteady : Steady cfg dsp s input) (ninput_items : Nat) :
    let prompt := (correlate dsp (update_replicas cfg dsp s) input).1.Prompt
    let r := general_work cfg dsp s ninput_items input
    r.1.d_cn0_estimation_counter =
        (if s.d_cn0_estimation_counter < CN0_ESTIMATION_SAMPLES
          then s.d_cn0_estimation_counter + 1 else 0) ∧
      r.1.d_Prompt_buffer =
        (if s.d_cn0_estimation_counter < CN0_ESTIMATION_SAMPLES
          then Function.update s.d_Prompt_buffer s.d_cn0_estimation_counter prompt
          else s.d_Prompt_buffer) ∧
      (¬s.d_cn0_estimation_counter < CN0_ESTIMATION_SAMPLES →
        r.2.record.map GnssSynchro.CN0_dB_hz = some (dsp.cn0_svn_estimator s.d_Prompt_buffer)) := by
  intro prompt r
  have hr : r = _ := general_work_of_steady hsteady ninput_items
  obtain ⟨hc, hb, he⟩ := lock_detector_buffer cfg dsp (update_replicas cfg dsp s) prompt
  rw [hr]
  exact ⟨hc, hb, fun h => congrArg some (he h)⟩

/-- The prompts a run of steady-state calls produces, one per call. -/
def steady_prompts (cfg : Config) (dsp : Dsp β σ) :
    Tracking β σ → List (Nat × (Nat → β)) → List β
  | _, [] => []
  | s, (ninput_items, input) :: blocks =>
    (correlate dsp (update_replicas cfg dsp s) input).1.Prompt ::
      steady_prompts cfg dsp (general_work cfg dsp s ninput_items input).1 blocks

theorem length_steady_prompts (cfg : Config) (dsp : Dsp β σ) (s : Tracking β σ)
    (blocks : List (Nat × (Nat → β))) : (steady_prompts cfg dsp s blocks).length = blocks.length := by
  induction blocks generalizing s with
  | nil => rfl
  | cons b blocks ih => simp [steady_prompts, ih]

/-- The buffer slots below the estimation counter hold the last prompts of `history`,
in order. -/
def BufferHolds (s : Tracking β σ) (history : List β) : Prop :=
  s.d_cn0_estimation_counter ≤ CN0_ESTIMATION_SAMPLES ∧
    s.d_cn0_estimation_counter ≤ history.length ∧
    ∀ i < s.d_cn0_estimation_counter,
      history[history.length - s.d_cn0_estimation_counter + i]? = some (s.d_Prompt_buffer i)

/-- A steady-state call appends its prompt to the history the buffer holds. -/
theorem BufferHolds.general_work {cfg : Config} {dsp : Dsp β σ} {s : Tracking β σ}
    {input : Nat → β} {history : List β} (hH : BufferHolds s history)
    (hsteady : Steady cfg dsp s input) (ninput_items : Nat) :
    BufferHolds (general_work cfg dsp s ninput_items input).1
      (history ++ [(correlate dsp (update_replicas cfg dsp s) input).1.Prompt]) := by
  obtain ⟨hle, hlen, hbuf⟩ := hH
  obtain ⟨hc, hb, -⟩ := general_work_buffer hsteady ninput_items
  by_cases hlt : s.d_cn0_estimation_counter < CN0_ESTIMATION_SAMPLES
  · -- the prompt goes to the slot at the counter
    rw [if_pos hlt] at hc hb
    rw [BufferHolds, hc, hb, List.length_append, List.length_singleton]
    refine ⟨hlt, by omega, fun i hi => ?_⟩
    rcases Nat.lt_or_ge i s.d_cn0_estimation_counter with hi' | hi'
    · rw [Function.update_noteq (by omega), List.getElem?_append_left (by omega), ← hbuf i hi']
      congr 1
      omega
    · have hi : i = s.d_cn0_estimation_counter := by omega
      subst hi
      rw [Function.update_same, List.getElem?_append_right (by omega),
        show history.length + 1 - (s.d_cn0_estimation_counter + 1) + s.d_cn0_estimation_counter -
          history.length = 0 by omega]
      rfl
  · -- an evaluation: the counter is cleared and nothing is stored
    rw [if_neg hlt] at hc
    rw [BufferHolds, hc]
    exact ⟨Nat.zero_le _, Nat.zero_le _, fun i hi => absurd hi (Nat.not_lt_zero i)⟩

/-- Over a run of steady-state calls the history grows by the run's prompts, and the
counter advances by the number of calls modulo `CN0_ESTIMATION_SAMPLES + 1`. -/
theorem BufferHolds.run {cfg : Config} {dsp : Dsp β σ} {s : Tracking β σ} {history : List β}
    (hH : BufferHolds s history) (blocks : List (Nat × (Nat → β)))
    (hrun : SteadyRun cfg dsp s blocks) :
    BufferHolds (run cfg dsp s (work_calls blocks)).1 (history ++ steady_prompts cfg dsp s blocks) ∧
      (run cfg dsp s (work_calls blocks)).1.d_cn0_estimation_counter =
        (s.d_cn0_estimation_counter + blocks.length) % (CN0_ESTIMATION_SAMPLES + 1) := by
  induction blocks generalizing s history with
  | nil =>
    simp only [gnss_sdr.tracking.run, work_calls, List.map_nil, steady_prompts, List.append_nil,
      List.length_nil, add_zero]
    exact ⟨hH, (Nat.mod_eq_of_lt (Nat.lt_succ_of_le hH.1)).symm⟩
  | cons b blocks ih =>
    obtain ⟨ninput_items, input⟩ := b
    obtain ⟨hsteady, hrest⟩ := hrun
    obtain ⟨hH', hcnt⟩ := ih (hH.general_work hsteady ninput_items) hrest
    obtain ⟨hc, -, -⟩ := general_work_buffer hsteady ninput_items
    simp only [work_calls] at hH' hcnt
    simp only [work_calls, List.map_cons, gnss_sdr.tracking.run, gnss_sdr.tracking.step,
      steady_prompts, List.length_cons]
    refine ⟨by simpa only [List.append_assoc, List.singleton_append] using hH', ?_⟩
    rw [hcnt, hc]
    have e1 : CN0_ESTIMATION_SAMPLES = 20 := rfl
    have hle := hH.1
    rw [e1] at hle ⊢
    split_ifs <;> omega

/-- From a clear estimation counter, the lock detector works in cycles of 21 steady
calls: after `L` calls the buffer holds the last `L mod 21` prompts, and the call at count
20 evaluates the 20 before it and stores its own prompt nowhere. -/
theorem lock_detector_windows {cfg : Config} {dsp : Dsp β σ} {s : Tracking β σ}
    (hs0 : s.d_cn0_estimation_counter = 0) (blocks : List (Nat × (Nat → β)))
    (hrun : SteadyRun cfg dsp s blocks) :
    let t := (run cfg dsp s (work_calls blocks)).1
    t.d_cn0_estimation_counter = blocks.length % (CN0_ESTIMATION_SAMPLES + 1) ∧
      (∀ i < t.d_cn0_estimation_counter,
        (steady_prompts cfg dsp s blocks)[blocks.length - t.d_cn0_estimation_counter + i]? =
          some (t.d_Prompt_buffer i)) ∧
      ∀ ninput_items input, Steady cfg dsp t input →
        (t.d_cn0_estimation_counter < CN0_ESTIMATION_SAMPLES →
          (general_work cfg dsp t ninput_items input).1.d_Prompt_buffer =
            Function.update t.d_Prompt_buffer t.d_cn0_estimation_counter
              (correlate dsp (update_replicas cfg dsp t) input).1.Prompt) ∧
        (t.d_cn0_estimation_counter = CN0_ESTIMATION_SAMPLES →
          (general_work cfg dsp t ninput_items input).1.d_Prompt_buffer = t.d_Prompt_buffer ∧
            (general_work cfg dsp t ninput_items input).1.d_cn0_estimation_counter = 0 ∧
            (general_work cfg dsp t ninput_items input).2.record.map GnssSynchro.CN0_dB_hz =
              some (dsp.cn0_svn_estimator t.d_Prompt_buffer)) := by
  intro t
  have h0 : BufferHolds s [] := ⟨by rw [hs0]; exact Nat.zero_le _, by rw [hs0]; rfl,
    fun i hi => absurd hi (by rw [hs0]; exact Nat.not_lt_zero i)⟩
  obtain ⟨⟨-, hlen, hbuf⟩, hcnt⟩ := h0.run blocks hrun
  rw [hs0, zero_add] at hcnt
  rw [List.nil_append, length_steady_prompts] at hbuf
  refine ⟨hcnt, hbuf, fun ninput_items input hsteady => ?_⟩
  obtain ⟨hc, hb, he⟩ := general_work_buffer hsteady ninput_items
  refine ⟨fun hlt => by rw [hb, if_pos hlt], fun h20 => ?_⟩
  have hn : ¬t.d_cn0_estimation_counter < CN0_ESTIMATION_SAMPLES := by omega
  exact ⟨by rw [hb, if_neg hn], by rw [hc, if_neg hn], he hn⟩

theorem lock_detector_windows_after_pull_in :
    let cfg : Config := gps_l1_ca_config 4000000 4000
    let dsp : Dsp ℚ ℚ := default
    let s := (run cfg dsp (construct cfg default)
      [.start_tracking default, .general_work 0 default]).1
    let blocks : List (Nat × (Nat → ℚ)) := [(0, default), (0, default)]
    let t := (run cfg dsp s (work_calls blocks)).1
    s.d_cn0_estimation_counter = 0 ∧ SteadyRun cfg dsp s blocks ∧
      t.d_cn0_estimation_counter = blocks.length % (CN0_ESTIMATION_SAMPLES + 1) ∧
      (∀ i < t.d_cn0_estimation_counter,
        (steady_prompts cfg dsp s blocks)[blocks.length - t.d_cn0_estimation_counter + i]? =
          some (t.d_Prompt_buffer i)) ∧
      ∀ ninput_items input, Steady cfg dsp t input →
        (t.d_cn0_estimation_counter < CN0_ESTIMATION_SAMPLES →
          (general_work cfg dsp t ninput_items input).1.d_Prompt_buffer =
            Function.update t.d_Prompt_buffer t.d_cn0_estimation_counter
              (correlate dsp (update_replicas cfg dsp t) input).1.Prompt) ∧
        (t.d_cn0_estimation_counter = CN0_ESTIMATION_SAMPLES →
          (general_work cfg dsp t ninput_items input).1.d_Prompt_buffer = t.d_Prompt_buffer ∧
            (general_work cfg dsp t ninput_items input).1.d_cn0_estimation_counter = 0 ∧
            (general_work cfg dsp t ninput_items input).2.record.map GnssSynchro.CN0_dB_hz =
              some (dsp.cn0_svn_estimator t.d_Prompt_buffer)) := by
  intro cfg dsp s blocks
  have h0 : s.d_cn0_estimation_counter = 0 := by with_unfolding_all decide
  have hrun : SteadyRun cfg dsp s blocks :=
    ⟨by with_unfolding_all decide, by with_unfolding_all decide, trivial⟩
  exact ⟨h0, hrun, lock_detector_windows h0 blocks hrun⟩

/-- With a correlator that never returns NaN and estimates that all fail, every run of
fewer than `calls_to_loss_of_lock s` `general_work` calls from a tracking state past its
pull-in is made of steady calls: none posts a message, and tracking stays enabled. -/
theorem run_silent_of_fail (cfg : Config) {dsp : Dsp β σ} (hnan : ∀ b, dsp.isnan b = false)
    (hfail : EstimatesFail dsp) {s : Tracking β σ} (hb : LockBounds s)
    (hen : s.d_enable_tracking = true) (hpull : s.d_pull_in = false)
    (blocks : List (Nat × (Nat → β))) (hlen : blocks.length < calls_to_loss_of_lock s) :
    (∀ e ∈ (run cfg dsp s (work_calls blocks)).2, e.message = none) ∧
      (run cfg dsp s (work_calls blocks)).1.d_enable_tracking = true := by
  induction blocks generalizing s with
  | nil => simp [run, work_calls, hen]
  | cons b blocks ih =>
    obtain ⟨ninput_items, input⟩ := b
    have hsteady : Steady cfg dsp s input := ⟨hen, hpull, hnan _⟩
    simp only [List.length_cons] at hlen
    obtain ⟨hmsg, hen', hb', hN⟩ :=
      (general_work_of_fail cfg hfail hb hsteady ninput_items).1 (by omega)
    have hpull' : (general_work cfg dsp s ninput_items input).1.d_pull_in = false := by
      rw [general_work_of_steady hsteady]
      exact (lock_detector_d_pull_in ..).trans hpull
    obtain ⟨hmsgs, hens⟩ := ih hb' hen' hpull' (by omega)
    simp only [work_calls] at hmsgs hens
    simp only [work_calls, List.map_cons, run, step, List.mem_cons, forall_eq_or_imp]
    exact ⟨⟨hmsg, hmsgs⟩, hens⟩

/-- The estimating call drops its own prompt: fed prompts `1..21`, the 21st call reports
the CN0 of prompts `1..20` and buffers nothing, so the counter turns over every 21 calls
and no run of 1020 calls declares loss of lock. -/
theorem lock_detector_skips_evaluating_prompt :
    let cfg : Config := gps_l1_ca_config 4000000 4000
    let dsp : Dsp ℚ ℚ :=
      { (default : Dsp ℚ ℚ) with
        Carrier_wipeoff_and_EPL_CADLL_volk := fun _ input _ _ _ _ _ =>
          (⟨0, input 0, 0⟩, ⟨0, 0, 0⟩, 0, 0)
        cn0_svn_estimator := fun buf => buf 19 }
    let s := (run cfg dsp (construct cfg default)
      [.start_tracking default, .general_work 0 default]).1
    let blocks : Nat → List (Nat × (Nat → ℚ)) := fun n =>
      (List.range n).map fun j => (0, fun _ => ((j + 1 : Nat) : ℚ))
    Reachable cfg dsp s ∧
      (run cfg dsp s (work_calls (blocks 21))).2.map (fun e => e.record.map GnssSynchro.CN0_dB_hz) =
        List.replicate 20 (some 0) ++ [some 20] ∧
      (run cfg dsp s (work_calls (blocks 21))).1.d_cn0_estimation_counter = 0 ∧
      (∀ i < 20, (run cfg dsp s (work_calls (blocks 21))).1.d_Prompt_buffer i = i + 1) ∧
      (run cfg dsp s (work_calls (blocks 22))).1.d_Prompt_buffer 0 = 22 ∧
      ∀ blocks : List (Nat × (Nat → ℚ)), blocks.length = 1020 →
        (∀ e ∈ (run cfg dsp s (work_calls blocks)).2, e.message = none) ∧
          (run cfg dsp s (work_calls blocks)).1.d_enable_tracking = true := by
  intro cfg dsp s blocks
  have hfail : EstimatesFail dsp := fun _ =>
    .inl (show (0 : ℚ) < CARRIER_LOCK_THRESHOLD by norm_num [CARRIER_LOCK_THRESHOLD])
  have hs : s.d_enable_tracking = true ∧ s.d_pull_in = false ∧ LockBounds s ∧
      calls_to_loss_of_lock s = 1071 := by
    refine ⟨?_, ?_, ⟨?_, ?_, ?_⟩, ?_⟩ <;> with_unfolding_all decide
  refine ⟨(Reachable.constructed (construct_constructed _ _)).run _, by with_unfolding_all decide,
    by with_unfolding_all decide, by with_unfolding_all decide, by with_unfolding_all decide,
    fun l hl => run_silent_of_fail cfg (fun _ => rfl) hfail hs.2.2.1 hs.1 hs.2.1 l ?_⟩
  rw [hl, hs.2.2.2]
  decide

end gnss_sdr.tracking
