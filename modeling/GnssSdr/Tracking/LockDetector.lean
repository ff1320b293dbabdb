import GnssSdr.Tracking.CodeNco

namespace gnss_sdr.tracking

variable {β σ : Type}

/-- The lock detector's counters in range: at most `CN0_ESTIMATION_SAMPLES` prompts
buffered, and a fail counter in `[0, MAXIMUM_LOCK_FAIL_COUNTER]`. -/
structure LockBounds (s : Tracking β σ) : Prop where
  cn0_le : s.d_cn0_estimation_counter ≤ CN0_ESTIMATION_SAMPLES
  fail_nonneg : 0 ≤ s.d_carrier_lock_fail_counter
  fail_le : s.d_carrier_lock_fail_counter ≤ MAXIMUM_LOCK_FAIL_COUNTER

theorem LockBounds.of_eq {s t : Tracking β σ} (h : LockBounds s)
    (hcnt : t.d_cn0_estimation_counter = s.d_cn0_estimation_counter)
    (hfail : t.d_carrier_lock_fail_counter = s.d_carrier_lock_fail_counter) : LockBounds t :=
  ⟨hcnt ▸ h.cn0_le, hfail ▸ h.fail_nonneg, hfail ▸ h.fail_le⟩

theorem lock_fail_counter_nonneg (d_carrier_lock_test d_CN0_SNV_dB_Hz : ℚ) {fail : Int}
    (h : 0 ≤ fail) : 0 ≤ lock_fail_counter d_carrier_lock_test d_CN0_SNV_dB_Hz fail := by
  unfold lock_fail_counter
  split_ifs <;> omega

theorem lock_fail_counter_of_fail {d_carrier_lock_test d_CN0_SNV_dB_Hz : ℚ}
    (h : d_carrier_lock_test < CARRIER_LOCK_THRESHOLD ∨ d_CN0_SNV_dB_Hz < MINIMUM_VALID_CN0)
    (fail : Int) : lock_fail_counter d_carrier_lock_test d_CN0_SNV_dB_Hz fail = fail + 1 :=
  if_pos h

theorem lock_detector_lock_bounds (cfg : Config) (dsp : Dsp β σ) {s : Tracking β σ}
    (h : LockBounds s) (prompt : β) : LockBounds (lock_detector cfg dsp s prompt).1 := by
  unfold lock_detector
  split
  · exact ⟨Nat.succ_le_of_lt ‹_›, h.fail_nonneg, h.fail_le⟩
  · dsimp only
    have h0 := lock_fail_counter_nonneg (dsp.carrier_lock_detector s.d_Prompt_buffer)
      (dsp.cn0_svn_estimator s.d_Prompt_buffer) h.fail_nonneg
    generalize lock_fail_counter _ _ _ = fail at h0
    split
    · exact ⟨Nat.zero_le _, le_refl 0, (by decide : (0 : Int) ≤ MAXIMUM_LOCK_FAIL_COUNTER)⟩
    · exact ⟨Nat.zero_le _, h0, not_lt.mp ‹_›⟩

/-- Every `general_work` call keeps the lock counters in range: idle, pull-in and NaN
calls leave them as they are, and a tracking call moves them through the lock
detector. -/
theorem general_work_lock_bounds (cfg : Config) (dsp : Dsp β σ) {s : Tracking β σ}
    (hb : LockBounds s) (ninput_items : Nat) (input : Nat → β) :
    LockBounds (general_work cfg dsp s ninput_items input).1 := by
  rcases general_work_cases cfg dsp s ninput_items input with
    ⟨-, h⟩ | ⟨-, -, h⟩ | ⟨-, -, h⟩ | ⟨-, h⟩ <;> rw [h]
  · exact hb.of_eq rfl rfl
  · exact hb.of_eq rfl rfl
  · exact hb.of_eq rfl rfl
  · exact (lock_detector_lock_bounds cfg dsp (s := update_replicas cfg dsp s)
      (hb.of_eq rfl rfl) _).of_eq rfl rfl

/-- The lock detector's counters stay in range in every reachable state: the
constructor clears them, `start_tracking` clears the fail counter, and only the lock
detector moves them. -/
theorem Reachable.lock_bounds {cfg : Config} {dsp : Dsp β σ} {s : Tracking β σ}
    (hs : Reachable cfg dsp s) : LockBounds s := by
  induction hs with
  | constructed h =>
    refine ⟨?_, ?_, ?_⟩ <;>
      simp only [h.d_cn0_estimation_counter, h.d_carrier_lock_fail_counter] <;> decide
  | @step s op _ ih =>
    cases op with
    | start_tracking acq =>
      exact ⟨ih.cn0_le, le_refl 0, (by decide : (0 : Int) ≤ MAXIMUM_LOCK_FAIL_COUNTER)⟩
    | stop_tracking => exact ih.of_eq rfl rfl
    | general_work ninput_items input => exact general_work_lock_bounds cfg dsp ih ninput_items input

theorem lock_detector_counters_in_range_after_steady_call :
    let cfg : Config := gps_l1_ca_config 4000000 4000
    let s := (run cfg (default : Dsp ℚ ℚ) (construct cfg default)
      [.start_tracking default, .general_work 0 default, .general_work 0 default]).1
    s.d_cn0_estimation_counter = 1 ∧ Reachable cfg (default : Dsp ℚ ℚ) s ∧ LockBounds s := by
  intro cfg s
  have hs : Reachable cfg (default : Dsp ℚ ℚ) s :=
    (Reachable.constructed (construct_constructed _ _)).run _
  exact ⟨by with_unfolding_all decide, hs, hs.lock_bounds⟩

/-- Calls left until the lock detector declares loss of lock when every estimate
fails: the prompts still to buffer, the estimating call, and a round of
`CN0_ESTIMATION_SAMPLES + 1` calls for every failure still allowed. -/
def calls_to_loss_of_lock (s : Tracking β σ) : Nat :=
  CN0_ESTIMATION_SAMPLES - s.d_cn0_estimation_counter + 1 +
    (CN0_ESTIMATION_SAMPLES + 1) * (MAXIMUM_LOCK_FAIL_COUNTER - s.d_carrier_lock_fail_counter).toNat

theorem calls_to_loss_of_lock_pos (s : Tracking β σ) : 0 < calls_to_loss_of_lock s := by
  unfold calls_to_loss_of_lock
  omega

/-- Every estimate fails, whatever prompts are buffered: the carrier lock test or the
CN0 is below its threshold (the receiver sees noise). -/
def EstimatesFail (dsp : Dsp β σ) : Prop :=
  ∀ buf, dsp.carrier_lock_detector buf < CARRIER_LOCK_THRESHOLD ∨
    dsp.cn0_svn_estimator buf < MINIMUM_VALID_CN0

/-- One call of the lock detector when every estimate fails: it counts down
`calls_to_loss_of_lock` silently, and on the last call posts message 2 (with a queue)
and disables tracking. -/
theorem lock_detector_of_fail (cfg : Config) {dsp : Dsp β σ} (hfail : EstimatesFail dsp)
    {s : Tracking β σ} (hb : LockBounds s) (prompt : β) :
    (1 < calls_to_loss_of_lock s →
      (lock_detector cfg dsp s prompt).2 = none ∧
        (lock_detector cfg dsp s prompt).1.d_enable_tracking = s.d_enable_tracking ∧
        calls_to_loss_of_lock (lock_detector cfg dsp s prompt).1 + 1 = calls_to_loss_of_lock s) ∧
    (calls_to_loss_of_lock s = 1 →
      (lock_detector cfg dsp s prompt).2 = (if cfg.d_queue then some 2 else none) ∧
        (lock_detector cfg dsp s prompt).1.d_enable_tracking = false) := by
  have e1 : CN0_ESTIMATION_SAMPLES = 20 := rfl
  have e2 : MAXIMUM_LOCK_FAIL_COUNTER = 50 := rfl
  unfold lock_detector
  by_cases hcnt : s.d_cn0_estimation_counter < CN0_ESTIMATION_SAMPLES
  · -- still buffering prompts: one call less, and more than one left
    rw [if_pos hcnt]
    refine ⟨fun _ => ⟨rfl, rfl, ?_⟩, fun h => absurd h ?_⟩ <;>
      simp only [calls_to_loss_of_lock, e1, e2] at hcnt ⊢ <;> omega
  · -- a full buffer: the estimate fails
    have hc20 : s.d_cn0_estimation_counter = 20 := le_antisymm hb.cn0_le (not_lt.mp hcnt)
    have hf := hb.fail_le
    rw [if_neg hcnt]
    dsimp only
    rw [lock_fail_counter_of_fail (hfail s.d_Prompt_buffer)]
    by_cases hmax : MAXIMUM_LOCK_FAIL_COUNTER < s.d_carrier_lock_fail_counter + 1
    · -- the last failure allowed: loss of lock
      rw [if_pos hmax]
      refine ⟨fun h => absurd h ?_, fun _ => ⟨rfl, rfl⟩⟩
      simp only [calls_to_loss_of_lock, e1, e2, hc20] at hmax hf ⊢
      omega
    · rw [if_neg hmax]
      refine ⟨fun _ => ⟨rfl, rfl, ?_⟩, fun h => absurd h ?_⟩ <;>
        simp only [calls_to_loss_of_lock, e1, e2, hc20] at hmax ⊢ <;> omega

/-- A steady-state call when every estimate fails: the lock detector's countdown, with
tracking left enabled until its last call. -/
theorem general_work_of_fail (cfg : Config) {dsp : Dsp β σ} (hfail : EstimatesFail dsp)
    {s : Tracking β σ} (hb : LockBounds s) {input : Nat → β} (hsteady : Steady cfg dsp s input)
    (ninput_items : Nat) :
    let r := general_work cfg dsp s ninput_items input
    (1 < calls_to_loss_of_lock s →
      r.2.message = none ∧ r.1.d_enable_tracking = true ∧ LockBounds r.1 ∧
        calls_to_loss_of_lock r.1 + 1 = calls_to_loss_of_lock s) ∧
    (calls_to_loss_of_lock s = 1 →
      r.2.message = (if cfg.d_queue then some 2 else none) ∧ r.1.d_enable_tracking = false) := by
  intro r
  have hr : r = _ := general_work_of_steady hsteady ninput_items
  have hb' : LockBounds (update_replicas cfg dsp s) := hb.of_eq rfl rfl
  obtain ⟨hmore, hlast⟩ := lock_detector_of_fail cfg hfail hb'
    (correlate dsp (update_replicas cfg dsp s) input).1.Prompt
  rw [hr]
  refine ⟨fun h => ?_, hlast⟩
  obtain ⟨hmsg, hen, hN⟩ := hmore h
  exact ⟨hmsg, hen.trans hsteady.1, (lock_detector_lock_bounds cfg dsp hb' _).of_eq rfl rfl, hN⟩

/-- When every estimate fails, a run of steady-state calls from a state whose counters
are in range (every reachable one) declares loss of lock on exactly its
`calls_to_loss_of_lock`-th call, at most
`(CN0_ESTIMATION_SAMPLES + 1)·(MAXIMUM_LOCK_FAIL_COUNTER + 1)` = 1071 calls on: every
call before it is silent, and that call posts message 2 (with a queue) and disables
tracking. -/
theorem loss_of_lock_after_failed_estimates {cfg : Config} {dsp : Dsp β σ}
    (hfail : EstimatesFail dsp) {s : Tracking β σ} (hb : LockBounds s)
    (blocks : List (Nat × (Nat → β))) (hrun : SteadyRun cfg dsp s blocks)
    (hlen : blocks.length = calls_to_loss_of_lock s) :
    calls_to_loss_of_lock s ≤
        (CN0_ESTIMATION_SAMPLES + 1) * (MAXIMUM_LOCK_FAIL_COUNTER.toNat + 1) ∧
      (run cfg dsp s (work_calls blocks)).2.map Effects.message =
        List.replicate (calls_to_loss_of_lock s - 1) none ++
          [if cfg.d_queue then some 2 else none] ∧
      (run cfg dsp s (work_calls blocks)).1.d_enable_tracking = false := by
  have e1 : CN0_ESTIMATION_SAMPLES = 20 := rfl
  have e2 : MAXIMUM_LOCK_FAIL_COUNTER = 50 := rfl
  refine ⟨?_, ?_⟩
  · have hc := hb.cn0_le
    have hf0 := hb.fail_nonneg
    simp only [calls_to_loss_of_lock, e1, e2] at hc hf0 ⊢
    omega
  induction blocks generalizing s with
  | nil => exact absurd hlen (calls_to_loss_of_lock_pos s).ne
  | cons b blocks ih =>
    obtain ⟨ninput_items, input⟩ := b
    obtain ⟨hsteady, hrest⟩ := hrun
    obtain ⟨hmore, hlast⟩ := general_work_of_fail cfg hfail hb hsteady ninput_items
    simp only [work_calls, List.map_cons, run, step]
    rcases Nat.lt_or_ge 1 (calls_to_loss_of_lock s) with h | h
    · -- a silent call, and the countdown goes on from the next state
      obtain ⟨hmsg, -, hb', hN⟩ := hmore h
      obtain ⟨hmsgs, hen⟩ := ih hb' hrest (by simp only [List.length_cons] at hlen; omega)
      simp only [work_calls] at hmsgs hen
      refine ⟨?_, hen⟩
      obtain ⟨k, hk⟩ := Nat.exists_eq_succ_of_ne_zero (calls_to_loss_of_lock_pos
        (general_work cfg dsp s ninput_items input).1).ne'
      rw [hmsg, hmsgs, ← hN, hk, Nat.succ_sub_one, Nat.add_sub_cancel, List.replicate_succ,
        List.cons_append]
    · -- the last call, which leaves no block after it
      have hN : calls_to_loss_of_lock s = 1 := le_antisymm h (calls_to_loss_of_lock_pos s)
      obtain ⟨hmsg, hen⟩ := hlast hN
      have hnil : blocks = [] := by simpa [hN] using hlen
      subst hnil
      simp [run, hmsg, hen, hN]

theorem loss_of_lock_after_failed_estimates_two_calls_before :
    let cfg : Config := gps_l1_ca_config 4000000 4000
    let dsp : Dsp ℚ ℚ := default
    let s : Tracking ℚ ℚ := { construct cfg default with
      d_enable_tracking := true, d_cn0_estimation_counter := 19, d_carrier_lock_fail_counter := 50 }
    let blocks : List (Nat × (Nat → ℚ)) := [(0, default), (0, default)]
    EstimatesFail dsp ∧ LockBounds s ∧ SteadyRun cfg dsp s blocks ∧
      blocks.length = calls_to_loss_of_lock s ∧
      calls_to_loss_of_lock s ≤
        (CN0_ESTIMATION_SAMPLES + 1) * (MAXIMUM_LOCK_FAIL_COUNTER.toNat + 1) ∧
      (run cfg dsp s (work_calls blocks)).2.map Effects.message =
        List.replicate (calls_to_loss_of_lock s - 1) none ++
          [if cfg.d_queue then some 2 else none] ∧
      (run cfg dsp s (work_calls blocks)).1.d_enable_tracking = false := by
  intro cfg dsp s blocks
  have hfail : EstimatesFail dsp := fun _ => .inl (show (0 : ℚ) < CARRIER_LOCK_THRESHOLD by norm_num [CARRIER_LOCK_THRESHOLD])
  have hb : LockBounds s := ⟨by decide, by decide, by decide⟩
  have hrun : SteadyRun cfg dsp s blocks :=
    ⟨by with_unfolding_all decide, by with_unfolding_all decide, trivial⟩
  have hlen : blocks.length = calls_to_loss_of_lock s := rfl
  exact ⟨hfail, hb, hrun, hlen, loss_of_lock_after_failed_estimates hfail hb blocks hrun hlen⟩

/-- Every estimate passes, whatever prompts are buffered: the carrier lock test and the
CN0 are at or above their thresholds (a clean signal). -/
def EstimatesPass (dsp : Dsp β σ) : Prop :=
  ∀ buf, CARRIER_LOCK_THRESHOLD ≤ dsp.carrier_lock_detector buf ∧
    MINIMUM_VALID_CN0 ≤ dsp.cn0_svn_estimator buf

theorem lock_fail_counter_le_of_pass {d_carrier_lock_test d_CN0_SNV_dB_Hz : ℚ}
    (h : CARRIER_LOCK_THRESHOLD ≤ d_carrier_lock_test ∧ MINIMUM_VALID_CN0 ≤ d_CN0_SNV_dB_Hz)
    (fail : Int) : lock_fail_counter d_carrier_lock_test d_CN0_SNV_dB_Hz fail ≤ fail := by
  unfold lock_fail_counter
  rw [if_neg (not_or.mpr ⟨not_lt.mpr h.1, not_lt.mpr h.2⟩)]
  split_ifs <;> omega

/-- When every estimate passes, the lock detector posts nothing and leaves tracking as
it was: the fail counter never rises past its bound. -/
theorem lock_detector_of_pass (cfg : Config) {dsp : Dsp β σ} (hpass : EstimatesPass dsp)
    {s : Tracking β σ} (hb : LockBounds s) (prompt : β) :
    (lock_detector cfg dsp s prompt).2 = none ∧
      (lock_detector cfg dsp s prompt).1.d_enable_tracking = s.d_enable_tracking := by
  unfold lock_detector
  split
  · exact ⟨rfl, rfl⟩
  · dsimp only
    have hle := lock_fail_counter_le_of_pass (hpass s.d_Prompt_buffer) s.d_carrier_lock_fail_counter
    rw [if_neg (not_lt.mpr (hle.trans hb.fail_le))]
    exact ⟨rfl, rfl⟩

/-- When every estimate passes, no `general_work` call posts a message or changes
whether tracking is enabled. -/
theorem general_work_of_pass (cfg : Config) {dsp : Dsp β σ} (hpass : EstimatesPass dsp)
    {s : Tracking β σ} (hb : LockBounds s) (ninput_items : Nat) (input : Nat → β) :
    (general_work cfg dsp s ninput_items input).2.message = none ∧
      (general_work cfg dsp s ninput_items input).1.d_enable_tracking = s.d_enable_tracking := by
  rcases general_work_cases cfg dsp s ninput_items input with
    ⟨-, h⟩ | ⟨-, -, h⟩ | ⟨-, -, h⟩ | ⟨-, h⟩ <;> rw [h]
  · exact ⟨rfl, rfl⟩
  · exact ⟨rfl, rfl⟩
  · exact ⟨rfl, rfl⟩
  · exact lock_detector_of_pass cfg hpass (s := update_replicas cfg dsp s) (hb.of_eq rfl rfl) _

/-- When every estimate passes, no run of `general_work` calls from a state whose
counters are in range (every reachable one) declares loss of lock, whatever its blocks
(pull-in, NaN and idle calls included): no call posts a message, and tracking ends
enabled exactly when it started so. -/
theorem no_loss_of_lock_when_estimates_pass {cfg : Config} {dsp : Dsp β σ}
    (hpass : EstimatesPass dsp) {s : Tracking β σ} (hb : LockBounds s)
    (blocks : List (Nat × (Nat → β))) :
    (∀ e ∈ (run cfg dsp s (work_calls blocks)).2, e.message = none) ∧
      (run cfg dsp s (work_calls blocks)).1.d_enable_tracking = s.d_enable_tracking := by
  induction blocks generalizing s with
  | nil => simp [run, work_calls]
  | cons b blocks ih =>
    obtain ⟨ninput_items, input⟩ := b
    obtain ⟨hmsg, hen⟩ := general_work_of_pass cfg hpass hb ninput_items input
    obtain ⟨hmsgs, hens⟩ := ih (general_work_lock_bounds cfg dsp hb ninput_items input)
    simp only [work_calls] at hmsgs hens
    simp only [work_calls, List.map_cons, run, step, List.mem_cons, forall_eq_or_imp]
    exact ⟨⟨hmsg, hmsgs⟩, hens.trans hen⟩

theorem no_loss_of_lock_when_estimates_pass_at_estimation :
    let cfg : Config := gps_l1_ca_config 4000000 4000
    let dsp : Dsp ℚ ℚ :=
      { (default : Dsp ℚ ℚ) with
        carrier_lock_detector := fun _ => 1
        cn0_svn_estimator := fun _ => 40 }
    let s := { (run cfg dsp (construct cfg default)
      [.start_tracking default, .general_work 0 default]).1 with
        d_cn0_estimation_counter := 20, d_carrier_lock_fail_counter := 50 }
    let blocks : List (Nat × (Nat → ℚ)) := [(0, default), (0, default)]
    s.d_enable_tracking = true ∧ s.d_pull_in = false ∧ EstimatesPass dsp ∧ LockBounds s ∧
      (∀ e ∈ (run cfg dsp s (work_calls blocks)).2, e.message = none) ∧
      (run cfg dsp s (work_calls blocks)).1.d_enable_tracking = s.d_enable_tracking := by
  intro cfg dsp s blocks
  have hpass : EstimatesPass dsp := fun _ =>
    ⟨show CARRIER_LOCK_THRESHOLD ≤ 1 by norm_num [CARRIER_LOCK_THRESHOLD],
      show MINIMUM_VALID_CN0 ≤ 40 by norm_num [MINIMUM_VALID_CN0]⟩
  have hb : LockBounds s := ⟨by decide, by decide, by decide⟩
  have hen : s.d_enable_tracking = true ∧ s.d_pull_in = false := by with_unfolding_all decide
  exact ⟨hen.1, hen.2, hpass, hb, no_loss_of_lock_when_estimates_pass hpass hb blocks⟩

end gnss_sdr.tracking
