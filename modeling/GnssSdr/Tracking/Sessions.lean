import GnssSdr.Tracking.GeneralWork

namespace gnss_sdr.tracking

variable {β σ : Type}

def Op.is_start_tracking : Op β → Bool
  | .start_tracking _ => true
  | _ => false

/-- The lock detector posts message 2 only when it disables tracking, and never
enables it. -/
theorem lock_detector_message (cfg : Config) (dsp : Dsp β σ) (s : Tracking β σ) (prompt : β) :
    (lock_detector cfg dsp s prompt).2 = none ∨
      ((lock_detector cfg dsp s prompt).1.d_enable_tracking = false ∧
        (lock_detector cfg dsp s prompt).2 = some 2) := by
  unfold lock_detector
  split
  · exact .inl rfl
  · dsimp only
    generalize lock_fail_counter _ _ _ = fail
    by_cases hmax : MAXIMUM_LOCK_FAIL_COUNTER < fail
    · rw [if_pos hmax]
      cases cfg.d_queue
      · exact .inl rfl
      · exact .inr ⟨rfl, rfl⟩
    · rw [if_neg hmax]
      exact .inl rfl

/-- A `general_work` call posts message 2 only from an enabled state, and then leaves
tracking disabled; no call enables tracking. -/
theorem general_work_message (cfg : Config) (dsp : Dsp β σ) (s : Tracking β σ)
    (ninput_items : Nat) (input : Nat → β) :
    ((general_work cfg dsp s ninput_items input).2.message = none ∨
      (s.d_enable_tracking = true ∧
        (general_work cfg dsp s ninput_items input).1.d_enable_tracking = false ∧
        (general_work cfg dsp s ninput_items input).2.message = some 2)) ∧
    ((general_work cfg dsp s ninput_items input).1.d_enable_tracking = true →
      s.d_enable_tracking = true) := by
  rcases general_work_cases cfg dsp s ninput_items input with
    ⟨hen, h⟩ | ⟨hen, -, h⟩ | ⟨hen, -, h⟩ | ⟨⟨hen, -⟩, h⟩ <;> rw [h]
  · simp [idle, hen]
  · simp [pull_in, hen]
  · simp [nan_block, update_replicas, hen]
  · refine ⟨(lock_detector_message cfg dsp _ _).imp_right fun h => ⟨hen, h⟩,
      fun _ => hen⟩

/-- Every call advances the sample counter by exactly the samples it consumes: the
pull-in call by its offset, a NaN block by every available sample, a tracking or idle
call by the block length, and `start_tracking` and `stop_tracking` by none. -/
theorem step_d_sample_counter (cfg : Config) (dsp : Dsp β σ) (s : Tracking β σ) (op : Op β) :
    (step cfg dsp s op).1.d_sample_counter =
      s.d_sample_counter + (step cfg dsp s op).2.consumed := by
  cases op with
  | start_tracking acq => exact (add_zero _).symm
  | stop_tracking => exact (add_zero _).symm
  | general_work ninput_items input =>
    rcases general_work_cases cfg dsp s ninput_items input with
      ⟨-, h⟩ | ⟨-, -, h⟩ | ⟨-, -, h⟩ | ⟨-, h⟩ <;> rw [step, h] <;> rfl

/-- The sample counter is the input stream's position: over any sequence of calls,
from any state, it advances by exactly the samples the calls consume, so no sample is
skipped or counted twice in the time base the records are stamped with. -/
theorem sample_counter_counts_consumed (cfg : Config) (dsp : Dsp β σ) (s : Tracking β σ)
    (ops : List (Op β)) :
    (run cfg dsp s ops).1.d_sample_counter =
      s.d_sample_counter + ((run cfg dsp s ops).2.map Effects.consumed).sum := by
  induction ops generalizing s with
  | nil => simp [run]
  | cons op ops ih =>
    simp only [run, List.map_cons, List.sum_cons, ih, step_d_sample_counter]
    omega

/-- The control messages the `general_work` calls of a run post, in order. -/
def work_messages : List (Op β) → List Effects → List Nat
  | .general_work _ _ :: ops, e :: effects => e.message.toList ++ work_messages ops effects
  | _ :: ops, _ :: effects => work_messages ops effects
  | _, _ => []

theorem work_messages_run_stop_tracking (cfg : Config) (dsp : Dsp β σ) (s : Tracking β σ)
    (ops : List (Op β)) :
    work_messages (.stop_tracking :: ops) (run cfg dsp s (.stop_tracking :: ops)).2 =
      work_messages ops (run cfg dsp (stop_tracking cfg s).1 ops).2 := rfl

theorem work_messages_run_general_work (cfg : Config) (dsp : Dsp β σ) (s : Tracking β σ)
    (ninput_items : Nat) (input : Nat → β) (ops : List (Op β)) :
    work_messages (.general_work ninput_items input :: ops)
        (run cfg dsp s (.general_work ninput_items input :: ops)).2 =
      (general_work cfg dsp s ninput_items input).2.message.toList ++
        work_messages ops (run cfg dsp (general_work cfg dsp s ninput_items input).1 ops).2 := rfl

/-- Between two `start_tracking` calls, whatever `general_work` and `stop_tracking`
calls come in whatever order, `general_work` posts message 2 at most once, and not at
all if tracking was already disabled. -/
theorem work_messages_le (cfg : Config) (dsp : Dsp β σ) (s : Tracking β σ)
    (ops : List (Op β)) (hops : ∀ op ∈ ops, op.is_start_tracking = false) :
    (∀ m ∈ work_messages ops (run cfg dsp s ops).2, m = 2) ∧
      (work_messages ops (run cfg dsp s ops).2).length ≤ if s.d_enable_tracking then 1 else 0 := by
  induction ops generalizing s with
  | nil => simp [run, work_messages]
  | cons op ops ih =>
    have hrest := fun t => ih t fun op' h' => hops op' (List.mem_cons_of_mem _ h')
    cases op with
    | start_tracking acq => exact Bool.noConfusion (hops _ (List.mem_cons_self _ _))
    | stop_tracking =>
      -- tracking is disabled from here on, so the rest posts nothing
      obtain ⟨h2, hlen⟩ := hrest (stop_tracking cfg s).1
      rw [work_messages_run_stop_tracking]
      exact ⟨h2, hlen.trans (Nat.zero_le _)⟩
    | general_work ninput_items input =>
      obtain ⟨h2, hlen⟩ := hrest (general_work cfg dsp s ninput_items input).1
      obtain ⟨hmsg, henable⟩ := general_work_message cfg dsp s ninput_items input
      rw [work_messages_run_general_work]
      rcases hmsg with hnone | ⟨hen, hdis, hsome⟩
      · -- a silent call: the bound carries over, since no call enables tracking
        rw [hnone, Option.toList_none, List.nil_append]
        refine ⟨h2, hlen.trans ?_⟩
        split_ifs with h1 h0 <;> first | omega | exact absurd (henable h1) h0
      · -- the posting call disables tracking, so the rest posts nothing
        rw [hdis, if_neg Bool.false_ne_true, Nat.le_zero, List.length_eq_zero] at hlen
        rw [hsome, hlen, hen, if_pos rfl]
        exact ⟨by simp, le_refl _⟩

/-- Between two `start_tracking` calls, whatever `general_work` and `stop_tracking`
calls come in whatever order, `general_work` posts message 2 at most once, and not at
all if tracking was already disabled: a call posts only from an enabled state and leaves
tracking disabled. `stop_tracking` posts message 2 on every call when there is a queue. -/
theorem general_work_posts_loss_of_lock_once (cfg : Config) (dsp : Dsp β σ) (s : Tracking β σ)
    (ops : List (Op β)) (hops : ∀ op ∈ ops, op.is_start_tracking = false) :
    (∀ m ∈ work_messages ops (run cfg dsp s ops).2, m = 2) ∧
      (work_messages ops (run cfg dsp s ops).2).length ≤
        (if s.d_enable_tracking then 1 else 0) ∧
      (∀ (t : Tracking β σ) (ninput_items : Nat) (input : Nat → β),
        (general_work cfg dsp t ninput_items input).2.message ≠ none →
          t.d_enable_tracking = true ∧
            (general_work cfg dsp t ninput_items input).1.d_enable_tracking = false) ∧
      (cfg.d_queue = true → ∀ t : Tracking β σ, (stop_tracking cfg t).2 = some 2) := by
  refine ⟨(work_messages_le cfg dsp s ops hops).1, (work_messages_le cfg dsp s ops hops).2,
    fun t n input hmsg => ?_, fun hq t => by simp [stop_tracking, hq]⟩
  obtain ⟨hnone | ⟨hen, hdis, -⟩, -⟩ := general_work_message cfg dsp t n input
  · exact absurd hnone hmsg
  · exact ⟨hen, hdis⟩

theorem general_work_posts_loss_of_lock_once_at_loss_of_lock :
    let cfg : Config := gps_l1_ca_config 4000000 4000
    let dsp : Dsp ℚ ℚ := default
    let ops : List (Op ℚ) := [.general_work 0 default, .stop_tracking, .general_work 0 default]
    let s := { (run cfg dsp (construct cfg default)
      [.start_tracking default, .general_work 0 default]).1 with
        d_cn0_estimation_counter := 20, d_carrier_lock_fail_counter := 50 }
    (∀ op ∈ ops, op.is_start_tracking = false) ∧
      work_messages ops (run cfg dsp s ops).2 = [2] ∧
      ((∀ m ∈ work_messages ops (run cfg dsp s ops).2, m = 2) ∧
        (work_messages ops (run cfg dsp s ops).2).length ≤
          (if s.d_enable_tracking then 1 else 0) ∧
        (∀ (t : Tracking ℚ ℚ) (ninput_items : Nat) (input : Nat → ℚ),
          (general_work cfg dsp t ninput_items input).2.message ≠ none →
            t.d_enable_tracking = true ∧
              (general_work cfg dsp t ninput_items input).1.d_enable_tracking = false) ∧
        (cfg.d_queue = true → ∀ t : Tracking ℚ ℚ, (stop_tracking cfg t).2 = some 2)) :=
  ⟨by decide, by with_unfolding_all decide,
    general_work_posts_loss_of_lock_once _ _ _ _ (by decide)⟩

/-- After `start_tracking`, a `stop_tracking` call disables tracking and posts message
2; a second `stop_tracking`, made while tracking is already disabled, posts it again. -/
theorem stop_tracking_posts_while_disabled :
    let cfg : Config := gps_l1_ca_config 4000000 4000
    let dsp : Dsp ℚ ℚ := default
    let s := construct cfg (default : Tracking ℚ ℚ)
    Reachable cfg dsp s ∧
      (run cfg dsp s [.start_tracking default, .stop_tracking]).1.d_enable_tracking = false ∧
      (run cfg dsp s [.start_tracking default, .stop_tracking, .stop_tracking]).2.map
        Effects.message = [none, some 2, some 2] :=
  ⟨.constructed (construct_constructed _ _), rfl, rfl⟩

/-- `start_tracking` does not reset `CADLL_init`: two reachable histories at sample
4008000, one promoted to CADLL mode by a tracked block and one not, restarted on the same
acquisition and input, emit different first records. -/
theorem start_tracking_keeps_cadll_mode :
    let cfg : Config := gps_l1_ca_config 4000000 4000
    let dsp : Dsp ℚ ℚ :=
      { (default : Dsp ℚ ℚ) with
        real := id
        Carrier_wipeoff_and_EPL_volk := fun _ _ _ _ => ⟨0, 1, 0⟩ }
    let s := construct cfg { (default : Tracking ℚ ℚ) with CADLL_init := true }
    let warm_up : List (Op ℚ) := List.replicate 1000 (.general_work 0 default) ++
      [.start_tracking default, .general_work 0 default]
    let a := (run cfg dsp s (warm_up ++ [.stop_tracking, .general_work 0 default])).1
    let b := (run cfg dsp s (warm_up ++ [.general_work 0 default])).1
    let session : List (Op ℚ) :=
      [.start_tracking default, .general_work 0 default, .general_work 0 default]
    Reachable cfg dsp a ∧ Reachable cfg dsp b ∧ a.d_sample_counter = b.d_sample_counter ∧
      a.CADLL_init = true ∧ b.CADLL_init = false ∧
      (run cfg dsp a session).2.map (fun e => e.record.map GnssSynchro.Prompt_I) =
        [none, none, some 1] ∧
      (run cfg dsp b session).2.map (fun e => e.record.map GnssSynchro.Prompt_I) =
        [none, none, some 0] := by
  refine ⟨(Reachable.constructed (construct_constructed _ _)).run _,
    (Reachable.constructed (construct_constructed _ _)).run _, ?_⟩
  dsimp only
  simp only [List.append_assoc, List.cons_append, List.nil_append, run_append]
  rw [run_idle _ _ rfl]
  with_unfolding_all decide

/-- No call returns the block to single-DLL mode: a call leaves `CADLL_init` set only if
it found it set. -/
theorem step_CADLL_init (cfg : Config) (dsp : Dsp β σ) (s : Tracking β σ) (op : Op β) :
    (step cfg dsp s op).1.CADLL_init = true → s.CADLL_init = true := by
  cases op with
  | start_tracking acq => exact id
  | stop_tracking => exact id
  | general_work ninput_items input =>
    rcases general_work_cases cfg dsp s ninput_items input with
      ⟨-, h⟩ | ⟨-, -, h⟩ | ⟨-, -, h⟩ | ⟨-, h⟩ <;> rw [step, h]
    · exact id
    · exact id
    · exact id
    · rw [track_CADLL_init, Bool.and_eq_true]
      exact And.left

/-- The promotion to CADLL mode is final: once `CADLL_init` is clear, no sequence of
calls, `start_tracking` and `stop_tracking` included, sets it again, so over the
block's whole life it is promoted at most once and never returns to single-DLL
tracking for a later satellite. -/
theorem cadll_promotion_is_final (cfg : Config) (dsp : Dsp β σ) (s : Tracking β σ)
    (ops : List (Op β)) (h : s.CADLL_init = false) : (run cfg dsp s ops).1.CADLL_init = false := by
  induction ops generalizing s with
  | nil => exact h
  | cons op ops ih =>
    refine ih _ (Bool.eq_false_iff.mpr fun h' => ?_)
    rw [step_CADLL_init cfg dsp s op h'] at h
    exact Bool.noConfusion h

theorem cadll_promotion_is_final_across_sessions :
    let cfg : Config := gps_l1_ca_config 4000000 4000
    let s := construct cfg { (default : Tracking ℚ ℚ) with CADLL_init := false }
    let ops : List (Op ℚ) := [.start_tracking default, .general_work 0 default, .stop_tracking,
      .start_tracking default, .general_work 0 default]
    s.CADLL_init = false ∧ (run cfg (default : Dsp ℚ ℚ) s ops).1.CADLL_init = false :=
  ⟨rfl, cadll_promotion_is_final _ _ _ _ rfl⟩

end gnss_sdr.tracking
