import GnssSdr.Tracking.Sessions
import GnssSdr.Tracking.LockWindows

namespace gnss_sdr.tracking

/-! The tracking block as its channel sees it: disabled, pulling in, or tracking; what
each call emits and posts; and the refinement of that protocol by `start_tracking`,
`stop_tracking` and `general_work`, from every state. -/

/-- The phases of a tracking block seen from its channel. -/
inductive Phase
  | disabled
  | pulling_in
  | tracking
deriving DecidableEq, Repr

/-- A channel call without its arguments. -/
inductive Call
  | start
  | stop
  | work
deriving DecidableEq, Repr

/-- The protocol: the phase each call moves to, whether it emits an item, and the
control message it posts. `start_tracking` always arms the pull-in and
`stop_tracking` always disables (and posts 2 on a queue). A disabled block emits and
stays disabled; the pull-in call emits nothing and starts tracking; a tracking call
emits, and either keeps tracking or loses lock. -/
inductive ProtocolStep (queue : Bool) : Phase → Call → Bool × Option Nat → Phase → Prop
  | start (p : Phase) : ProtocolStep queue p .start (false, none) .pulling_in
  | stop (p : Phase) :
      ProtocolStep queue p .stop (false, if queue then some 2 else none) .disabled
  | work_disabled : ProtocolStep queue .disabled .work (true, none) .disabled
  | work_pull_in : ProtocolStep queue .pulling_in .work (false, none) .tracking
  | work_track : ProtocolStep queue .tracking .work (true, none) .tracking
  | work_loss_of_lock :
      ProtocolStep queue .tracking .work (true, if queue then some 2 else none) .disabled

/-- Runs of the protocol: the calls, what each one was seen to do, and the last phase. -/
inductive ProtocolRun (queue : Bool) : Phase → List Call → List (Bool × Option Nat) → Phase → Prop
  | nil (p : Phase) : ProtocolRun queue p [] [] p
  | cons {p q r : Phase} {c : Call} {o : Bool × Option Nat} {calls : List Call}
      {os : List (Bool × Option Nat)} :
      ProtocolStep queue p c o q → ProtocolRun queue q calls os r →
      ProtocolRun queue p (c :: calls) (o :: os) r

/-- The `general_work` calls of a run that emit no item. -/
def silent_works : List Call → List (Bool × Option Nat) → Nat
  | .work :: calls, (false, _) :: os => silent_works calls os + 1
  | _ :: calls, _ :: os => silent_works calls os
  | _, _ => 0

/-- In the protocol only the call that follows a `start` is silent: a run has at most as
many silent `general_work` calls as `start` calls, plus one if it begins pulling in. -/
theorem ProtocolRun.silent_works_le {queue : Bool} {p r : Phase} {calls : List Call}
    {os : List (Bool × Option Nat)} (h : ProtocolRun queue p calls os r) :
    silent_works calls os + (if r = .pulling_in then 1 else 0) ≤
      (calls.filter (· == .start)).length + (if p = .pulling_in then 1 else 0) := by
  induction h with
  | nil => exact le_refl _
  | cons hstep _ ih =>
    cases hstep <;> simp only [silent_works, List.filter_cons, beq_self_eq_true, if_true,
      List.length_cons, reduceCtorEq, if_false, beq_iff_eq] at ih ⊢ <;> omega

variable {β σ : Type}

/-- The phase of a block state. -/
def phase (s : Tracking β σ) : Phase :=
  if s.d_enable_tracking then (if s.d_pull_in then .pulling_in else .tracking) else .disabled

/-- The call a channel operation makes. -/
def Op.call : Op β → Call
  | .start_tracking _ => .start
  | .stop_tracking => .stop
  | .general_work _ _ => .work

/-- What the channel sees of a call's effects: whether an item is emitted, and the
message posted. -/
def Effects.observe (e : Effects) : Bool × Option Nat :=
  (e.record.isSome, e.message)

section phase

variable {s : Tracking β σ}

theorem phase_of_disabled (h : s.d_enable_tracking = false) : phase s = .disabled := by
  simp [phase, h]

theorem phase_of_pull_in (hen : s.d_enable_tracking = true) (hpull : s.d_pull_in = true) :
    phase s = .pulling_in := by
  simp [phase, hen, hpull]

theorem phase_of_tracking (hen : s.d_enable_tracking = true) (hpull : s.d_pull_in = false) :
    phase s = .tracking := by
  simp [phase, hen, hpull]

end phase

/-- From an enabled state the lock detector either keeps tracking silently or loses lock:
it disables tracking and posts 2 when there is a queue. -/
theorem lock_detector_outcome (cfg : Config) (dsp : Dsp β σ) {s : Tracking β σ} (prompt : β)
    (hen : s.d_enable_tracking = true) :
    ((lock_detector cfg dsp s prompt).1.d_enable_tracking = true ∧
        (lock_detector cfg dsp s prompt).2 = none) ∨
      ((lock_detector cfg dsp s prompt).1.d_enable_tracking = false ∧
        (lock_detector cfg dsp s prompt).2 = if cfg.d_queue then some 2 else none) := by
  unfold lock_detector
  split
  · exact .inl ⟨hen, rfl⟩
  · dsimp only
    generalize lock_fail_counter _ _ _ = fail
    by_cases hmax : MAXIMUM_LOCK_FAIL_COUNTER < fail
    · rw [if_pos hmax]
      exact .inr ⟨rfl, rfl⟩
    · rw [if_neg hmax]
      exact .inl ⟨hen, rfl⟩

/-- A steady-state call is a protocol step: it emits, keeps the pull-in done, and keeps
tracking or loses lock as the lock detector decides. -/
theorem track_refines (cfg : Config) (dsp : Dsp β σ) {s : Tracking β σ} (epl epl_m : Epl β)
    (corr : ℚ) (hen : s.d_enable_tracking = true) (hpull : s.d_pull_in = false) :
    ProtocolStep cfg.d_queue .tracking .work (track cfg dsp s epl epl_m corr).2.observe
      (phase (track cfg dsp s epl epl_m corr).1) := by
  have hpull' : (track cfg dsp s epl epl_m corr).1.d_pull_in = false :=
    (lock_detector_d_pull_in cfg dsp s epl.Prompt).trans hpull
  have hobs : (track cfg dsp s epl epl_m corr).2.observe =
      (true, (lock_detector cfg dsp s epl.Prompt).2) := rfl
  rw [hobs]
  rcases lock_detector_outcome cfg dsp epl.Prompt hen with ⟨hen', hmsg⟩ | ⟨hdis, hmsg⟩
  · rw [hmsg, phase_of_tracking (s := (track cfg dsp s epl epl_m corr).1) hen' hpull']
    exact .work_track
  · rw [hmsg, phase_of_disabled (s := (track cfg dsp s epl epl_m corr).1) hdis]
    exact .work_loss_of_lock

/-- Every call, from every state, is a step of the protocol, with what it emits and
posts. -/
theorem step_refines (cfg : Config) (dsp : Dsp β σ) (s : Tracking β σ) (op : Op β) :
    ProtocolStep cfg.d_queue (phase s) op.call (step cfg dsp s op).2.observe
      (phase (step cfg dsp s op).1) := by
  cases op with
  | start_tracking acq => exact .start _
  | stop_tracking => exact .stop _
  | general_work ninput_items input =>
    rcases general_work_cases cfg dsp s ninput_items input with
      ⟨hen, h⟩ | ⟨hen, hpull, h⟩ | ⟨hen, hpull, h⟩ | ⟨⟨hen, hpull, -⟩, h⟩ <;> rw [step, h]
    · rw [phase_of_disabled hen, phase_of_disabled (s := (idle s).1) hen]
      exact .work_disabled
    · rw [phase_of_pull_in hen hpull, phase_of_tracking (s := (pull_in s).1) hen rfl]
      exact .work_pull_in
    · rw [phase_of_tracking hen hpull,
        phase_of_tracking (s := (nan_block cfg (update_replicas cfg dsp s) ninput_items).1) hen hpull]
      exact .work_track
    · rw [phase_of_tracking hen hpull]
      exact track_refines cfg dsp _ _ _ hen hpull

/-- Every run, from every state, is a run of the protocol. -/
theorem run_refines (cfg : Config) (dsp : Dsp β σ) (s : Tracking β σ) (ops : List (Op β)) :
    ProtocolRun cfg.d_queue (phase s) (ops.map Op.call) ((run cfg dsp s ops).2.map Effects.observe)
      (phase (run cfg dsp s ops).1) := by
  induction ops generalizing s with
  | nil => exact .nil _
  | cons op ops ih => exact .cons (step_refines cfg dsp s op) (ih _)

/-- The tracking block refines its channel protocol: every sequence of
`start_tracking`, `stop_tracking` and `general_work` calls, from every state, is a run
of `ProtocolStep` between the phases of its first and last states, with each call's
item and control message as the channel sees them. -/
theorem tracking_refines_protocol (cfg : Config) (dsp : Dsp β σ) (s : Tracking β σ)
    (ops : List (Op β)) :
    ProtocolRun cfg.d_queue (phase s) (ops.map Op.call) ((run cfg dsp s ops).2.map Effects.observe)
      (phase (run cfg dsp s ops).1) :=
  run_refines cfg dsp s ops

/-- Every `general_work` call emits an item except the pull-in call: over any sequence of
calls from any state, the calls that emit nothing number at most the `start_tracking`
calls, plus one if the block starts mid-pull-in. -/
theorem general_work_emits_except_pull_in (cfg : Config) (dsp : Dsp β σ) (s : Tracking β σ)
    (ops : List (Op β)) :
    silent_works (ops.map Op.call) ((run cfg dsp s ops).2.map Effects.observe) ≤
      (ops.filter Op.is_start_tracking).length + (if phase s = .pulling_in then 1 else 0) := by
  have h := (run_refines cfg dsp s ops).silent_works_le
  have hstarts : ((ops.map Op.call).filter (· == .start)).length =
      (ops.filter Op.is_start_tracking).length := by
    rw [List.filter_map, List.length_map]
    congr 2
    funext op
    cases op <;> rfl
  omega

section records

theorem lock_detector_d_acquisition_gnss_synchro (cfg : Config) (dsp : Dsp β σ)
    (s : Tracking β σ) (prompt : β) :
    (lock_detector cfg dsp s prompt).1.d_acquisition_gnss_synchro =
      s.d_acquisition_gnss_synchro := by
  unfold lock_detector
  split
  · rfl
  · dsimp only
    split <;> rfl

/-- `general_work` keeps the acquisition record, and an item it writes with
`Flag_valid_tracking` set takes the flag from that record: an idle call writes the
record itself, a tracking call a copy of it, and a NaN block a copy with the flag
cleared. -/
theorem general_work_record_flag (cfg : Config) (dsp : Dsp β σ) (s : Tracking β σ)
    (ninput_items : Nat) (input : Nat → β) :
    (general_work cfg dsp s ninput_items input).1.d_acquisition_gnss_synchro =
        s.d_acquisition_gnss_synchro ∧
      ∀ r ∈ (general_work cfg dsp s ninput_items input).2.record,
        r.Flag_valid_tracking = true → s.d_acquisition_gnss_synchro.Flag_valid_tracking = true := by
  rcases general_work_cases cfg dsp s ninput_items input with
    ⟨-, h⟩ | ⟨-, -, h⟩ | ⟨-, -, h⟩ | ⟨-, h⟩ <;> rw [h]
  · exact ⟨rfl, fun r hr => by cases hr; exact id⟩
  · exact ⟨rfl, fun r hr => by cases hr⟩
  · exact ⟨rfl, fun r hr hflag => by cases hr; exact Bool.noConfusion hflag⟩
  · exact ⟨lock_detector_d_acquisition_gnss_synchro cfg dsp _ _, fun r hr => by cases hr; exact id⟩

/-- The tracking block never marks an item valid on its own: over any sequence of calls
from any state, every item written with `Flag_valid_tracking` set carries the flag of an
acquisition record the block was handed, the one it held at the start or one passed to
`start_tracking`. -/
theorem tracking_never_sets_valid_flag (cfg : Config) (dsp : Dsp β σ) (s : Tracking β σ)
    (ops : List (Op β)) :
    ∀ e ∈ (run cfg dsp s ops).2, ∀ r ∈ e.record, r.Flag_valid_tracking = true →
      s.d_acquisition_gnss_synchro.Flag_valid_tracking = true ∨
        ∃ acq, Op.start_tracking acq ∈ ops ∧ acq.Flag_valid_tracking = true := by
  induction ops generalizing s with
  | nil => intro e he; cases he
  | cons op ops ih =>
    intro e he r hr hflag
    rcases List.mem_cons.mp he with rfl | he'
    · -- the call's own item
      cases op with
      | start_tracking acq => cases hr
      | stop_tracking => cases hr
      | general_work n input => exact .inl ((general_work_record_flag cfg dsp s n input).2 r hr hflag)
    · -- an item of the rest takes its flag from the record the call leaves
      rcases ih _ e he' r hr hflag with h | ⟨acq, hmem, hacq⟩
      · cases op with
        | start_tracking acq => exact .inr ⟨acq, List.mem_cons_self _ _, h⟩
        | stop_tracking => exact .inl h
        | general_work n input =>
          exact .inl ((general_work_record_flag cfg dsp s n input).1 ▸ h)
      · exact .inr ⟨acq, List.mem_cons_of_mem _ hmem, hacq⟩

end records

theorem tracking_never_sets_valid_flag_idle :
    let cfg : Config := gps_l1_ca_config 4000000 4000
    let acq : GnssSynchro := { (default : GnssSynchro) with Flag_valid_tracking := true }
    let s := construct cfg { (default : Tracking ℚ ℚ) with d_acquisition_gnss_synchro := acq }
    let ops : List (Op ℚ) := [.general_work 0 default]
    let e : Effects := ⟨some acq, 4000, none⟩
    e ∈ (run cfg (default : Dsp ℚ ℚ) s ops).2 ∧ acq ∈ e.record ∧ acq.Flag_valid_tracking = true ∧
      (s.d_acquisition_gnss_synchro.Flag_valid_tracking = true ∨
        ∃ a, Op.start_tracking a ∈ ops ∧ a.Flag_valid_tracking = true) := by
  intro cfg acq s ops e
  have he : e ∈ (run cfg (default : Dsp ℚ ℚ) s ops).2 := List.mem_singleton.mpr rfl
  exact ⟨he, rfl, rfl, tracking_never_sets_valid_flag cfg default s ops e he acq rfl rfl⟩

end gnss_sdr.tracking
