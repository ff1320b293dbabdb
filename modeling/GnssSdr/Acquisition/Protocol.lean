import GnssSdr.Acquisition.Episodes

namespace gnss_sdr.acquisition

/-! The acquisition block as its channel sees it: a protocol of four phases, and the
refinement of that protocol by `general_work` and `set_active`. -/

/-- The phases of an acquisition seen from the channel: idle, armed by `set_active(true)`,
dwelling after a number of completed dwells, or decided and about to report. -/
inductive Phase
  | idle
  | armed
  | dwelling (dwells : Nat)
  | decided (success : Bool)
deriving DecidableEq, Repr

/-- A channel call without the input a dwell reads. -/
inductive Call
  | activate (active : Bool)
  | work
deriving DecidableEq, Repr

/-- The protocol: what one call may do to the phase and which message it may push.
Activations are heard only while idle or armed; an armed block starts dwelling; a
dwell either goes on, below `max_dwells`, or decides, and in bit-transition mode only
at the last dwell; the decision is reported on the next call. -/
inductive ProtocolStep (max_dwells : Nat) (bit_transition : Bool) :
    Phase → Call → Option Nat → Phase → Prop
  | activate_idle (active : Bool) :
      ProtocolStep max_dwells bit_transition .idle (.activate active) none
        (if active then .armed else .idle)
  | activate_armed (active : Bool) :
      ProtocolStep max_dwells bit_transition .armed (.activate active) none
        (if active then .armed else .idle)
  | activate_dwelling (dwells : Nat) (active : Bool) :
      ProtocolStep max_dwells bit_transition (.dwelling dwells) (.activate active) none
        (.dwelling dwells)
  | activate_decided (success active : Bool) :
      ProtocolStep max_dwells bit_transition (.decided success) (.activate active) none
        (.decided success)
  | work_idle : ProtocolStep max_dwells bit_transition .idle .work none .idle
  | work_armed : ProtocolStep max_dwells bit_transition .armed .work none (.dwelling 0)
  | work_dwell {dwells : Nat} (h : dwells + 1 < max_dwells) :
      ProtocolStep max_dwells bit_transition (.dwelling dwells) .work none (.dwelling (dwells + 1))
  | work_decide {dwells : Nat} (success : Bool) (h : dwells < max_dwells)
      (hbit : bit_transition = true → dwells + 1 = max_dwells) :
      ProtocolStep max_dwells bit_transition (.dwelling dwells) .work none (.decided success)
  | work_report (success : Bool) :
      ProtocolStep max_dwells bit_transition (.decided success) .work
        (some (if success then 1 else 2)) .idle

/-- Runs of the protocol: the calls, the messages pushed in order, and the last phase. -/
inductive ProtocolRun (max_dwells : Nat) (bit_transition : Bool) :
    Phase → List Call → List Nat → Phase → Prop
  | nil (p : Phase) : ProtocolRun max_dwells bit_transition p [] [] p
  | cons {p q r : Phase} {c : Call} {m : Option Nat} {calls : List Call} {ms : List Nat} :
      ProtocolStep max_dwells bit_transition p c m q →
      ProtocolRun max_dwells bit_transition q calls ms r →
      ProtocolRun max_dwells bit_transition p (c :: calls) (m.toList ++ ms) r

variable {α : Type}

/-- The phase of a block state: `d_state` with, in state 0, `d_active`, and in state 1
the dwells done so far. -/
def phase (s : PcpsSdAcquisition α) : Phase :=
  match s.d_state with
  | 0 => if s.d_active then .armed else .idle
  | 1 => .dwelling s.d_well_count
  | 2 => .decided true
  | _ => .decided false

section phase

variable {s : PcpsSdAcquisition α}

theorem phase_of_zero (h : s.d_state = 0) : phase s = if s.d_active then .armed else .idle := by
  simp [phase, h]

theorem phase_of_one (h : s.d_state = 1) : phase s = .dwelling s.d_well_count := by
  simp [phase, h]

theorem phase_of_two (h : s.d_state = 2) : phase s = .decided true := by
  simp [phase, h]

theorem phase_of_three (h : s.d_state = 3) : phase s = .decided false := by
  simp [phase, h]

end phase

variable [LinearOrderedField α]

/-- The call a channel operation makes. -/
def Op.call : Op α → Call
  | .set_active active => .activate active
  | .general_work _ _ => .work

section refinement

variable {cfg : Config α}

/-- `set_active` is a protocol step: it arms or disarms an idle block and is ignored
once an episode runs. -/
theorem set_active_refines {s : PcpsSdAcquisition α} (hinv : Invariant cfg s) (active : Bool) :
    ProtocolStep cfg.d_max_dwells cfg.d_bit_transition_flag (phase s) (.activate active) none
      (phase { s with d_active := active }) := by
  rcases hinv.state_cases with h | h | h | h
  · rw [phase_of_zero h, phase_of_zero (s := { s with d_active := active }) h]
    cases s.d_active
    · exact .activate_idle active
    · exact .activate_armed active
  · rw [phase_of_one h, phase_of_one (s := { s with d_active := active }) h]
    exact .activate_dwelling _ active
  · rw [phase_of_two h, phase_of_two (s := { s with d_active := active }) h]
    exact .activate_decided true active
  · rw [phase_of_three h, phase_of_three (s := { s with d_active := active }) h]
    exact .activate_decided false active

/-- A dwell is a protocol step: the dwell count it leaves is the one the protocol
counts, below `max_dwells` while dwelling, and at it when a bit-transition episode
decides. -/
theorem dwell_refines {s : PcpsSdAcquisition α} (hmax : 1 ≤ cfg.d_max_dwells)
    (hinv : Invariant cfg s) (h : s.d_state = 1) (data : DwellData α) :
    ProtocolStep cfg.d_max_dwells cfg.d_bit_transition_flag (phase s) .work none
      (phase (dwell cfg s data)) := by
  have hinv' := step_invariant hmax hinv (.general_work 0 data)
  rw [step, general_work_of_one _ _ _ _ h] at hinv'
  have hwell := hinv.dwell_d_well_count h data
  have hlt := hinv.well_lt h
  have hmem : (dwell cfg s data).d_state = 1 ∨ (dwell cfg s data).d_state = 2 ∨
      (dwell cfg s data).d_state = 3 :=
    dwell_decision_mem cfg _ _ ((dwell_searched_spec cfg s data).1.trans h)
  rw [phase_of_one h]
  rcases hmem with h' | h' | h'
  · rw [phase_of_one h', hwell]
    exact .work_dwell (hwell ▸ hinv'.well_lt h')
  · rw [phase_of_two h']
    exact .work_decide true hlt fun hb => hwell ▸ hinv'.well_eq hb (.inl h')
  · rw [phase_of_three h']
    exact .work_decide false hlt fun hb => hwell ▸ hinv'.well_eq hb (.inr h')

/-- Every call on a block in its invariant is a step of the protocol, with the message
the block pushes. -/
theorem step_refines (hmax : 1 ≤ cfg.d_max_dwells) {s : PcpsSdAcquisition α}
    (hinv : Invariant cfg s) (op : Op α) :
    ProtocolStep cfg.d_max_dwells cfg.d_bit_transition_flag (phase s) op.call
      (step cfg s op).2 (phase (step cfg s op).1) := by
  cases op with
  | set_active active => exact set_active_refines hinv active
  | general_work n data =>
    rcases hinv.state_cases with h | h | h | h
    · rw [step, general_work_of_zero _ _ _ _ h, phase_of_zero h]
      cases ha : s.d_active
      · simpa [phase, h, ha] using ProtocolStep.work_idle
      · simpa [phase] using ProtocolStep.work_armed
    · rw [step, general_work_of_one _ _ _ _ h]
      exact dwell_refines hmax hinv h data
    · rw [step, general_work_of_two _ _ _ _ h, phase_of_two h, phase_of_zero rfl, if_neg (by simp)]
      exact .work_report true
    · rw [step, general_work_of_three _ _ _ _ h, phase_of_three h, phase_of_zero rfl,
        if_neg (by simp)]
      exact .work_report false

/-- Every run from a state in the invariant is a run of the protocol. -/
theorem run_refines (hmax : 1 ≤ cfg.d_max_dwells) {s : PcpsSdAcquisition α}
    (hinv : Invariant cfg s) (ops : List (Op α)) :
    ProtocolRun cfg.d_max_dwells cfg.d_bit_transition_flag (phase s) (ops.map Op.call)
      (run cfg s ops).2 (phase (run cfg s ops).1) := by
  induction ops generalizing s with
  | nil => exact .nil _
  | cons op ops ih =>
    rw [run_cons]
    exact .cons (step_refines hmax hinv op) (ih (step_invariant hmax hinv op))

end refinement

/-- The acquisition block refines its channel protocol: for `d_max_dwells ≥ 1`, every
run of `set_active` and `general_work` calls from a reachable state is a run of
`ProtocolStep`, with the same messages in the same order, between the phases of its
first and last states. What the channel can rely on (arming only while idle, at most
`d_max_dwells` dwells, bit-transition decisions at the last dwell, one report per
decision, then idle) is read off the nine rules of the protocol. -/
theorem acquisition_refines_protocol {cfg : Config α} (hmax : 1 ≤ cfg.d_max_dwells)
    {admissible : DwellData α → Prop} {s : PcpsSdAcquisition α}
    (hs : Reachable cfg admissible s) (ops : List (Op α)) :
    ProtocolRun cfg.d_max_dwells cfg.d_bit_transition_flag (phase s) (ops.map Op.call)
      (run cfg s ops).2 (phase (run cfg s ops).1) :=
  run_refines hmax (hs.invariant hmax) ops

theorem acquisition_refines_protocol_first_dwell :
    let cfg : Config ℚ :=
      { d_fft_size := 1, d_samples_per_code := 1, d_doppler_max := 0, d_doppler_step := 1,
        d_num_doppler_bins := 1, d_max_dwells := 1, d_bit_transition_flag := false,
        d_peak := 1, d_threshold := 0, samples_per_code_pos := Nat.one_pos }
    let data : DwellData ℚ :=
      { power := 0, magnitude := fun _ _ => 0, power_nonneg := le_rfl,
        magnitude_nonneg := fun _ _ => le_rfl, magnitude_eq_zero := fun _ _ _ => rfl }
    let ops : List (Op ℚ) := [.set_active true, .general_work 1 data, .general_work 1 data]
    let s : PcpsSdAcquisition ℚ := initial 0 0 0 0
    1 ≤ cfg.d_max_dwells ∧ Reachable cfg (fun _ => True) s ∧
      ProtocolRun cfg.d_max_dwells cfg.d_bit_transition_flag (phase s) (ops.map Op.call)
        (run cfg s ops).2 (phase (run cfg s ops).1) := by
  intro cfg data ops s
  have hs : Reachable cfg (fun _ => True) s := .initial 0 0 0 0
  exact ⟨by decide, hs, acquisition_refines_protocol (by decide) hs ops⟩

end gnss_sdr.acquisition
