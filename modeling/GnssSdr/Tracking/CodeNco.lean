import GnssSdr.Tracking.SecondaryLoop

namespace gnss_sdr.tracking

variable {β σ : Type}

section track

variable (cfg : Config) (dsp : Dsp β σ) (s : Tracking β σ) (epl epl_m : Epl β) (corr : ℚ)

theorem abs_track_rem_le :
    |(track cfg dsp s epl epl_m corr).1.d_rem_code_phase_samples| ≤ 1 / 2 :=
  cmath.abs_sub_round_le _

end track

section steady

variable {cfg : Config} {dsp : Dsp β σ} {s : Tracking β σ} {input : Nat → β}

end steady

/-- Blocks fed one after another from a state, each a steady-state call. -/
def SteadyRun (cfg : Config) (dsp : Dsp β σ) : Tracking β σ → List (Nat × (Nat → β)) → Prop
  | _, [] => True
  | s, (ninput_items, input) :: blocks =>
    Steady cfg dsp s input ∧ SteadyRun cfg dsp (general_work cfg dsp s ninput_items input).1 blocks

/-- The calls that feed `blocks` to `general_work`. -/
def work_calls (blocks : List (Nat × (Nat → β))) : List (Op β) :=
  blocks.map fun b => .general_work b.1 b.2

end gnss_sdr.tracking
