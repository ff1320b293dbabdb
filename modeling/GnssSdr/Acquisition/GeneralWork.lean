import GnssSdr.Acquisition.Search

namespace gnss_sdr.acquisition

variable {α : Type} [LinearOrderedField α]

/-- `pcps_sd_acquisition_cc::general_work`: the next block state and the message
pushed on `d_channel_internal_queue` (1 = ACQ_SUCCESS, 2 = ACQ_FAIL). Only the
dwell of state 1 reads the input block. -/
def general_work (cfg : Config α) (s : PcpsSdAcquisition α) (ninput_items : Nat)
    (data : DwellData α) : PcpsSdAcquisition α × Option Nat :=
  match s.d_state with
  | 0 =>
    let s := if s.d_active then
      { s with
        Acq_delay_samples := 0
        Acq_doppler_hz := 0
        Acq_samplestamp_samples := 0
        d_well_count := 0
        d_mag := 0
        d_input_power := 0
        d_test_statistics := 0
        d_state := 1 }
    else s
    ({ s with d_sample_counter := s.d_sample_counter + cfg.d_fft_size * ninput_items }, none)
  | 1 => (dwell cfg s data, none)
  | 2 =>
    ({ s with
      d_active := false
      d_state := 0
      d_sample_counter := s.d_sample_counter + cfg.d_fft_size * ninput_items }, some 1)
  | 3 =>
    ({ s with
      d_active := false
      d_state := 0
      d_sample_counter := s.d_sample_counter + cfg.d_fft_size * ninput_items }, some 2)
  | _ => (s, none)

/-- The items `general_work` passes to `consume_each`: all of them in states 0, 2 and 3,
the one item a dwell reads in state 1, and none in a state the switch has no case for. -/
def general_work_consumed (s : PcpsSdAcquisition α) (ninput_items : Nat) : Nat :=
  match s.d_state with
  | 0 => ninput_items
  | 1 => 1
  | 2 => ninput_items
  | 3 => ninput_items
  | _ => 0

/-- The calls a channel makes on the block: `set_active` and `general_work`, the
latter with its item count and what a dwell would read from the first item. -/
inductive Op (α : Type) [LinearOrderedField α]
  | set_active (active : Bool)
  | general_work (ninput_items : Nat) (data : DwellData α)

/-- One call on the block, with the message it pushes. -/
def step (cfg : Config α) (s : PcpsSdAcquisition α) : Op α → PcpsSdAcquisition α × Option Nat
  | .set_active active => ({ s with d_active := active }, none)
  | .general_work ninput_items data => general_work cfg s ninput_items data

/-- A sequence of calls: the final state and every message pushed, in order. -/
def run (cfg : Config α) : PcpsSdAcquisition α → List (Op α) → PcpsSdAcquisition α × List Nat
  | s, [] => (s, [])
  | s, op :: ops =>
    let r := step cfg s op
    let t := run cfg r.1 ops
    (t.1, r.2.toList ++ t.2)

/-- The states after each call of a sequence. -/
def trace (cfg : Config α) : PcpsSdAcquisition α → List (Op α) → List (PcpsSdAcquisition α)
  | _, [] => []
  | s, op :: ops => (step cfg s op).1 :: trace cfg (step cfg s op).1 ops

/-- The sample counter at the end of each dwell of a sequence of calls: after every
`general_work` made in state 1. -/
def dwell_ends (cfg : Config α) : PcpsSdAcquisition α → List (Op α) → List Nat
  | _, [] => []
  | s, op :: ops =>
    let t := (step cfg s op).1
    (match op with
      | .general_work _ _ => if s.d_state = 1 then [t.d_sample_counter] else []
      | .set_active _ => []) ++ dwell_ends cfg t ops

/-- A freshly constructed block: the constructor clears the counters and flags but
leaves `d_test_statistics` and the shared record with whatever they hold. -/
def initial (test_statistics : α) (delay : Nat) (doppler : Int) (stamp : Nat) :
    PcpsSdAcquisition α :=
  { d_state := 0, d_active := false, d_well_count := 0, d_sample_counter := 0, d_mag := 0,
    d_input_power := 0, d_test_statistics := test_statistics, Acq_delay_samples := delay,
    Acq_doppler_hz := doppler, Acq_samplestamp_samples := stamp }

/-- A call whose dwell input, if any, satisfies `admissible`. -/
def Op.Admissible (admissible : DwellData α → Prop) : Op α → Prop
  | .set_active _ => True
  | .general_work _ data => admissible data

/-- The states a constructed block reaches through calls with admissible input. -/
inductive Reachable (cfg : Config α) (admissible : DwellData α → Prop) :
    PcpsSdAcquisition α → Prop
  | initial (test_statistics : α) (delay : Nat) (doppler : Int) (stamp : Nat) :
      Reachable cfg admissible (initial test_statistics delay doppler stamp)
  | step {s : PcpsSdAcquisition α} {op : Op α} (hop : op.Admissible admissible)
      (hs : Reachable cfg admissible s) : Reachable cfg admissible (step cfg s op).1

theorem foldl_congr_proj {β γ : Type} (f : β → Nat → β) (π : β → γ)
    (h : ∀ b k, π (f b k) = π b) (l : List Nat) (b : β) : π (l.foldl f b) = π b := by
  induction l generalizing b with
  | nil => rfl
  | cons k l ih => rw [List.foldl_cons, ih, h]

section frame

variable (cfg : Config α) (data : DwellData α) (s : PcpsSdAcquisition α) (k : Nat)

@[simp] theorem record_maximum_d_state : (record_maximum cfg data s k).d_state = s.d_state := by
  unfold record_maximum; dsimp only; split_ifs <;> rfl

@[simp] theorem record_maximum_d_active : (record_maximum cfg data s k).d_active = s.d_active := by
  unfold record_maximum; dsimp only; split_ifs <;> rfl

@[simp] theorem record_maximum_d_well_count :
    (record_maximum cfg data s k).d_well_count = s.d_well_count := by
  unfold record_maximum; dsimp only; split_ifs <;> rfl

@[simp] theorem record_maximum_d_sample_counter :
    (record_maximum cfg data s k).d_sample_counter = s.d_sample_counter := by
  unfold record_maximum; dsimp only; split_ifs <;> rfl

@[simp] theorem record_maximum_d_input_power :
    (record_maximum cfg data s k).d_input_power = s.d_input_power := by
  unfold record_maximum; dsimp only; split_ifs <;> rfl

end frame

/-- The block state the search returns is a fold of `record_maximum` alone: the
`peaks` map never feeds back into it. -/
theorem search_fst (cfg : Config α) (data : DwellData α) (thr : α) (s : PcpsSdAcquisition α) :
    (search cfg data thr s).1 =
      (List.range cfg.d_num_doppler_bins).foldl (record_maximum cfg data) s := by
  unfold search
  generalize List.range cfg.d_num_doppler_bins = l
  suffices ∀ (acc : PcpsSdAcquisition α × List (α × Peak)),
      (l.foldl (fun acc k => (record_maximum cfg data acc.1 k,
        collect_peaks cfg data thr acc.1.d_sample_counter k acc.2)) acc).1 =
        l.foldl (record_maximum cfg data) acc.1 from this (s, [])
  induction l with
  | nil => intro acc; rfl
  | cons k l ih => intro acc; exact ih _

section search_frame

variable (cfg : Config α) (data : DwellData α) (thr : α) (s : PcpsSdAcquisition α)

@[simp] theorem search_d_state : (search cfg data thr s).1.d_state = s.d_state := by
  rw [search_fst]; exact foldl_congr_proj _ _ (record_maximum_d_state cfg data) _ _

@[simp] theorem search_d_active : (search cfg data thr s).1.d_active = s.d_active := by
  rw [search_fst]; exact foldl_congr_proj _ _ (record_maximum_d_active cfg data) _ _

@[simp] theorem search_d_well_count :
    (search cfg data thr s).1.d_well_count = s.d_well_count := by
  rw [search_fst]; exact foldl_congr_proj _ _ (record_maximum_d_well_count cfg data) _ _

@[simp] theorem search_d_sample_counter :
    (search cfg data thr s).1.d_sample_counter = s.d_sample_counter := by
  rw [search_fst]; exact foldl_congr_proj _ _ (record_maximum_d_sample_counter cfg data) _ _

@[simp] theorem search_d_input_power :
    (search cfg data thr s).1.d_input_power = s.d_input_power := by
  rw [search_fst]; exact foldl_congr_proj _ _ (record_maximum_d_input_power cfg data) _ _

end search_frame

section aux_frame

variable (s : PcpsSdAcquisition α) (found : Option (α × Peak))

@[simp] theorem apply_auxiliary_peak_d_state : (apply_auxiliary_peak s found).d_state = s.d_state := by
  cases found <;> rfl

@[simp] theorem apply_auxiliary_peak_d_active :
    (apply_auxiliary_peak s found).d_active = s.d_active := by
  cases found <;> rfl

@[simp] theorem apply_auxiliary_peak_d_well_count :
    (apply_auxiliary_peak s found).d_well_count = s.d_well_count := by
  cases found <;> rfl

@[simp] theorem apply_auxiliary_peak_d_sample_counter :
    (apply_auxiliary_peak s found).d_sample_counter = s.d_sample_counter := by
  cases found <;> rfl

@[simp] theorem apply_auxiliary_peak_d_input_power :
    (apply_auxiliary_peak s found).d_input_power = s.d_input_power := by
  cases found <;> rfl

end aux_frame

/-- A `peaks` entry of the current dwell: the normalised magnitude of some bin and
index, with that index's code phase, the bin's Doppler and the dwell's sample counter. -/
def PeakEntry (cfg : Config α) (data : DwellData α) (sample_counter : Nat) (e : α × Peak) :
    Prop :=
  ∃ k < cfg.d_num_doppler_bins, ∃ i,
    e.1 = data.magnitude k i / (cfg.fft_normalization_factor * cfg.fft_normalization_factor) ∧
    e.2 = ⟨i % cfg.d_samples_per_code, cfg.bin_doppler k, sample_counter⟩

/-- What a dwell may leave in `d_test_statistics` and the record: what was there, or a
peak of this dwell (the main peak of a bin, or an auxiliary peak) with its ratio to
the block power, from a bin the search visits, stamped with the dwell's counter. -/
def DwellWrote (cfg : Config α) (data : DwellData α) (sample_counter : Nat)
    (s t : PcpsSdAcquisition α) : Prop :=
  (t.d_test_statistics = s.d_test_statistics ∧ t.Acq_delay_samples = s.Acq_delay_samples ∧
      t.Acq_doppler_hz = s.Acq_doppler_hz ∧
      t.Acq_samplestamp_samples = s.Acq_samplestamp_samples) ∨
    (t.RecordValid cfg ∧ t.Acq_samplestamp_samples = sample_counter ∧
      ∃ k < cfg.d_num_doppler_bins, ∃ i, t.d_test_statistics =
        data.magnitude k i / (cfg.fft_normalization_factor * cfg.fft_normalization_factor) /
          data.power)

theorem mem_map_assign {key : α} {value : Peak} {l : List (α × Peak)} {e : α × Peak}
    (h : e ∈ map_assign key value l) : e = (key, value) ∨ e ∈ l := by
  induction l with
  | nil => simpa [map_assign] using h
  | cons x l ih =>
    unfold map_assign at h
    split_ifs at h
    · simpa using h
    · simp only [List.mem_cons] at h
      rcases h with h | h
      · exact .inl h
      · exact .inr (List.mem_cons_of_mem _ h)
    · simp only [List.mem_cons] at h
      rcases h with h | h
      · exact .inr (h ▸ List.mem_cons_self _ _)
      · rcases ih h with h | h
        · exact .inl h
        · exact .inr (List.mem_cons_of_mem _ h)

/-- Every entry the inner loop adds for bin `k` is a `PeakEntry` of that bin. -/
theorem collect_peaks_entry (cfg : Config α) (data : DwellData α) (thr : α) (c k : Nat)
    (hk : k < cfg.d_num_doppler_bins) (peaks : List (α × Peak))
    (hpeaks : ∀ e ∈ peaks, PeakEntry cfg data c e) :
    ∀ e ∈ collect_peaks cfg data thr c k peaks, PeakEntry cfg data c e := by
  unfold collect_peaks
  generalize List.range cfg.d_fft_size = l
  induction l generalizing peaks with
  | nil => exact hpeaks
  | cons i l ih =>
    refine ih _ fun e he => ?_
    dsimp only at he
    split_ifs at he
    · rcases mem_map_assign he with rfl | he
      · exact ⟨k, hk, i, rfl, rfl⟩
      · exact hpeaks e he
    · exact hpeaks e he

/-- The `peaks` map a search builds holds only entries of this dwell. -/
theorem search_peakEntry (cfg : Config α) (data : DwellData α) (thr : α)
    (s : PcpsSdAcquisition α) :
    ∀ e ∈ (search cfg data thr s).2, PeakEntry cfg data s.d_sample_counter e := by
  unfold search
  have hl : ∀ k ∈ List.range cfg.d_num_doppler_bins, k < cfg.d_num_doppler_bins :=
    fun k hk => List.mem_range.mp hk
  generalize List.range cfg.d_num_doppler_bins = l at hl
  suffices ∀ (acc : PcpsSdAcquisition α × List (α × Peak)),
      acc.1.d_sample_counter = s.d_sample_counter →
      (∀ e ∈ acc.2, PeakEntry cfg data s.d_sample_counter e) →
      ∀ e ∈ (l.foldl (fun acc k => (record_maximum cfg data acc.1 k,
        collect_peaks cfg data thr acc.1.d_sample_counter k acc.2)) acc).2,
        PeakEntry cfg data s.d_sample_counter e from
    this (s, []) rfl (by simp)
  induction l with
  | nil => intro acc _ hacc; exact hacc
  | cons k l ih =>
    intro acc hc hacc
    refine ih (fun k hk => hl k (List.mem_cons_of_mem _ hk)) _ (by simpa using hc) ?_
    dsimp only
    rw [hc]
    exact collect_peaks_entry cfg data thr _ k (hl k (List.mem_cons_self _ _)) _ hacc

omit [LinearOrderedField α] in
theorem select_auxiliary_peak_mem (cfg : Config α) {higher_peaks : List (Int × Int)} {i : Nat}
    {l : List (α × Peak)} {e : α × Peak} (h : select_auxiliary_peak cfg higher_peaks i l = some e) :
    e ∈ l := by
  induction l generalizing higher_peaks i with
  | nil => simp [select_auxiliary_peak] at h
  | cons x l ih =>
    obtain ⟨key, p⟩ := x
    unfold select_auxiliary_peak at h
    split_ifs at h
    · exact List.mem_cons_of_mem _ (ih h)
    · cases h; exact List.mem_cons_self _ _
    · exact List.mem_cons_of_mem _ (ih h)

theorem PeakEntry.dwellWrote {cfg : Config α} {data : DwellData α} {c : Nat}
    {s : PcpsSdAcquisition α} {e : α × Peak} (he : PeakEntry cfg data c e)
    (hpower : s.d_input_power = data.power) :
    DwellWrote cfg data c s (apply_auxiliary_peak s (some e)) := by
  obtain ⟨key, p⟩ := e
  obtain ⟨k, hk, i, hkey, hp⟩ := he
  cases hp
  refine .inr ⟨⟨Nat.mod_lt _ cfg.samples_per_code_pos, k, hk, rfl⟩, rfl, k, hk, i, ?_⟩
  simp only [apply_auxiliary_peak, hpower]
  exact congrArg (· / data.power) hkey

/-- One bin of the search keeps `DwellWrote` from the dwell's starting state. -/
theorem record_maximum_dwellWrote {cfg : Config α} {data : DwellData α}
    {s u : PcpsSdAcquisition α} {k : Nat} (hk : k < cfg.d_num_doppler_bins)
    (hpower : u.d_input_power = data.power) (hu : DwellWrote cfg data u.d_sample_counter s u) :
    DwellWrote cfg data u.d_sample_counter s (record_maximum cfg data u k) := by
  unfold record_maximum
  dsimp only
  split_ifs
  · refine .inr ⟨⟨Nat.mod_lt _ cfg.samples_per_code_pos, k, hk, rfl⟩, rfl, k, hk,
      bin_indext cfg data k, ?_⟩
    simp only [bin_magt, hpower]
  · exact hu
  · exact hu

/-- The main search writes only peaks of this dwell. -/
theorem search_dwellWrote (cfg : Config α) (data : DwellData α) (thr : α)
    (s : PcpsSdAcquisition α) (hpower : s.d_input_power = data.power) :
    DwellWrote cfg data s.d_sample_counter s (search cfg data thr s).1 := by
  rw [search_fst]
  have hl : ∀ k ∈ List.range cfg.d_num_doppler_bins, k < cfg.d_num_doppler_bins :=
    fun k hk => List.mem_range.mp hk
  generalize List.range cfg.d_num_doppler_bins = l at hl
  suffices ∀ u : PcpsSdAcquisition α, u.d_sample_counter = s.d_sample_counter →
      u.d_input_power = data.power → DwellWrote cfg data s.d_sample_counter s u →
      DwellWrote cfg data s.d_sample_counter s (l.foldl (record_maximum cfg data) u) from
    this s rfl hpower (.inl ⟨rfl, rfl, rfl, rfl⟩)
  induction l with
  | nil => intro u _ _ hu; exact hu
  | cons k l ih =>
    intro u hc hp hu
    refine ih (fun k hk => hl k (List.mem_cons_of_mem _ hk)) _ (by simpa using hc)
      (by simpa using hp) ?_
    rw [← hc] at hu ⊢
    exact record_maximum_dwellWrote (hl k (List.mem_cons_self _ _)) hp hu

theorem DwellWrote.trans {cfg : Config α} {data : DwellData α} {c : Nat}
    {s t u : PcpsSdAcquisition α} (h₁ : DwellWrote cfg data c s t)
    (h₂ : DwellWrote cfg data c t u) : DwellWrote cfg data c s u := by
  rcases h₂ with ⟨h1, h2, h3, h4⟩ | h₂
  · rcases h₁ with ⟨g1, g2, g3, g4⟩ | h₁
    · exact .inl ⟨h1.trans g1, h2.trans g2, h3.trans g3, h4.trans g4⟩
    · obtain ⟨⟨hd, k, hk, hdop⟩, hst, k', hk', i, ht⟩ := h₁
      exact .inr ⟨⟨h2 ▸ hd, k, hk, h3 ▸ hdop⟩, h4 ▸ hst, k', hk', i, h1 ▸ ht⟩
  · exact .inr h₂

/-- The state a dwell hands to its decision: the search result with the auxiliary
peak, if one was chosen, applied. `d_well_count++` is on an `unsigned int`. -/
def dwell_searched (cfg : Config α) (s : PcpsSdAcquisition α) (data : DwellData α) :
    PcpsSdAcquisition α × Bool :=
  let s := { s with
    d_input_power := data.power
    d_mag := 0
    d_sample_counter := s.d_sample_counter + cfg.d_fft_size
    d_well_count := (s.d_well_count + 1) % 2 ^ 32 }
  let threshold_spoofing :=
    cfg.d_threshold * s.d_input_power *
      (cfg.fft_normalization_factor * cfg.fft_normalization_factor)
  let searched := search cfg data threshold_spoofing s
  let found := if decide (1 < cfg.d_peak) then
    select_auxiliary_peak cfg [] 0 searched.2.reverse else none
  (apply_auxiliary_peak searched.1 found, found.isSome)

theorem dwell_eq (cfg : Config α) (s : PcpsSdAcquisition α) (data : DwellData α) :
    dwell cfg s data =
      { (dwell_searched cfg s data).1 with
        d_state := dwell_decision cfg (dwell_searched cfg s data).1 (decide (1 < cfg.d_peak))
          (dwell_searched cfg s data).2 } := rfl

/-- The dwell's bookkeeping: one more dwell, `fft_size` more samples, the block's
power, and the statistic and record either kept or written from this dwell. -/
theorem dwell_searched_spec (cfg : Config α) (s : PcpsSdAcquisition α) (data : DwellData α) :
    let t := (dwell_searched cfg s data).1
    t.d_state = s.d_state ∧ t.d_active = s.d_active ∧
      t.d_well_count = (s.d_well_count + 1) % 2 ^ 32 ∧
      t.d_sample_counter = s.d_sample_counter + cfg.d_fft_size ∧
      t.d_input_power = data.power ∧
      DwellWrote cfg data (s.d_sample_counter + cfg.d_fft_size) s t := by
  intro t
  simp only [t, dwell_searched, apply_auxiliary_peak_d_state, apply_auxiliary_peak_d_active,
    apply_auxiliary_peak_d_well_count, apply_auxiliary_peak_d_sample_counter,
    apply_auxiliary_peak_d_input_power, search_d_state, search_d_active, search_d_well_count,
    search_d_sample_counter, search_d_input_power, true_and]
  set u := { s with
    d_input_power := data.power
    d_mag := 0
    d_sample_counter := s.d_sample_counter + cfg.d_fft_size
    d_well_count := (s.d_well_count + 1) % 2 ^ 32 }
  have hsearch := search_dwellWrote cfg data
    (cfg.d_threshold * u.d_input_power * (cfg.fft_normalization_factor *
      cfg.fft_normalization_factor)) u rfl
  have hpeaks := search_peakEntry cfg data
    (cfg.d_threshold * u.d_input_power * (cfg.fft_normalization_factor *
      cfg.fft_normalization_factor)) u
  have hsu : DwellWrote cfg data (s.d_sample_counter + cfg.d_fft_size) s u :=
    .inl ⟨rfl, rfl, rfl, rfl⟩
  refine hsu.trans (hsearch.trans ?_)
  split_ifs
  · cases hfound : select_auxiliary_peak cfg [] 0 _ with
    | none => exact .inl ⟨rfl, rfl, rfl, rfl⟩
    | some e =>
      exact (hpeaks e (List.mem_reverse.mp (select_auxiliary_peak_mem cfg hfound))).dwellWrote
        (by simp [u])
  · exact .inl ⟨rfl, rfl, rfl, rfl⟩

section active_frame

/-! A dwell never reads `d_active`: setting it before the dwell or after gives the
same state. -/

variable (cfg : Config α) (data : DwellData α) (s : PcpsSdAcquisition α) (b : Bool)

theorem record_maximum_set_active (k : Nat) :
    record_maximum cfg data { s with d_active := b } k =
      { record_maximum cfg data s k with d_active := b } := by
  unfold record_maximum; dsimp only; split_ifs <;> rfl

theorem search_set_active (thr : α) :
    search cfg data thr { s with d_active := b } =
      ({ (search cfg data thr s).1 with d_active := b }, (search cfg data thr s).2) := by
  unfold search
  generalize List.range cfg.d_num_doppler_bins = l
  suffices ∀ acc : PcpsSdAcquisition α × List (α × Peak),
      l.foldl (fun acc k => (record_maximum cfg data acc.1 k,
          collect_peaks cfg data thr acc.1.d_sample_counter k acc.2))
        ({ acc.1 with d_active := b }, acc.2) =
      ({ (l.foldl (fun acc k => (record_maximum cfg data acc.1 k,
          collect_peaks cfg data thr acc.1.d_sample_counter k acc.2)) acc).1 with d_active := b },
        (l.foldl (fun acc k => (record_maximum cfg data acc.1 k,
          collect_peaks cfg data thr acc.1.d_sample_counter k acc.2)) acc).2) from this (s, [])
  induction l with
  | nil => intro acc; rfl
  | cons k l ih =>
    intro acc
    rw [List.foldl_cons, List.foldl_cons]
    dsimp only
    rw [record_maximum_set_active]
    exact ih (record_maximum cfg data acc.1 k,
      collect_peaks cfg data thr acc.1.d_sample_counter k acc.2)

theorem apply_auxiliary_peak_set_active (found : Option (α × Peak)) :
    apply_auxiliary_peak { s with d_active := b } found =
      { apply_auxiliary_peak s found with d_active := b } := by
  cases found <;> rfl

theorem dwell_searched_set_active :
    dwell_searched cfg { s with d_active := b } data =
      ({ (dwell_searched cfg s data).1 with d_active := b }, (dwell_searched cfg s data).2) := by
  have h := search_set_active cfg data
    { s with
      d_input_power := data.power
      d_mag := 0
      d_sample_counter := s.d_sample_counter + cfg.d_fft_size
      d_well_count := (s.d_well_count + 1) % 2 ^ 32 } b
    (cfg.d_threshold * data.power * (cfg.fft_normalization_factor * cfg.fft_normalization_factor))
  unfold dwell_searched
  dsimp only at h ⊢
  rw [h, apply_auxiliary_peak_set_active]

theorem dwell_set_active :
    dwell cfg { s with d_active := b } data = { dwell cfg s data with d_active := b } := by
  rw [dwell_eq, dwell_eq, dwell_searched_set_active]
  rfl

end active_frame

end gnss_sdr.acquisition
