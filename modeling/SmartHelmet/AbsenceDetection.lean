import SmartHelmet.BandDecay
import SmartHelmet.VitalsRuns

namespace SmartHelmet.Vitals

open Config MachineArith RingBuffer

def steady (c : UInt16) : Call → Bool
  | .init => false
  | .sens mv _ => decide (mv = c)
  | _ => true

def isSens : Call → Bool
  | .sens _ _ => true
  | _ => false

def sensCount (calls : List Call) : ℕ := calls.countP isSens

/-- After enough samples at `c` both levels are below their floors, and every calm window after
the calm-window minimum reports the wearer as absent. -/
def EventuallyAbsent (b : Build) (r : Run) (c : UInt16) : Prop :=
  ∃ n, ∀ more : List Call, (∀ call ∈ more, steady c call = true) → n ≤ sensCount more →
    let s := (r.steps b more).state
    s.bio.pulseAbs < bioPulseAbsMin ∧ s.bio.respAbs < bioRespAbsMin ∧
      ((motionGate b (processPrologue s)).1 = false → calmWindowsMin ≤ s.calmWindows + 1 →
        (vitalsProcess b s).status.trend = .absent)

def filters (s : State) : HighPass × Bio := (s.sensHp, s.bio)

theorem filters_vitalsProcess (b : Build) (s : State) : filters (vitalsProcess b s) = filters s :=
  congrArg (fun v : Signals => (v.sensHp, v.bio)) (signals_vitalsProcess b s)

theorem filters_push (s : State) (mv : UInt16) (t : UInt32) :
    filters (vitalsPushSensInMvAt defaultBuild s mv t) = drift mv (filters s) ∧
      (vitalsPushSensInMvAt defaultBuild s mv t).sens.count = min bandWin (s.sens.count + 1) := by
  have hcount : (s.sens.push (shHighPass s.sensHp mv.toNat).2).count = min bandWin (s.sens.count + 1) := by
    have := s.sens.count_le
    simp only [Ring.push]
    split_ifs <;> omega
  unfold vitalsPushSensInMvAt noteSensEdge
  simp only [defaultBuild, Bool.false_eq_true, ↓reduceIte]
  split_ifs <;> exact ⟨rfl, hcount⟩

theorem filters_step {c : UInt16} {call : Call} (r : Run) (h : steady c call = true) :
    filters (r.step defaultBuild call).state =
      (drift c)^[sensCount [call]] (filters r.state) ∧
      min bandWin (r.state.sens.count + sensCount [call]) ≤ (r.step defaultBuild call).state.sens.count := by
  have hcap := r.state.sens.count_le
  cases hp : processes r call with
  | true =>
    obtain ⟨n, hs⟩ := step_of_processes defaultBuild hp
    have hzero : sensCount [call] = 0 := by
      cases call <;> first | rfl | exact absurd hp Bool.false_ne_true
    have hsens : (vitalsProcess defaultBuild { r.state with sensSinceProcess := n }).sens = r.state.sens :=
      congrArg Signals.sens (signals_vitalsProcess defaultBuild { r.state with sensSinceProcess := n })
    rw [hs, hzero]
    refine ⟨filters_vitalsProcess defaultBuild { r.state with sensSinceProcess := n }, ?_⟩
    simp only [Run.process, hsens]
    omega
  | false =>
    cases call with
    | init => exact absurd h Bool.false_ne_true
    | sens mv t =>
      obtain rfl : mv = c := of_decide_eq_true h
      obtain ⟨hf, hc⟩ := filters_push r.state mv t
      refine ⟨hf, ?_⟩
      simp only [Run.step, hc]
      rfl
    | onSensSample =>
      rw [step_onSensSample_idle defaultBuild hp]
      exact ⟨rfl, min_le_right _ _⟩
    | process => exact absurd hp.symm Bool.false_ne_true
    | dropped => exact ⟨rfl, min_le_right _ _⟩
    | accel x y z => exact ⟨rfl, min_le_right _ _⟩
    | pirEvent => exact ⟨rfl, min_le_right _ _⟩
    | takeFall => exact ⟨rfl, min_le_right _ _⟩

theorem filters_steps {c : UInt16} (r : Run) {more : List Call} (h : ∀ call ∈ more, steady c call = true) :
    filters (r.steps defaultBuild more).state = (drift c)^[sensCount more] (filters r.state) ∧
      min bandWin (sensCount more) ≤ (r.steps defaultBuild more).state.sens.count := by
  induction more using List.reverseRecOn with
  | nil => exact ⟨rfl, by simp [sensCount]⟩
  | append_singleton more call ih =>
    obtain ⟨hf, hc⟩ := ih (fun k hk => h k (List.mem_append_left _ hk))
    have hcall := h call (by simp)
    have hsteps : r.steps defaultBuild (more ++ [call]) =
        (r.steps defaultBuild more).step defaultBuild call := by
      simp only [Run.steps, List.foldl_append, List.foldl_cons, List.foldl_nil]
    have hsum : sensCount (more ++ [call]) = sensCount [call] + sensCount more := by
      simp only [sensCount, List.countP_append, Nat.add_comm]
    obtain ⟨hf', hc'⟩ := filters_step (r.steps defaultBuild more) hcall
    rw [hsteps, hsum]
    refine ⟨?_, ?_⟩
    · rw [hf', hf, ← Function.iterate_add_apply]
    · omega

theorem trend_processSettled (s : State) (energy sa : ℕ) :
    (processSettled s energy sa).status.trend = (bioTrend s.bio s.status.baselineEnergy sa).1 ∧
      (processSettled s energy sa).status.baselineEnergy = (bioTrend s.bio s.status.baselineEnergy sa).2.2 := by
  have hfuse (t : State) (bpmPeak bpmFft bpmAc peaks fftMag : ℕ) (allow : Bool) (pre : HrReason) :
      (shFuseHr t bpmPeak bpmFft bpmAc peaks fftMag allow pre).status.trend = t.status.trend ∧
        (shFuseHr t bpmPeak bpmFft bpmAc peaks fftMag allow pre).status.baselineEnergy =
          t.status.baselineEnergy := by
    obtain ⟨_, _, _, _, _, _, hr⟩ := shFuseHr_shape t bpmPeak bpmFft bpmAc peaks fftMag allow pre
    rw [hr]
    exact ⟨rfl, rfl⟩
  unfold processSettled estimateHr
  dsimp only
  split
  · exact hfuse _ _ _ _ _ _ _ _
  · exact hfuse { settleTrend s sa with fft := _ } _ _ _ _ _ _ _

def looksAtBands (b : Build) (s : State) : Bool :=
  !(motionGate b (processPrologue s)).1 && decide (calmWindowsMin ≤ incSat 0xff s.calmWindows) &&
    (decide (bandWin / 4 ≤ s.sens.count) || haveAccel s)

theorem opened_keeps (b : Build) (s : State) :
    let t := armHoldoff (openCalm b (gated b s))
    t.bio = s.bio ∧ t.sens = s.sens ∧ t.motion = s.motion ∧ t.calmWindows = incSat 0xff s.calmWindows ∧
      t.status.baselineEnergy = s.status.baselineEnergy := by
  intro t
  have hsig : signals t = signals s := (signals_armHoldoff _).trans (signals_gated b s)
  have hguards := guards_processPrologue s
  refine ⟨congrArg Signals.bio hsig, congrArg Signals.sens hsig, congrArg Signals.motion hsig, ?_, ?_⟩
  · rw [(armHoldoff_keeps _).1]
    exact congrArg (incSat 0xff) (congrArg Guards.calmWindows hguards)
  · have harm (s : State) : (armHoldoff s).status.baselineEnergy = s.status.baselineEnergy := by
      unfold armHoldoff
      split <;> rfl
    exact (harm _).trans (congrArg Guards.baselineEnergy hguards)

theorem warm_iff_not_looking {b : Build} {s : State} (hcalm : (motionGate b (processPrologue s)).1 = false) :
    let t := armHoldoff (openCalm b (gated b s))
    (t.calmWindows < calmWindowsMin ∨ (t.sens.count < bandWin / 4 ∧ ¬ haveAccel t)) ↔
      looksAtBands b s = false := by
  intro t
  obtain ⟨-, hring, hmotion, hcount, -⟩ := opened_keeps b s
  have hhave : haveAccel t = haveAccel s := by rw [haveAccel, hmotion, haveAccel]
  rw [hcount, hring, hhave, looksAtBands, hcalm, Bool.not_false, Bool.true_and, Bool.and_eq_false_iff,
    decide_eq_false_iff_not, Bool.or_eq_false_iff, decide_eq_false_iff_not, not_le, not_le, Bool.not_eq_true]

theorem trend_window {b : Build} {s : State} (hlooks : looksAtBands b s = true) :
    (vitalsProcess b s).status.trend = (bioTrend s.bio s.status.baselineEnergy (sensAbs s)).1 ∧
      (vitalsProcess b s).status.baselineEnergy =
        (bioTrend s.bio s.status.baselineEnergy (sensAbs s)).2.2 := by
  obtain ⟨hcalm, hw⟩ : (motionGate b (processPrologue s)).1 = false ∧
      vitalsProcess b s = processCalm b (gated b s) := by
    rcases vitalsProcess_cases b s with ⟨hactive, _⟩ | hcalm
    · rw [looksAtBands, hactive] at hlooks
      exact absurd hlooks Bool.false_ne_true
    · exact hcalm
  obtain ⟨hbio, hring, -, -, hbase⟩ := opened_keeps b s
  have hsettled : processPulse b (gated b s) =
      processSettled (armHoldoff (openCalm b (gated b s)))
        (armHoldoff (openCalm b (gated b s))).status.bandEnergy (sensAbs s) := by
    have habs : sensAbs (armHoldoff (openCalm b (gated b s))) = sensAbs s := by
      rw [sensAbs, hring, sensAbs]
    have hlooking : ¬ looksAtBands b s = false := by rw [hlooks]; exact Bool.noConfusion
    unfold processPulse
    dsimp only
    rw [if_neg (mt (warm_iff_not_looking hcalm).mp hlooking), habs]
  have htrend := trend_processSettled (armHoldoff (openCalm b (gated b s)))
    (armHoldoff (openCalm b (gated b s))).status.bandEnergy (sensAbs s)
  rw [← hsettled, hbio, hbase] at htrend
  obtain ⟨t, change, dev, pct, he⟩ := processCalm_eq b (gated b s)
  rw [hw, he]
  generalize processPulse b (gated b s) = p at htrend ⊢
  exact htrend

theorem trend_absent (b : Build) (s : State) (hcalm : (motionGate b (processPrologue s)).1 = false)
    (hwin : calmWindowsMin ≤ s.calmWindows + 1) (hsens : bandWin / 4 ≤ s.sens.count)
    (hpulse : s.bio.pulseAbs < bioPulseAbsMin) (hresp : s.bio.respAbs < bioRespAbsMin) :
    (vitalsProcess b s).status.trend = .absent := by
  have hlooks : looksAtBands b s = true := by
    unfold looksAtBands
    rw [hcalm, decide_eq_true hsens, Bool.true_or, Bool.and_true, Bool.not_false, Bool.true_and, decide_eq_true_eq]
    simp only [calmWindowsMin, incSat] at hwin ⊢
    split_ifs <;> omega
  rw [(trend_window hlooks).1, bioTrend, if_pos ⟨hpulse, hresp⟩]

theorem eventuallyAbsent_iff (r : Run) (c : UInt16) :
    EventuallyAbsent defaultBuild r c ↔
      ∃ n, ∀ k, n ≤ k → ((drift c)^[k] (filters r.state)).2.pulseAbs < bioPulseAbsMin ∧
        ((drift c)^[k] (filters r.state)).2.respAbs < bioRespAbsMin := by
  constructor
  · rintro ⟨n, hn⟩
    refine ⟨n, fun k hk => ?_⟩
    have hsteady : ∀ call ∈ List.replicate k (Call.sens c 0), steady c call = true := by
      intro call hcall
      rw [List.eq_of_mem_replicate hcall]
      exact decide_eq_true rfl
    have hcount : sensCount (List.replicate k (Call.sens c 0)) = k := by
      rw [sensCount, List.countP_replicate]
      rfl
    obtain ⟨hpulse, hresp, _⟩ := hn _ hsteady (hcount.symm ▸ hk)
    have hf := (filters_steps r hsteady).1
    rw [hcount] at hf
    rw [← hf]
    exact ⟨hpulse, hresp⟩
  · rintro ⟨n, hn⟩
    refine ⟨max n (bandWin / 4), fun more hsteady hcount => ?_⟩
    obtain ⟨hf, hsens⟩ := filters_steps r hsteady
    obtain ⟨hpulse, hresp⟩ := hn (sensCount more) (le_trans (le_max_left _ _) hcount)
    rw [← hf] at hpulse hresp
    refine ⟨hpulse, hresp, fun hcalm hwin => ?_⟩
    refine trend_absent defaultBuild _ hcalm hwin ?_ hpulse hresp
    simp only [bandWin] at hcount hsens ⊢
    omega

theorem levels_step (b : Build) (r : Run) (call : Call)
    (h : r.state.bio.pulseAbs < 65536 ∧ r.state.bio.respAbs < 65536) :
    (r.step b call).state.bio.pulseAbs < 65536 ∧ (r.step b call).state.bio.respAbs < 65536 := by
  cases hp : processes r call with
  | true =>
    obtain ⟨n, hs⟩ := step_of_processes b hp
    have hbio : (vitalsProcess b { r.state with sensSinceProcess := n }).bio = r.state.bio :=
      congrArg Signals.bio (signals_vitalsProcess b { r.state with sensSinceProcess := n })
    rw [hs]
    simp only [Run.process, hbio]
    exact h
  | false =>
    cases call with
    | init => exact ⟨Nat.zero_lt_succ _, Nat.zero_lt_succ _⟩
    | sens mv t =>
      simp only [Run.step]
      unfold vitalsPushSensInMvAt noteSensEdge
      dsimp only
      split_ifs <;> exact ⟨levelPole_lt _ _ _, levelPole_lt _ _ _⟩
    | onSensSample =>
      rw [step_onSensSample_idle b hp]
      exact h
    | process => exact absurd hp.symm Bool.false_ne_true
    | dropped => exact h
    | accel x y z => exact h
    | pirEvent => exact h
    | takeFall => exact h

theorem levels_run (b : Build) (calls : List Call) :
    (run b calls).state.bio.pulseAbs < 65536 ∧ (run b calls).state.bio.respAbs < 65536 :=
  run_induction (P := fun r => r.state.bio.pulseAbs < 65536 ∧ r.state.bio.respAbs < 65536)
    ⟨by decide, by decide⟩ (levels_step b) calls

theorem resting_of_rested {c : UInt16} {p : HighPass × Bio}
    (hfit : p.2.pulseAbs < 65536 ∧ p.2.respAbs < 65536) {n : ℕ} (hrest : Rested c ((drift c)^[n] p)) :
    Resting ((drift c)^[n] p).2 := by
  cases n with
  | zero => exact ⟨hrest.bands, hfit.1, hfit.2⟩
  | succ n =>
    refine ⟨hrest.bands, ?_, ?_⟩
    · rw [Function.iterate_succ_apply']
      exact levelPole_lt _ _ _
    · rw [Function.iterate_succ_apply']
      exact levelPole_lt _ _ _

/-- The bands come to rest under every constant value, and from any sample at which they are at
rest it is decided whether the wearer will be reported as absent. -/
theorem eventuallyAbsent_iff_fades (calls : List Call) (c : UInt16) :
    (∃ n, Rested c ((drift c)^[n] (filters (run defaultBuild calls).state))) ∧
      ∀ n, Rested c ((drift c)^[n] (filters (run defaultBuild calls).state)) →
        (EventuallyAbsent defaultBuild (run defaultBuild calls) c ↔
          Fades ((drift c)^[n] (filters (run defaultBuild calls).state)).2) := by
  have hfit := levels_run defaultBuild calls
  generalize run defaultBuild calls = r at hfit ⊢
  obtain ⟨rest, hafter⟩ := exists_rested c (filters r.state)
  refine ⟨⟨rest, hafter rest le_rfl⟩, fun n hrest => ?_⟩
  have hresting := resting_of_rested hfit hrest
  have hlater (k : ℕ) : (drift c)^[k + n] (filters r.state) =
      (((drift c)^[n] (filters r.state)).1,
        (fun b => shBioPush b 0)^[k] ((drift c)^[n] (filters r.state)).2) := by
    rw [Function.iterate_add_apply]
    exact iterate_drift_of_residual hrest.residual k
  rw [eventuallyAbsent_iff]
  constructor
  · rintro ⟨m, hm⟩
    by_contra hne
    obtain ⟨j, hj⟩ := hresting.stuck hne
    have hlow := hm (max m j + n) (by omega)
    rw [hlater] at hlow
    rcases hj (max m j) (le_max_right _ _) with h | h
    · exact absurd hlow.1 (not_lt.mpr h)
    · exact absurd hlow.2 (not_lt.mpr h)
  · intro hf
    obtain ⟨m, hm⟩ := hresting.fades hf
    refine ⟨m + n, fun k hk => ?_⟩
    obtain ⟨j, rfl⟩ : ∃ j, k = j + n := ⟨k - n, by omega⟩
    rw [hlater]
    exact hm j (by omega)

theorem not_eventuallyAbsent (r : Run) (c : UInt16) (hlt : r.state.bio.respAbs < 65536)
    (h : bioRespAbsMin ≤ r.state.bio.respAbs) : ¬ EventuallyAbsent defaultBuild r c := by
  rw [eventuallyAbsent_iff]
  rintro ⟨n, hn⟩
  have hiter := Function.Iterate.rec
    (fun p : HighPass × Bio => p.2.respAbs < 65536 ∧ bioRespAbsMin ≤ p.2.respAbs)
    (f := drift c) (a := filters r.state) ⟨hlt, h⟩
    (fun p hp => ⟨levelPole_lt _ _ _, respLevel_stuck hp.1 hp.2⟩) n
  exact absurd (hn n le_rfl).2 (not_lt.mpr hiter.2)

theorem absence_missed :
    ¬ ∀ (calls : List Call) (c : UInt16), EventuallyAbsent defaultBuild (run defaultBuild calls) c := by
  intro h
  exact not_eventuallyAbsent (run defaultBuild [.init, .sens 1000 0, .sens 1000 0]) 1000
    (by decide) (by decide) (h _ _)

end SmartHelmet.Vitals
