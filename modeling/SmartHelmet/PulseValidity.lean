import SmartHelmet.VitalsRuns

namespace SmartHelmet.Vitals

open Config MachineArith

def calmRun : List Mark → ℕ
  | .window _ st :: ms => if st.motion = .calm then calmRun ms + 1 else 0
  | _ => 0

/-- What `hr_valid = TRUE` promises about the window just published. -/
structure SoundPulse (s : State) (marks : List Mark) : Prop where
  reason : s.status.hrReason = .ok
  motion : s.status.motion = .calm
  calm : calmWindowsMin ≤ calmRun marks
  holdoff : s.status.hrWinLeft = 0
  timebase : s.ts.ok = true
  energy : hrMinEnergy ≤ s.status.bandEnergy ∧ s.status.bandEnergy ≤ hrMaxEnergy
  sensAbs : hrMinSensAbs ≤ shMeanAbsI16 s.sens.live ∧ shMeanAbsI16 s.sens.live ≤ hrMaxSensAbs
  peak : 40 ≤ s.status.hrBpmPeak ∧ s.status.hrBpmPeak ≤ 180
  fft : 40 ≤ s.status.hrBpmFft ∧ s.status.hrBpmFft ≤ 180
  agree : ((s.status.hrBpmPeak : ℤ) - (s.status.hrBpmFft : ℤ)).natAbs * 100 ≤
    20 * ((s.status.hrBpmPeak + s.status.hrBpmFft) / 2)
  bpm : s.status.hrBpm = (s.status.hrBpmPeak + s.status.hrBpmFft) / 2
  bpm_range : 40 ≤ s.status.hrBpm ∧ s.status.hrBpm ≤ 180

theorem hrSignal_ok {s : State} {energy sa : ℕ} (h : hrSignal s energy sa = .ok) :
    s.ts.ok = true ∧ (hrMinEnergy ≤ energy ∧ energy ≤ hrMaxEnergy) ∧
      hrMinSensAbs ≤ sa ∧ sa ≤ hrMaxSensAbs := by
  unfold hrSignal at h
  dsimp only at h
  split_ifs at h with ht
  unfold shHrSignalReason at h
  split_ifs at h with h1 h2 h3 h4
  refine ⟨?_, ⟨by omega, by omega⟩, by omega, by omega⟩
  by_contra hts
  exact ht ⟨by simp only [shHrSignalReason, h1, h2, h3, h4, ↓reduceIte], hts⟩

theorem estimateHr_eq (s : State) (allow : Bool) (pre : HrReason) :
    ∃ fft peak bpmFft peaks mag pre', (peak = 0 ∨ 40 ≤ peak ∧ peak ≤ 180) ∧
      (bpmFft = 0 ∨ 40 ≤ bpmFft ∧ bpmFft ≤ 180) ∧ (pre = .holdoff → pre' = .holdoff) ∧
      estimateHr s allow pre = shFuseHr { s with fft := fft } peak bpmFft 0 peaks mag allow pre' := by
  refine ⟨_, _, _, _, _, _, shPeakBpm_range s.fsQ8 (shCopySensOrdered s s.sens.count),
    shFftBpm_range s.fft s.fsQ8 (shCopySensOrdered s s.sens.count), ?_, rfl⟩
  intro hp
  rw [hp]
  simp

theorem estimateHr_valid {s : State} {allow : Bool} {pre : HrReason}
    (h : (estimateHr s allow pre).status.hrValid = true) :
    let st := (estimateHr s allow pre).status
    allow = true ∧ st.hrReason = .ok ∧ (40 ≤ st.hrBpmPeak ∧ st.hrBpmPeak ≤ 180) ∧
      (40 ≤ st.hrBpmFft ∧ st.hrBpmFft ≤ 180) ∧
      ((st.hrBpmPeak : ℤ) - (st.hrBpmFft : ℤ)).natAbs * 100 ≤ 20 * ((st.hrBpmPeak + st.hrBpmFft) / 2) ∧
      st.hrBpm = (st.hrBpmPeak + st.hrBpmFft) / 2 := by
  intro st
  obtain ⟨fft, peak, bpmFft, peaks, mag, pre', hpr, hfr, -, he⟩ := estimateHr_eq s allow pre
  simp only [st, he] at h ⊢
  obtain ⟨ha, hr, hp, hf, hd, hb, hsp, hsf⟩ := shFuseHr_valid h
  rw [hsp, hsf, hb]
  refine ⟨ha, hr, hpr.resolve_left hp, hfr.resolve_left hf, hd, u16_of_lt ?_⟩
  omega

theorem estimateHr_invalid {s : State} {allow : Bool} {pre : HrReason}
    (hpre : allow = true ∨ pre = .holdoff)
    (h : (estimateHr s allow pre).status.hrValid = false) :
    (estimateHr s allow pre).status.hrReason ≠ .ok := by
  obtain ⟨fft, peak, bpmFft, peaks, mag, pre', -, -, hpre', he⟩ := estimateHr_eq s allow pre
  rw [he] at h ⊢
  apply shFuseHr_invalid _ h
  rcases hpre with ha | hp
  · exact Or.inl ha
  · right
    rw [hpre' hp]
    decide

theorem processSettled_valid {s : State} {energy sa : ℕ}
    (h : (processSettled s energy sa).status.hrValid = true) :
    let t := processSettled s energy sa
    s.hrWinLeft = 0 ∧ t.hrWinLeft = 0 ∧ hrSignal s energy sa = .ok ∧ t.status.hrReason = .ok ∧
      (40 ≤ t.status.hrBpmPeak ∧ t.status.hrBpmPeak ≤ 180) ∧
      (40 ≤ t.status.hrBpmFft ∧ t.status.hrBpmFft ≤ 180) ∧
      ((t.status.hrBpmPeak : ℤ) - (t.status.hrBpmFft : ℤ)).natAbs * 100 ≤
        20 * ((t.status.hrBpmPeak + t.status.hrBpmFft) / 2) ∧
      t.status.hrBpm = (t.status.hrBpmPeak + t.status.hrBpmFft) / 2 := by
  intro t
  have hleft : t.hrWinLeft = s.hrWinLeft - 1 :=
    congrArg Guards.hrWinLeft (guards_processSettled s energy sa).1
  by_cases hsig : hrSignal s energy sa = .ok
  · have ht : t = estimateHr (settleTrend s sa) (decide (s.hrWinLeft = 0))
        (if s.hrWinLeft > 0 then .holdoff else .ok) := if_neg (not_not.mpr hsig)
    change t.status.hrValid = true at h
    rw [ht] at h
    obtain ⟨ha, hr, hp, hf, hd, hb⟩ := estimateHr_valid h
    have hz : s.hrWinLeft = 0 := of_decide_eq_true ha
    rw [ht] at hleft ⊢
    exact ⟨hz, by omega, hsig, hr, hp, hf, hd, hb⟩
  · have ht : t = shFuseHr (settleTrend s sa) 0 0 0 0 0 false (hrSignal s energy sa) := if_pos hsig
    change t.status.hrValid = true at h
    rw [ht] at h
    exact absurd (shFuseHr_valid h).1 (by decide)

theorem processPulse_invalid {b : Build} {s : State}
    (h : (processPulse b s).status.hrValid = false) : (processPulse b s).status.hrReason ≠ .ok := by
  unfold processPulse at h ⊢
  dsimp only at h ⊢
  split at h
  case isTrue hw =>
    rw [if_pos hw]
    exact shFuseHr_invalid (Or.inr (by decide)) h
  case isFalse hw =>
    rw [if_neg hw]
    unfold processSettled at h ⊢
    dsimp only at h ⊢
    split at h
    case isTrue hsig =>
      rw [if_pos hsig]
      exact shFuseHr_invalid (Or.inr hsig) h
    case isFalse hsig =>
      rw [if_neg hsig]
      apply estimateHr_invalid _ h
      by_cases hz : (armHoldoff (openCalm b s)).hrWinLeft = 0
      · exact Or.inl (decide_eq_true hz)
      · exact Or.inr (if_pos (Nat.pos_of_ne_zero hz))

theorem calmWindows_of_calm {b : Build} {s : State} (hgate : (motionGate b (processPrologue s)).1 = false) :
    (vitalsProcess b s).status.motion = .calm ∧
      (vitalsProcess b s).calmWindows = incSat 0xff s.calmWindows := by
  rcases vitalsProcess_cases b s with ⟨hactive, _⟩ | ⟨_, h⟩
  · exact absurd (hgate.symm.trans hactive) Bool.false_ne_true
  · obtain ⟨hc, hm, _, _⟩ := processPulse_guards b (gated b s)
    obtain ⟨t, change, dev, pct, he⟩ := processCalm_eq b (gated b s)
    have hg : (gated b s).calmWindows = s.calmWindows :=
      congrArg Guards.calmWindows (guards_processPrologue s)
    rw [hg] at hc
    rw [h, he]
    generalize processPulse b (gated b s) = p at hc hm ⊢
    exact ⟨hm, hc⟩

theorem calmWindows_vitalsProcess (b : Build) (s : State) :
    ((vitalsProcess b s).status.motion = .active ∧ (vitalsProcess b s).calmWindows = 0) ∨
    ((vitalsProcess b s).status.motion = .calm ∧
      (vitalsProcess b s).calmWindows = incSat 0xff s.calmWindows) := by
  rcases vitalsProcess_cases b s with ⟨_, h⟩ | ⟨hgate, _⟩
  · rw [h]
    exact Or.inl ⟨rfl, rfl⟩
  · exact Or.inr (calmWindows_of_calm hgate)

theorem calmWindows_step (b : Build) (r : Run) (c : Call)
    (h : r.state.calmWindows = min 255 (calmRun r.marks)) :
    (r.step b c).state.calmWindows = min 255 (calmRun (r.step b c).marks) := by
  have hwin (s : State) (hs : s.calmWindows = r.state.calmWindows) :
      (r.process b s).state.calmWindows = min 255 (calmRun (r.process b s).marks) := by
    simp only [Run.process, calmRun]
    rcases calmWindows_vitalsProcess b s with ⟨hm, hc⟩ | ⟨hm, hc⟩
    · rw [hc, hm]
      rfl
    · rw [hc, hm, if_pos rfl, hs, h]
      unfold incSat
      split_ifs <;> omega
  cases c with
  | init => rfl
  | sens mv t =>
    have hk : (vitalsPushSensInMvAt b r.state mv t).calmWindows = r.state.calmWindows := by
      unfold vitalsPushSensInMvAt noteSensEdge
      dsimp only
      split_ifs <;> rfl
    exact hk.trans h
  | dropped => exact h
  | accel x y z => exact h
  | pirEvent => exact h
  | onSensSample =>
    unfold Run.step
    dsimp only
    split_ifs
    · exact hwin _ rfl
    · exact h
  | process => exact hwin _ rfl
  | takeFall => exact h

theorem calmWindows_run (b : Build) (calls : List Call) :
    (run b calls).state.calmWindows = min 255 (calmRun (run b calls).marks) :=
  run_induction (P := fun r => r.state.calmWindows = min 255 (calmRun r.marks)) rfl
    (calmWindows_step b) calls

theorem processPulse_valid {b : Build} {s : State} (h : (processPulse b s).status.hrValid = true) :
    let t := processPulse b s
    calmWindowsMin ≤ t.calmWindows ∧ t.hrWinLeft = 0 ∧ t.ts.ok = true ∧
      (hrMinEnergy ≤ t.status.bandEnergy ∧ t.status.bandEnergy ≤ hrMaxEnergy) ∧
      (hrMinSensAbs ≤ sensAbs t ∧ sensAbs t ≤ hrMaxSensAbs) ∧ t.status.hrReason = .ok ∧
      (40 ≤ t.status.hrBpmPeak ∧ t.status.hrBpmPeak ≤ 180) ∧
      (40 ≤ t.status.hrBpmFft ∧ t.status.hrBpmFft ≤ 180) ∧
      ((t.status.hrBpmPeak : ℤ) - (t.status.hrBpmFft : ℤ)).natAbs * 100 ≤
        20 * ((t.status.hrBpmPeak + t.status.hrBpmFft) / 2) ∧
      t.status.hrBpm = (t.status.hrBpmPeak + t.status.hrBpmFft) / 2 := by
  intro t
  obtain ⟨hcalm, _, henergy, _⟩ := processPulse_guards b s
  obtain ⟨hc, _, hst⟩ := armHoldoff_keeps (openCalm b s)
  have hsens : sensAbs t = sensAbs (armHoldoff (openCalm b s)) := by
    have hsig : signals t = signals (armHoldoff (openCalm b s)) := by
      rw [signals_armHoldoff]
      exact signals_processPulse b s
    exact congrArg (fun v : Signals => shMeanAbsI16 v.sens.live) hsig
  by_cases hw : (armHoldoff (openCalm b s)).calmWindows < calmWindowsMin ∨
      ((armHoldoff (openCalm b s)).sens.count < bandWin / 4 ∧ ¬ haveAccel (armHoldoff (openCalm b s)))
  · have ht : processPulse b s = processWarm (armHoldoff (openCalm b s)) := if_pos hw
    rw [ht] at h
    exact absurd (shFuseHr_valid h).1 (by decide)
  · have ht : t = processSettled (armHoldoff (openCalm b s))
        (armHoldoff (openCalm b s)).status.bandEnergy (sensAbs (armHoldoff (openCalm b s))) := if_neg hw
    change t.status.hrValid = true at h
    have hv := h
    rw [ht] at hv
    obtain ⟨_, hleft, hsig, hr, hp, hf, hd, hb⟩ := processSettled_valid hv
    obtain ⟨hts, he, hsa⟩ := hrSignal_ok hsig
    have htime : t.ts.ok = true := by
      rw [ht, (guards_processSettled _ _ _).2]
      exact hts
    have hband : t.status.bandEnergy = (armHoldoff (openCalm b s)).status.bandEnergy := by
      rw [hst]
      exact henergy
    rw [← ht] at hleft hr hp hf hd hb
    rw [hsens, hband]
    refine ⟨?_, hleft, htime, he, hsa, hr, hp, hf, hd, hb⟩
    have hmin := (not_or.mp hw).1
    rw [hc] at hmin
    change calmWindowsMin ≤ (processPulse b s).calmWindows
    rw [hcalm]
    exact not_lt.mp hmin

theorem processCalm_sound {b : Build} {s : State} {marks : List Mark}
    (hrun : (processCalm b s).calmWindows = min 255 (calmRun marks))
    (h : (processCalm b s).status.hrValid = true) : SoundPulse (processCalm b s) marks := by
  obtain ⟨t, change, dev, pct, he⟩ := processCalm_eq b s
  obtain ⟨_, hmotion, _, _⟩ := processPulse_guards b s
  have hv : (processPulse b s).status.hrValid = true := by
    rw [he] at h
    generalize processPulse b s = p at h ⊢
    exact h
  obtain ⟨hcalm, hleft, hts, hen, hsa, hr, hp, hf, hd, hb⟩ := processPulse_valid hv
  rw [he] at hrun ⊢
  generalize processPulse b s = p at *
  have hcw : p.calmWindows = min 255 (calmRun marks) := hrun
  have hbpm : 40 ≤ p.status.hrBpm ∧ p.status.hrBpm ≤ 180 := by omega
  refine ⟨hr, hmotion, ?_, hleft, hts, hen, hsa, hp, hf, hd, hb, hbpm⟩
  simp only [calmWindowsMin] at hcalm ⊢
  omega

theorem vitalsProcess_sound {b : Build} {s : State} {marks : List Mark}
    (hrun : (vitalsProcess b s).calmWindows = min 255 (calmRun marks)) :
    ((vitalsProcess b s).status.hrValid = true → SoundPulse (vitalsProcess b s) marks) ∧
    ((vitalsProcess b s).status.hrValid = false → (vitalsProcess b s).status.hrReason ≠ .ok) := by
  rcases vitalsProcess_cases b s with ⟨_, h⟩ | ⟨_, h⟩
  · rw [h]
    generalize gated b s = g
    refine ⟨fun hv => ?_, fun _ hr => ?_⟩
    · exact absurd (show false = true from hv) (by decide)
    · exact absurd (show HrReason.motion = .ok from hr) (by decide)
  · rw [h] at hrun ⊢
    refine ⟨processCalm_sound hrun, ?_⟩
    obtain ⟨t, change, dev, pct, he⟩ := processCalm_eq b (gated b s)
    have hinv := @processPulse_invalid b (gated b s)
    rw [he]
    generalize processPulse b (gated b s) = p at hinv ⊢
    exact hinv

theorem hr_valid_sound (calls : List Call) (c : Call) (active : Bool) (st : Status) :
    let r := run defaultBuild calls
    let r' := run defaultBuild (calls ++ [c])
    r'.marks = .window active st :: r.marks →
      (r'.state.status.hrValid = true → SoundPulse r'.state r'.marks) ∧
      (r'.state.status.hrValid = false → r'.state.status.hrReason ≠ .ok) := by
  intro r r' hw
  have hstep : r' = r.step defaultBuild c := run_concat defaultBuild calls c
  have hinv : r'.state.calmWindows = min 255 (calmRun r'.marks) :=
    calmWindows_run defaultBuild (calls ++ [c])
  rw [hstep] at hw
  obtain ⟨n, hs⟩ := step_of_processes defaultBuild (processes_of_window hw)
  rw [hstep, hs] at hinv
  rw [hstep, hs]
  exact vitalsProcess_sound hinv

def pulseCalls : List Call :=
  let wave : List UInt16 := [50, 64, 77, 87, 93, 95, 93, 87, 77, 64, 50, 36, 23, 13, 7, 5, 7, 13, 23, 36]
  [.init, .accel 0 0 1000, .accel 0 0 1000] ++ List.replicate 26 (.sens 0 0) ++
    List.replicate 7 .process ++ (wave ++ wave).map (fun v => .sens v 0)

theorem pulseCalls_valid : (run defaultBuild (pulseCalls ++ [.process])).state.status.hrValid = true := by
  decide +kernel

theorem hr_valid_sound_pulse :
    (run defaultBuild (pulseCalls ++ [.process])).state.status.hrValid = true ∧
    SoundPulse (run defaultBuild (pulseCalls ++ [.process])).state
      (run defaultBuild (pulseCalls ++ [.process])).marks := by
  have hmarks : (run defaultBuild (pulseCalls ++ [.process])).marks =
      .window (motionGate defaultBuild (processPrologue (run defaultBuild pulseCalls).state)).1
          (run defaultBuild (pulseCalls ++ [.process])).state.status ::
        (run defaultBuild pulseCalls).marks := by
    rw [run_concat]
    generalize run defaultBuild pulseCalls = r
    rfl
  exact ⟨pulseCalls_valid, (hr_valid_sound pulseCalls .process _ _ hmarks).1 pulseCalls_valid⟩

end SmartHelmet.Vitals
