import SmartHelmet.WindowProcess

namespace SmartHelmet.Vitals

open Config MachineArith RingBuffer

structure Signals where
  motion : Ring AccelSlot motionWin
  band : Ring ℤ bandWin
  hp : HighPass
  sens : Ring ℤ bandWin
  sensHp : HighPass
  bio : Bio
  resp : Resp
  adapt : Adapt
  sensEdgeArmed : Bool
  sensSinceProcess : ℕ
  sensMv : ℕ
  tsPrevUs : ℕ
  tsPrevValid : Bool

def signals (s : State) : Signals where
  motion := s.motion
  band := s.band
  hp := s.hp
  sens := s.sens
  sensHp := s.sensHp
  bio := s.bio
  resp := s.resp
  adapt := s.adapt
  sensEdgeArmed := s.sensEdgeArmed
  sensSinceProcess := s.sensSinceProcess
  sensMv := s.status.sensMv
  tsPrevUs := s.ts.prevUs
  tsPrevValid := s.ts.prevValid

theorem signals_shUpdateTimebase (s : State) : signals (shUpdateTimebase s) = signals s := by
  unfold shUpdateTimebase
  dsimp only
  split_ifs <;> rfl

theorem signals_noteMotionWindow (s : State) : signals (noteMotionWindow s) = signals s := by
  unfold noteMotionWindow
  split_ifs <;> rfl

theorem signals_processPrologue (s : State) : signals (processPrologue s) = signals s := by
  calc signals (processPrologue s)
      = signals (noteMotionWindow (shUpdateResp (shUpdateTimebase s))) := rfl
    _ = signals (shUpdateResp (shUpdateTimebase s)) := signals_noteMotionWindow _
    _ = signals (shUpdateTimebase s) := rfl
    _ = signals s := signals_shUpdateTimebase s

theorem signals_shFuseHr (s : State) (bpmPeak bpmFft bpmAc peaks fftMag : ℕ) (allow : Bool)
    (pre : HrReason) :
    signals (shFuseHr s bpmPeak bpmFft bpmAc peaks fftMag allow pre) = signals s := by
  obtain ⟨_, _, _, _, _, _, hr⟩ := shFuseHr_shape s bpmPeak bpmFft bpmAc peaks fftMag allow pre
  rw [hr]
  rfl

theorem signals_processSettled (s : State) (energy sensAbs : ℕ) :
    signals (processSettled s energy sensAbs) = signals s := by
  unfold processSettled
  dsimp only
  split
  · exact signals_shFuseHr (settleTrend s sensAbs) _ _ _ _ _ _ _
  · exact signals_shFuseHr { settleTrend s sensAbs with fft := _ } _ _ _ _ _ _ _

theorem signals_armHoldoff (s : State) : signals (armHoldoff s) = signals s := by
  unfold armHoldoff
  split_ifs <;> rfl

theorem signals_processPulse (b : Build) (s : State) : signals (processPulse b s) = signals s := by
  have harm : signals (armHoldoff (openCalm b s)) = signals s := signals_armHoldoff _
  unfold processPulse
  dsimp only
  split
  · exact (signals_shFuseHr _ _ _ _ _ _ _ _).trans harm
  · exact (signals_processSettled _ _ _).trans harm

theorem shUpdateHrChange_eq (b : Build) (s : State) : ∃ t change dev pct,
    shUpdateHrChange b s =
      publishTrack { s with status := { s.status with adaptRemovedPct := pct } } t change dev := by
  unfold shUpdateHrChange
  dsimp only
  cases b.hrMotionAdapt
  · simp only [Bool.false_eq_true, ↓reduceIte]
    split_ifs
    · exact ⟨_, _, _, s.status.adaptRemovedPct, rfl⟩
    · exact ⟨_, _, _, s.status.adaptRemovedPct, rfl⟩
  · simp only [↓reduceIte]
    split_ifs
    · exact ⟨_, _, _, _, rfl⟩
    · exact ⟨_, _, _, _, rfl⟩

theorem signals_shUpdateHrChange (b : Build) (s : State) :
    signals (shUpdateHrChange b s) = signals s := by
  obtain ⟨t, change, dev, pct, h⟩ := shUpdateHrChange_eq b s
  rw [h]
  rfl

def closeCalm (p : State) (t : HrTrack) (change : TrendFlag) (dev : ℤ) (pct : ℕ) : State :=
  let c := publishTrack { p with status := { p.status with adaptRemovedPct := pct } } t change dev
  { c with
    prevSensMv := p.status.sensMv
    prevSensMvValid := true
    pirEvents := 0
    status := { c.status with hrWinLeft := p.hrWinLeft } }

theorem processCalm_eq (b : Build) (s : State) : ∃ t change dev pct,
    processCalm b s = closeCalm (processPulse b s) t change dev pct := by
  obtain ⟨t, change, dev, pct, h⟩ := shUpdateHrChange_eq b (processPulse b s)
  refine ⟨t, change, dev, pct, ?_⟩
  unfold processCalm
  dsimp only
  rw [h]
  rfl

theorem signals_processCalm (b : Build) (s : State) : signals (processCalm b s) = signals s := by
  calc signals (processCalm b s) = signals (shUpdateHrChange b (processPulse b s)) := rfl
    _ = signals (processPulse b s) := signals_shUpdateHrChange b _
    _ = signals s := signals_processPulse b s

structure Guards where
  calmWindows : ℕ
  hrWinLeft : ℕ
  pirEvents : ℕ
  prevSensMv : ℕ
  prevSensMvValid : Bool
  hrTrack : HrTrack
  motion : MotionGate
  bandEnergy : ℕ
  baselineEnergy : ℕ
  hrChange : TrendFlag

def guards (s : State) : Guards where
  calmWindows := s.calmWindows
  hrWinLeft := s.hrWinLeft
  pirEvents := s.pirEvents
  prevSensMv := s.prevSensMv
  prevSensMvValid := s.prevSensMvValid
  hrTrack := s.hrTrack
  motion := s.status.motion
  bandEnergy := s.status.bandEnergy
  baselineEnergy := s.status.baselineEnergy
  hrChange := s.status.hrChange

theorem guards_processPrologue (s : State) : guards (processPrologue s) = guards s := by
  have htime : guards (shUpdateTimebase s) = guards s := by
    unfold shUpdateTimebase
    dsimp only
    split_ifs <;> rfl
  have hmotion (t : State) : guards (noteMotionWindow t) = guards t := by
    unfold noteMotionWindow
    split_ifs <;> rfl
  calc guards (processPrologue s)
      = guards (noteMotionWindow (shUpdateResp (shUpdateTimebase s))) := rfl
    _ = guards (shUpdateResp (shUpdateTimebase s)) := hmotion _
    _ = guards (shUpdateTimebase s) := rfl
    _ = guards s := htime

theorem guards_shFuseHr (s : State) (bpmPeak bpmFft bpmAc peaks fftMag : ℕ) (allow : Bool)
    (pre : HrReason) :
    guards (shFuseHr s bpmPeak bpmFft bpmAc peaks fftMag allow pre) = guards s := by
  obtain ⟨_, _, _, _, _, _, hr⟩ := shFuseHr_shape s bpmPeak bpmFft bpmAc peaks fftMag allow pre
  rw [hr]
  rfl

theorem ts_shFuseHr (s : State) (bpmPeak bpmFft bpmAc peaks fftMag : ℕ) (allow : Bool)
    (pre : HrReason) : (shFuseHr s bpmPeak bpmFft bpmAc peaks fftMag allow pre).ts = s.ts := by
  obtain ⟨_, _, _, _, _, _, hr⟩ := shFuseHr_shape s bpmPeak bpmFft bpmAc peaks fftMag allow pre
  rw [hr]
  rfl

theorem guards_processSettled (s : State) (energy sensAbs : ℕ) :
    guards (processSettled s energy sensAbs) = guards (settleTrend s sensAbs) ∧
      (processSettled s energy sensAbs).ts = s.ts := by
  unfold processSettled
  dsimp only
  split
  · exact ⟨guards_shFuseHr _ _ _ _ _ _ _ _, ts_shFuseHr (settleTrend s sensAbs) _ _ _ _ _ _ _⟩
  · exact ⟨guards_shFuseHr { settleTrend s sensAbs with fft := _ } _ _ _ _ _ _ _,
      ts_shFuseHr { settleTrend s sensAbs with fft := _ } _ _ _ _ _ _ _⟩

theorem armHoldoff_keeps (s : State) : (armHoldoff s).calmWindows = s.calmWindows ∧
    (armHoldoff s).hrTrack = s.hrTrack ∧ (armHoldoff s).status = s.status := by
  unfold armHoldoff
  split_ifs <;> exact ⟨rfl, rfl, rfl⟩

theorem processPulse_guards (b : Build) (s : State) :
    (processPulse b s).calmWindows = incSat 0xff s.calmWindows ∧
      (processPulse b s).status.motion = .calm ∧
      (processPulse b s).status.bandEnergy = bandEnergy b s ∧
      (processPulse b s).hrTrack = s.hrTrack ∧
      (processPulse b s).status.hrChange = s.status.hrChange := by
  obtain ⟨hc, ht, hst⟩ := armHoldoff_keeps (openCalm b s)
  have hview (p : State) (hcalm : (guards p).calmWindows = (armHoldoff (openCalm b s)).calmWindows)
      (htrack : (guards p).hrTrack = (armHoldoff (openCalm b s)).hrTrack)
      (hmotion : (guards p).motion = (armHoldoff (openCalm b s)).status.motion)
      (henergy : (guards p).bandEnergy = (armHoldoff (openCalm b s)).status.bandEnergy)
      (hchange : (guards p).hrChange = (armHoldoff (openCalm b s)).status.hrChange) :
      p.calmWindows = incSat 0xff s.calmWindows ∧ p.status.motion = .calm ∧
        p.status.bandEnergy = bandEnergy b s ∧ p.hrTrack = s.hrTrack ∧
        p.status.hrChange = s.status.hrChange := by
    rw [hst] at hmotion henergy hchange
    exact ⟨hcalm.trans hc, hmotion, henergy, htrack.trans ht, hchange⟩
  unfold processPulse
  dsimp only
  split
  case isTrue =>
    have hg := guards_shFuseHr (shHrDisturb { armHoldoff (openCalm b s) with
      status := { (armHoldoff (openCalm b s)).status with trend := .unknown, valid := false } }
      hrDisturbHoldoffWin) 0 0 0 0 0 false .warm
    exact hview _ (congrArg Guards.calmWindows hg) (congrArg Guards.hrTrack hg)
      (congrArg Guards.motion hg) (congrArg Guards.bandEnergy hg) (congrArg Guards.hrChange hg)
  case isFalse =>
    have hg := (guards_processSettled (armHoldoff (openCalm b s))
      (armHoldoff (openCalm b s)).status.bandEnergy (sensAbs (armHoldoff (openCalm b s)))).1
    exact hview _ (congrArg Guards.calmWindows hg) (congrArg Guards.hrTrack hg)
      (congrArg Guards.motion hg) (congrArg Guards.bandEnergy hg) (congrArg Guards.hrChange hg)

structure Aside where
  fallPending : Bool
  stillRun : ℕ
  ts : TimeBase
  fsQ8 : ℕ

def aside (s : State) : Aside where
  fallPending := s.fallPending
  stillRun := s.stillRun
  ts := s.ts
  fsQ8 := s.fsQ8

theorem aside_processPulse (b : Build) (s : State) : aside (processPulse b s) = aside s := by
  have hfuse (t : State) (bpmPeak bpmFft bpmAc peaks fftMag : ℕ) (allow : Bool) (pre : HrReason) :
      aside (shFuseHr t bpmPeak bpmFft bpmAc peaks fftMag allow pre) = aside t := by
    obtain ⟨_, _, _, _, _, _, hr⟩ := shFuseHr_shape t bpmPeak bpmFft bpmAc peaks fftMag allow pre
    rw [hr]
    rfl
  have harm : aside (armHoldoff (openCalm b s)) = aside s := by
    unfold armHoldoff
    split_ifs <;> rfl
  unfold processPulse processWarm processSettled estimateHr
  dsimp only
  split
  · rw [hfuse]
    exact harm
  · split
    · rw [hfuse]
      exact harm
    · rw [hfuse]
      exact harm

def gated (b : Build) (s : State) : State :=
  { processPrologue s with stillRun := (motionGate b (processPrologue s)).2 }

theorem vitalsProcess_cases (b : Build) (s : State) :
    ((motionGate b (processPrologue s)).1 = true ∧ vitalsProcess b s = processActive (gated b s)) ∨
    ((motionGate b (processPrologue s)).1 = false ∧ vitalsProcess b s = processCalm b (gated b s)) := by
  cases hg : (motionGate b (processPrologue s)).1 with
  | true => exact Or.inl ⟨rfl, by simp only [vitalsProcess, hg]; rfl⟩
  | false => exact Or.inr ⟨rfl, by simp only [vitalsProcess, hg]; rfl⟩

theorem signals_gated (b : Build) (s : State) : signals (gated b s) = signals s :=
  signals_processPrologue s

theorem aside_vitalsProcess (b : Build) (s : State) : aside (vitalsProcess b s) = aside (gated b s) := by
  rcases vitalsProcess_cases b s with ⟨_, h⟩ | ⟨_, h⟩
  · rw [h]
    rfl
  · obtain ⟨t, change, dev, pct, he⟩ := processCalm_eq b (gated b s)
    have hclose (p : State) : aside (closeCalm p t change dev pct) = aside p := rfl
    rw [h, he, hclose, aside_processPulse]

theorem signals_vitalsProcess (b : Build) (s : State) : signals (vitalsProcess b s) = signals s := by
  rcases vitalsProcess_cases b s with ⟨_, h⟩ | ⟨_, h⟩
  · rw [h]
    exact signals_gated b s
  · rw [h, signals_processCalm]
    exact signals_gated b s

end SmartHelmet.Vitals
