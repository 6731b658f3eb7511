import SmartHelmet.HrChange
import SmartHelmet.PulseEstimators

/-!
`SmartHelmet_VitalsProcess`, cut at its blank lines: time base and respiration, motion
statistics and fall window, motion gate, then the active or the calm branch.
-/

namespace SmartHelmet.Vitals

open Config MachineArith RingBuffer

def shUpdateTimebase (s : State) : State :=
  let nominal := 1000000 / fsHz
  let cleared := { s.ts with sumUs := 0, jitSumUs := 0, n := 0 }
  if s.ts.n ≥ motionWin / 2 then
    let mean := s.ts.sumUs / s.ts.n
    let jit := s.ts.jitSumUs / s.ts.n
    if mean ≠ 0 then
      let jitterPct := min (u32 (jit * 100) / mean) 255
      let errPct := if mean > nominal then u32 ((mean - nominal) * 100) / nominal
        else u32 ((nominal - mean) * 100) / nominal
      { s with
        fsQ8 := min (1000000 * 256 / mean) 0xffff
        ts := { cleared with ok := decide (errPct ≤ vitalsFsTolPct ∧ jitterPct ≤ vitalsJitterPct) }
        status := { s.status with
          fsX100 := min (100 * 1000000 / mean) 0xffff
          fsJitterPct := jitterPct } }
    else { s with ts := cleared }
  else
    { s with
      fsQ8 := fsHz * 256
      ts := { cleared with ok := true }
      status := { s.status with fsX100 := 0, fsJitterPct := 0 } }

def haveAccel (s : State) : Bool := decide (2 ≤ s.motion.count)

def adaptRunning (b : Build) (s : State) : Bool :=
  b.hrMotionAdapt && s.adapt.haveAccel && decide (hrAdaptTaps ≤ s.adapt.refN)

def motionThresh (b : Build) (s : State) : ℕ :=
  if adaptRunning b s then motionRmsMgAdapt else motionRmsMg

def magnitudes (s : State) : List ℕ := s.motion.live.map AccelSlot.mag

def magMin (mags : List ℕ) : ℕ := mags.tail.foldl (fun m v => if v < m then v else m) (mags.headD 0)
def magPeak (mags : List ℕ) : ℕ := mags.tail.foldl (fun m v => if v > m then v else m) (mags.headD 0)

def shNoteFallWindow (rms mn pk : ℕ) : Bool :=
  let swing := if pk > mn then u16 (pk - mn) else 0
  decide (rms ≥ fallRmsMg ∨ pk ≥ fallImpactMg ∨ (mn > 0 ∧ mn ≤ fallFreefallMg) ∨ swing ≥ fallSwingMg)

def axisStep (a b : ℤ) : ℕ := u16OfInt (if a > b then a - b else b - a)

def latestStep (s : State) : ℕ :=
  let last := s.motion.back 1
  let prev := s.motion.back 2
  max (max (axisStep last.x prev.x) (axisStep last.y prev.y)) (axisStep last.z prev.z)

def fallWindow (mags : List ℕ) : Bool := shNoteFallWindow (shRmsDevU16 mags) (magMin mags) (magPeak mags)

def gateRms (s : State) : ℕ := if haveAccel s then latestStep s else 0

def noteMotionWindow (s : State) : State :=
  if haveAccel s then
    { s with
      fallPending := s.fallPending || fallWindow (magnitudes s)
      status := { s.status with
        motionRmsMg := latestStep s
        motionMinMg := magMin (magnitudes s)
        motionPeakMg := magPeak (magnitudes s) } }
  else
    { s with status := { s.status with motionRmsMg := 0, motionMinMg := 0, motionPeakMg := 0 } }

def noteWindowCounts (s : State) : State :=
  { s with
    sensDropped := 0
    status := { s.status with
      fallPending := s.fallPending
      pirEventsWin := s.pirEvents
      sensDropped := s.sensDropped } }

def motionGate (b : Build) (s : State) : Bool × ℕ :=
  if haveAccel s ∧ gateRms s ≥ motionThresh b s then (true, 0)
  else if s.status.motion = .active then
    let run := incSat 255 s.stillRun
    (decide (run < motionStillSamples), run)
  else (false, 0)

def processActive (s : State) : State :=
  let s := shHrDisturb { s with
    calmWindows := 0
    pirEvents := 0
    status := { s.status with
      motion := .active
      trend := .unknown
      valid := false
      hrValid := false
      hrBpm := 0
      hrBpmPeak := 0
      hrBpmFft := 0
      hrBpmAc := 0
      hrAcQ8 := 0
      hrReason := .motion } } hrDisturbHoldoffWin
  { s with
    prevSensMvValid := false
    status := { s.status with hrWinLeft := s.hrWinLeft } }

def sensAbs (s : State) : ℕ := shMeanAbsI16 s.sens.live
def sensEnergy (s : State) : ℕ := shEnergyI16 s.sens.live
def accelEnergy (s : State) : ℕ := if haveAccel s then shEnergyI16 s.band.live else 0

def foldsAccel (b : Build) (s : State) : Bool :=
  haveAccel s && decide (s.band.count > bandWin / 4) && !adaptRunning b s

def bandEnergy (b : Build) (s : State) : ℕ :=
  let energy := if s.sens.count > bandWin / 4 then
      if foldsAccel b s then u16 (sensEnergy s + accelEnergy s / 4) else sensEnergy s
    else if haveAccel s then accelEnergy s else 0
  u16 (energy + s.pirEvents * 8)

def bioTrend (bio : Bio) (baselineEnergy sensAbs : ℕ) : TrendFlag × Bool × ℕ :=
  if bio.pulseAbs < bioPulseAbsMin ∧ bio.respAbs < bioRespAbsMin then
    (.absent, true, baselineEnergy)
  else if sensAbs > u16 (bio.pulseAbs * bioArtifactRatio + 40) then (.unknown, false, baselineEnergy)
  else
    let baseline := if baselineEnergy = 0 then (if bio.pulseAbs ≠ 0 then bio.pulseAbs else 1)
      else u16OfInt (baselineEnergy +
        (((bio.pulseAbs : ℤ) - (baselineEnergy : ℤ)) * baselineAlphaQ8).tdiv 256)
    let deltaPct := (((bio.pulseAbs : ℤ) - (baseline : ℤ)) * 100).tdiv baseline
    if deltaPct ≥ trendUpPct then (.rising, true, baseline)
    else if deltaPct ≤ -trendDownPct then (.falling, true, baseline)
    else (.stable, true, baseline)

def estimateHr (s : State) (allow : Bool) (pre : HrReason) : State :=
  let x := shCopySensOrdered s s.sens.count
  let (bpmPeak, peakN) := shPeakBpm s.fsQ8 x
  let (fft, bpmFft, fftMag) := shFftBpm s.fft s.fsQ8 x
  let pre := if bpmPeak = 0 ∧ bpmFft = 0 then (if pre = .holdoff then pre else .none) else pre
  shFuseHr { s with fft := fft } bpmPeak bpmFft 0 peakN fftMag allow pre

def hrSignal (s : State) (energy sensAbs : ℕ) : HrReason :=
  let sig := shHrSignalReason energy sensAbs
  if sig = .ok ∧ ¬ s.ts.ok then .timebase else sig

def settleTrend (s : State) (sensAbs : ℕ) : State :=
  let (trend, valid, baseline) := bioTrend s.bio s.status.baselineEnergy sensAbs
  { s with
    hrWinLeft := s.hrWinLeft - 1
    status := { s.status with trend := trend, valid := valid, baselineEnergy := baseline } }

def processSettled (s : State) (energy sensAbs : ℕ) : State :=
  let t := settleTrend s sensAbs
  let sig := hrSignal t energy sensAbs
  if sig ≠ .ok then shFuseHr t 0 0 0 0 0 false sig
  else estimateHr t (decide (s.hrWinLeft = 0)) (if s.hrWinLeft > 0 then .holdoff else .ok)

def processWarm (s : State) : State :=
  shFuseHr (shHrDisturb { s with status := { s.status with trend := .unknown, valid := false } }
    hrDisturbHoldoffWin) 0 0 0 0 0 false .warm

def openCalm (b : Build) (s : State) : State :=
  { s with
    calmWindows := incSat 0xff s.calmWindows
    status := { s.status with motion := .calm, bandEnergy := bandEnergy b s } }

def armHoldoff (s : State) : State :=
  if shHrDisturbReason s s.status.bandEnergy (sensAbs s) s.status.sensMv ≠ .ok then
    shHrDisturb s hrDisturbHoldoffWin
  else s

def processPulse (b : Build) (s : State) : State :=
  let t := armHoldoff (openCalm b s)
  if t.calmWindows < calmWindowsMin ∨ (t.sens.count < bandWin / 4 ∧ ¬ haveAccel t) then processWarm t
  else processSettled t t.status.bandEnergy (sensAbs t)

def processCalm (b : Build) (s : State) : State :=
  let s := shUpdateHrChange b (processPulse b s)
  { s with
    prevSensMv := s.status.sensMv
    prevSensMvValid := true
    pirEvents := 0
    status := { s.status with hrWinLeft := s.hrWinLeft } }

def processPrologue (s : State) : State :=
  noteWindowCounts (noteMotionWindow (shUpdateResp (shUpdateTimebase s)))

def vitalsProcess (b : Build) (s : State) : State :=
  let s := processPrologue s
  let (active, run) := motionGate b s
  let s := { s with stillRun := run }
  if active then processActive s else processCalm b s

def vitalsOnSensSample (b : Build) (s : State) : State :=
  let n := incSat 0xff s.sensSinceProcess
  if n ≥ motionWin then vitalsProcess b { s with sensSinceProcess := 0 }
  else { s with sensSinceProcess := n }

def vitalsTakeFall (s : State) : State × Bool :=
  ({ s with fallPending := false, status := { s.status with fallPending := false } }, s.fallPending)

theorem axisStep_eq_natAbs {a b : ℤ} (ha : -32768 ≤ a ∧ a < 32768) (hb : -32768 ≤ b ∧ b < 32768) :
    axisStep a b = (a - b).natAbs := by
  unfold axisStep u16OfInt
  split_ifs <;> omega

end SmartHelmet.Vitals
