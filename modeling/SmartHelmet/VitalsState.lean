import SmartHelmet.Config
import SmartHelmet.RingBuffer

/-!
The published status and the file-level variables of `smart_helmet_vitals.c`.
Scratch arrays that every call overwrites before reading are not state.
-/

namespace SmartHelmet.Vitals

open Config RingBuffer

inductive MotionGate where
  | calm | active
  deriving DecidableEq

inductive TrendFlag where
  | unknown | stable | rising | falling | absent
  deriving DecidableEq

inductive HrReason where
  | ok | warm | eLow | eHigh | saLow | saHigh | dcSpike | holdoff | noPeak | noFft | disagree
  | peakOnly | fftOnly | delta | none | disabled | motion | timebase | noResp
  deriving DecidableEq

structure Status where
  motion : MotionGate := .calm
  trend : TrendFlag := .unknown
  motionRmsMg : ℕ := 0
  motionMinMg : ℕ := 0
  motionPeakMg : ℕ := 0
  fallPending : Bool := false
  bandEnergy : ℕ := 0
  baselineEnergy : ℕ := 0
  pirEventsWin : ℕ := 0
  sensMv : ℕ := 0
  valid : Bool := false
  hrBpmPeak : ℕ := 0
  hrBpmFft : ℕ := 0
  hrBpmAc : ℕ := 0
  hrAcQ8 : ℕ := 0
  fsX100 : ℕ := 0
  fsJitterPct : ℕ := 0
  sensDropped : ℕ := 0
  respBpm : ℕ := 0
  respQ8 : ℕ := 0
  respValid : Bool := false
  hrBaselineBpm : ℕ := 0
  hrDeltaBpm : ℤ := 0
  hrCusumUp : ℕ := 0
  hrCusumDn : ℕ := 0
  hrChange : TrendFlag := .unknown
  adaptRemovedPct : ℕ := 0
  hrBpm : ℕ := 0
  hrPeakCount : ℕ := 0
  hrFftMag : ℕ := 0
  hrValid : Bool := false
  hrReason : HrReason := .ok
  hrWinLeft : ℕ := 0
  deriving DecidableEq

structure AccelSlot where
  mag : ℕ
  x : ℤ
  y : ℤ
  z : ℤ
  deriving DecidableEq, Inhabited

structure HighPass where
  prevX : ℤ
  prevY : ℤ
  deriving DecidableEq

structure Bio where
  lpFast : ℤ
  lpSlow : ℤ
  respFast : ℤ
  respSlow : ℤ
  pulseAbs : ℕ
  respAbs : ℕ
  deriving DecidableEq

structure TimeBase where
  prevUs : ℕ
  prevValid : Bool
  sumUs : ℕ
  jitSumUs : ℕ
  n : ℕ
  ok : Bool
  deriving DecidableEq

structure Resp where
  ring : Ring ℤ respWin
  decimN : ℕ
  decimAcc : ℤ
  dc : ℤ
  dcValid : Bool

structure HrTrack where
  baseBpm : ℕ
  baseN : ℕ
  invalidRun : ℕ
  cusumUp : ℤ
  cusumDn : ℤ
  deriving DecidableEq

structure FftSmooth where
  kQ8 : ℕ
  valid : Bool
  deriving DecidableEq

structure Adapt where
  ref : List (List ℤ)
  w : List (List ℤ)
  refN : ℕ
  lastAccelHp : List ℤ
  axisHp : List HighPass
  haveAccel : Bool
  eIn : ℕ
  eOut : ℕ
  deriving DecidableEq

structure State where
  status : Status
  motion : Ring AccelSlot motionWin
  fallPending : Bool
  band : Ring ℤ bandWin
  hp : HighPass
  sens : Ring ℤ bandWin
  sensHp : HighPass
  bio : Bio
  pirEvents : ℕ
  sensEdgeArmed : Bool
  sensSinceProcess : ℕ
  calmWindows : ℕ
  hrWinLeft : ℕ
  prevSensMv : ℕ
  prevSensMvValid : Bool
  lastHrValidBpm : ℕ
  lastHrValidHave : Bool
  hrDeltaRej : ℕ
  sensDropped : ℕ
  fsQ8 : ℕ
  ts : TimeBase
  resp : Resp
  hrTrack : HrTrack
  adapt : Adapt
  fft : FftSmooth
  stillRun : ℕ

def Bio.zero : Bio := ⟨0, 0, 0, 0, 0, 0⟩

def HrTrack.zero : HrTrack := ⟨0, 0, 0, 0, 0⟩

def shMotionAdaptReset : Adapt where
  ref := List.replicate hrAdaptRefAxes (List.replicate hrAdaptTaps 0)
  w := List.replicate hrAdaptRefAxes (List.replicate hrAdaptTaps 0)
  refN := 0
  lastAccelHp := List.replicate hrAdaptRefAxes 0
  axisHp := List.replicate hrAdaptRefAxes ⟨0, 0⟩
  haveAccel := false
  eIn := 0
  eOut := 0

def shFftSmoothReset : FftSmooth := ⟨0, false⟩

def boot : State where
  status := {}
  motion := Ring.zeroed ⟨0, 0, 0, 0⟩ (by decide)
  fallPending := false
  band := Ring.zeroed 0 (by decide)
  hp := ⟨0, 0⟩
  sens := Ring.zeroed 0 (by decide)
  sensHp := ⟨0, 0⟩
  bio := .zero
  pirEvents := 0
  sensEdgeArmed := false
  sensSinceProcess := 0
  calmWindows := 0
  hrWinLeft := 0
  prevSensMv := 0
  prevSensMvValid := false
  lastHrValidBpm := 0
  lastHrValidHave := false
  hrDeltaRej := 0
  sensDropped := 0
  fsQ8 := fsHz * 256
  ts := ⟨0, false, 0, 0, 0, true⟩
  resp := ⟨Ring.zeroed 0 (by decide), 0, 0, 0, false⟩
  hrTrack := .zero
  adapt := shMotionAdaptReset
  fft := shFftSmoothReset
  stillRun := 0

/-- `SmartHelmet_VitalsInit`; the function-local `still_run` is out of its reach. -/
def vitalsInit (s : State) : State :=
  { boot with sensEdgeArmed := true, hrWinLeft := hrDisturbHoldoffWin, stillRun := s.stillRun }

end SmartHelmet.Vitals
