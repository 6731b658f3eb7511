import Mathlib

/-!
The constants of `smart_helmet_config.h` at their default values, without the
`SMART_HELMET_` prefix.
-/

namespace SmartHelmet.Config

/-- The compile switches that the model leaves open; the header sets them to `0`. -/
structure Build where
  hrMotionAdapt : Bool

def defaultBuild : Build := ⟨false⟩

@[simp] def fsHz : ℕ := 25
@[simp] def motionWin : ℕ := 25
@[simp] def bandWin : ℕ := 100

@[simp] def motionRmsMg : ℕ := 40
@[simp] def motionRmsMgAdapt : ℕ := 200
@[simp] def motionStillSamples : ℕ := 3
@[simp] def motionStillReports : ℕ := 2

@[simp] def fallRmsMg : ℕ := 220
@[simp] def fallFreefallMg : ℕ := 700
@[simp] def fallImpactMg : ℕ := 1300
@[simp] def fallSwingMg : ℕ := 400

@[simp] def baselineAlphaQ8 : ℤ := 16
@[simp] def trendUpPct : ℤ := 25
@[simp] def trendDownPct : ℤ := 20
@[simp] def bioPulseAbsMin : ℕ := 8
@[simp] def bioRespAbsMin : ℕ := 10
@[simp] def bioArtifactRatio : ℕ := 6
@[simp] def calmWindowsMin : ℕ := 3
@[simp] def sensEdgeAbsMv : ℤ := 40

@[simp] def hrBpmMin : ℕ := 40
@[simp] def hrBpmMax : ℕ := 180
@[simp] def hrMinPeakDist : ℕ := 8
@[simp] def hrPeakThrQ8 : ℤ := 384
@[simp] def hrIbiSpreadPct : ℕ := 35
@[simp] def fftN : ℕ := 64
@[simp] def hrFftSnrQ8 : ℕ := 320
@[simp] def hrFftSmoothAlphaQ8 : ℕ := 48
@[simp] def hrFftMaxBinJump : ℕ := 2
@[simp] def hrLpAlphaQ8 : ℤ := 96
@[simp] def hrAgreePct : ℕ := 20
@[simp] def hrFusePeakWQ8 : ℕ := 192
@[simp] def hrMinPeaksValid : ℕ := 3
@[simp] def hrMinEnergy : ℕ := 400
@[simp] def hrMaxEnergy : ℕ := 3500
@[simp] def hrMinSensAbs : ℕ := 12
@[simp] def hrMaxSensAbs : ℕ := 45
@[simp] def hrSensDcSpikeMv : ℤ := 120
@[simp] def hrDisturbHoldoffWin : ℕ := 5
@[simp] def hrMaxDeltaBpm : ℤ := 25
@[simp] def hrDeltaResyncWin : ℕ := 3

@[simp] def vitalsFsTolPct : ℕ := 25
@[simp] def vitalsJitterPct : ℕ := 20

@[simp] def respBpmMin : ℕ := 8
@[simp] def respBpmMax : ℕ := 30
@[simp] def respDecim : ℕ := 8
@[simp] def respWin : ℕ := 64
@[simp] def respMinQ8 : ℕ := 64

@[simp] def hrBaselineAlphaQ8 : ℤ := 12
@[simp] def hrBaselineMinWin : ℕ := 8
@[simp] def hrBaselineStaleWin : ℕ := 15
@[simp] def hrCusumSlackBpm : ℤ := 3
@[simp] def hrCusumSlackPct : ℤ := 5
@[simp] def hrCusumLimit : ℤ := 24

@[simp] def hrAdaptTaps : ℕ := 8
@[simp] def hrAdaptRefAxes : ℕ := 3
@[simp] def hrAdaptMuQ8 : ℤ := 32

end SmartHelmet.Config
