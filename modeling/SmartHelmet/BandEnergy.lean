import SmartHelmet.VitalsRuns

namespace SmartHelmet.Vitals

open Config MachineArith

/-- The energy of a window with enough `SENS_IN` samples, without the casts of the source. -/
def unboundedEnergy (b : Build) (s : State) : ℕ :=
  sensEnergy s + (if foldsAccel b s then accelEnergy s / 4 else 0) + s.pirEvents * 8

theorem bandEnergy_eq (b : Build) {s : State} (h : bandWin / 4 < s.sens.count) :
    bandEnergy b s = u16 (unboundedEnergy b s) := by
  unfold bandEnergy unboundedEnergy
  rw [if_pos h]
  cases foldsAccel b s with
  | true =>
    simp only [↓reduceIte]
    rw [u16_add_u16]
  | false => simp

theorem unboundedEnergy_gated (b : Build) (s : State) :
    unboundedEnergy b (gated b s) = unboundedEnergy b s ∧ (gated b s).sens.count = s.sens.count := by
  have hsig := signals_gated b s
  have hmotion : (gated b s).motion = s.motion := congrArg Signals.motion hsig
  have hband : (gated b s).band = s.band := congrArg Signals.band hsig
  have hsens : (gated b s).sens = s.sens := congrArg Signals.sens hsig
  have hadapt : (gated b s).adapt = s.adapt := congrArg Signals.adapt hsig
  have hpir : (gated b s).pirEvents = s.pirEvents := congrArg Guards.pirEvents (guards_processPrologue s)
  simp only [unboundedEnergy, sensEnergy, accelEnergy, foldsAccel, haveAccel, adaptRunning, hmotion, hband,
    hsens, hadapt, hpir]
  exact ⟨rfl, trivial⟩

structure Disturbed (w : State) : Prop where
  holdoff : hrDisturbHoldoffWin ≤ w.hrWinLeft + 1
  lastHave : w.lastHrValidHave = false
  lastBpm : w.lastHrValidBpm = 0
  valid : w.status.hrValid = false
  reason : w.status.hrReason ≠ .eLow

structure EnergyKept (b : Build) (s : State) : Prop where
  disturbed : hrMaxEnergy < unboundedEnergy b s → Disturbed (vitalsProcess b s)
  published : min (unboundedEnergy b s) 65535 ≤ (vitalsProcess b s).status.bandEnergy

theorem shFuseHr_refused (s : State) {pre : HrReason} (hpre : pre ≠ .ok) :
    ∃ bpm, shFuseHr s 0 0 0 0 0 false pre = publishHr (publishEstimates s 0 0 0 0 0) bpm false pre := by
  rcases shFuseHr_cases s 0 0 0 0 0 false pre with ⟨_, why, hw, hr⟩ | ⟨ha, _⟩ | ⟨ha, _⟩ | ⟨ha, _⟩
  · rw [hw hpre] at hr
    exact ⟨_, hr⟩
  all_goals exact absurd ha Bool.false_ne_true

theorem hrSignal_high (s : State) {energy : ℕ} (sa : ℕ) (h : hrMaxEnergy < energy) :
    hrSignal s energy sa = .eHigh := by
  have hlow : ¬ energy < hrMinEnergy := by
    simp only [hrMaxEnergy, hrMinEnergy] at h ⊢
    omega
  have hsig : shHrSignalReason energy sa = .eHigh := by rw [shHrSignalReason, if_neg hlow, if_pos h]
  unfold hrSignal
  rw [hsig]
  rfl

theorem shHrDisturb_holdoff (s : State) : hrDisturbHoldoffWin ≤ (shHrDisturb s hrDisturbHoldoffWin).hrWinLeft := by
  unfold shHrDisturb
  dsimp only
  split_ifs <;> omega

theorem processPulse_disturbed (b : Build) (s : State) (h : hrMaxEnergy < bandEnergy b s) :
    Disturbed (processPulse b s) := by
  have hbe : (openCalm b s).status.bandEnergy = bandEnergy b s := rfl
  have harm : armHoldoff (openCalm b s) = shHrDisturb (openCalm b s) hrDisturbHoldoffWin := by
    unfold armHoldoff
    apply if_pos
    simp only [shHrDisturbReason, hbe, if_pos h]
    decide
  unfold processPulse
  dsimp only
  rw [harm]
  split
  · obtain ⟨bpm, hf⟩ := shFuseHr_refused (shHrDisturb { shHrDisturb (openCalm b s) hrDisturbHoldoffWin with
      status := { (openCalm b s).status with trend := .unknown, valid := false } } hrDisturbHoldoffWin)
      (show HrReason.warm ≠ .ok by decide)
    have hleft := shHrDisturb_holdoff { shHrDisturb (openCalm b s) hrDisturbHoldoffWin with
      status := { (openCalm b s).status with trend := .unknown, valid := false } }
    have hwarm : processWarm (shHrDisturb (openCalm b s) hrDisturbHoldoffWin) =
        publishHr (publishEstimates _ 0 0 0 0 0) bpm false .warm := hf
    rw [hwarm]
    exact ⟨Nat.le_succ_of_le hleft, rfl, rfl, rfl, fun hr => by cases hr⟩
  · have hleft := shHrDisturb_holdoff (openCalm b s)
    generalize hd : shHrDisturb (openCalm b s) hrDisturbHoldoffWin = d at hleft ⊢
    have hen : d.status.bandEnergy = bandEnergy b s := by
      rw [← hd]
      rfl
    have hlast : d.lastHrValidHave = false ∧ d.lastHrValidBpm = 0 := by
      rw [← hd]
      exact ⟨rfl, rfl⟩
    have hsig := hrSignal_high (settleTrend d (sensAbs d)) (sensAbs d) (hen.symm ▸ h)
    obtain ⟨bpm, hf⟩ := shFuseHr_refused (settleTrend d (sensAbs d)) (show HrReason.eHigh ≠ .ok by decide)
    have hsettled : processSettled d d.status.bandEnergy (sensAbs d) =
        publishHr (publishEstimates (settleTrend d (sensAbs d)) 0 0 0 0 0) bpm false .eHigh := by
      unfold processSettled
      dsimp only
      rw [hsig, if_pos (by decide), hf]
    rw [hsettled]
    refine ⟨?_, hlast.1, hlast.2, rfl, fun hr => by cases hr⟩
    change hrDisturbHoldoffWin ≤ d.hrWinLeft - 1 + 1
    simp only [hrDisturbHoldoffWin] at hleft ⊢
    omega

theorem processCalm_energy (b : Build) (s : State) :
    (processCalm b s).status.bandEnergy = bandEnergy b s ∧
      (Disturbed (processPulse b s) → Disturbed (processCalm b s)) := by
  obtain ⟨t, change, dev, pct, he⟩ := processCalm_eq b s
  obtain ⟨_, _, hen, _⟩ := processPulse_guards b s
  rw [he]
  generalize processPulse b s = p at hen ⊢
  exact ⟨hen, fun h => ⟨h.holdoff, h.lastHave, h.lastBpm, h.valid, h.reason⟩⟩

theorem energyKept_iff (b : Build) (calls : List Call)
    (hcalm : (motionGate b (processPrologue (run b calls).state)).1 = false)
    (hsens : bandWin / 4 < (run b calls).state.sens.count) :
    EnergyKept b (run b calls).state ↔
      unboundedEnergy b (run b calls).state < 65536 ∨ unboundedEnergy b (run b calls).state % 65536 = 65535 := by
  generalize (run b calls).state = s at hcalm hsens ⊢
  obtain ⟨hsame, hcount⟩ := unboundedEnergy_gated b s
  have hw : vitalsProcess b s = processCalm b (gated b s) := by
    rcases vitalsProcess_cases b s with ⟨hactive, _⟩ | ⟨_, h⟩
    · rw [hcalm] at hactive
      exact absurd hactive Bool.false_ne_true
    · exact h
  have hband : bandEnergy b (gated b s) = unboundedEnergy b s % 65536 := by
    rw [bandEnergy_eq b (hcount.symm ▸ hsens), hsame, u16]
  obtain ⟨hpub, hdist⟩ := processCalm_energy b (gated b s)
  rw [hband] at hpub
  constructor
  · intro h
    have hmin := h.published
    rw [hw, hpub] at hmin
    omega
  · intro hfit
    refine ⟨fun hhigh => ?_, ?_⟩
    · rw [hw]
      apply hdist
      apply processPulse_disturbed
      rw [hband]
      simp only [hrMaxEnergy] at hhigh ⊢
      omega
    · rw [hw, hpub]
      omega

def swingCalls (high : UInt16) : List Call :=
  [.init, .process, .process] ++ (List.replicate 13 [Call.sens high 0, Call.sens 0 0]).flatten

theorem energyKept_loud :
    hrMaxEnergy < unboundedEnergy defaultBuild (run defaultBuild (swingCalls 300)).state ∧
      EnergyKept defaultBuild (run defaultBuild (swingCalls 300)).state := by
  refine ⟨by decide +kernel, ?_⟩
  have hfits : unboundedEnergy defaultBuild (run defaultBuild (swingCalls 300)).state < 65536 := by decide +kernel
  exact (energyKept_iff defaultBuild (swingCalls 300) (by decide +kernel) (by decide +kernel)).mpr (Or.inl hfits)

theorem energy_wraps :
    ¬ ∀ (b : Build) (calls : List Call), (motionGate b (processPrologue (run b calls).state)).1 = false →
      bandWin / 4 < (run b calls).state.sens.count → EnergyKept b (run b calls).state := by
  intro h
  have hkept := h defaultBuild (swingCalls 1000) (by decide +kernel) (by decide +kernel)
  have hlow : (vitalsProcess defaultBuild (run defaultBuild (swingCalls 1000)).state).status.hrReason = .eLow := by
    decide +kernel
  have hhigh : hrMaxEnergy < unboundedEnergy defaultBuild (run defaultBuild (swingCalls 1000)).state := by
    decide +kernel
  exact (hkept.disturbed hhigh).reason hlow

end SmartHelmet.Vitals
