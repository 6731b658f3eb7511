import SmartHelmet.VitalsRuns

namespace SmartHelmet.Vitals

open Config MachineArith

def withFall (s : State) (pending published : Bool) : State :=
  { s with fallPending := pending, status := { s.status with fallPending := published } }

def AlikeButFall (s s' : State) : Prop := ∃ p q, s' = withFall s p q

section Window

variable (b : Build) (s : State) (p q : Bool)

theorem withFall_shUpdateTimebase :
    shUpdateTimebase (withFall s p q) = withFall (shUpdateTimebase s) p q := by
  unfold shUpdateTimebase
  dsimp only
  by_cases hn : s.ts.n ≥ motionWin / 2
  · rw [if_pos hn, if_pos (show (withFall s p q).ts.n ≥ motionWin / 2 from hn)]
    by_cases hmean : s.ts.sumUs / s.ts.n ≠ 0
    · rw [if_pos hmean, if_pos (show (withFall s p q).ts.sumUs / (withFall s p q).ts.n ≠ 0 from hmean)]
      rfl
    · rw [if_neg hmean, if_neg (show ¬ (withFall s p q).ts.sumUs / (withFall s p q).ts.n ≠ 0 from hmean)]
      rfl
  · rw [if_neg hn, if_neg (show ¬ (withFall s p q).ts.n ≥ motionWin / 2 from hn)]
    rfl

theorem withFall_processPrologue :
    ∃ p', processPrologue (withFall s p q) = withFall (processPrologue s) p' p' := by
  unfold processPrologue
  rw [withFall_shUpdateTimebase]
  have hresp (t : State) : shUpdateResp (withFall t p q) = withFall (shUpdateResp t) p q := rfl
  rw [hresp]
  generalize shUpdateResp (shUpdateTimebase s) = t
  have hmotion : ∃ p', noteMotionWindow (withFall t p q) = withFall (noteMotionWindow t) p' q := by
    unfold noteMotionWindow
    by_cases hacc : haveAccel t = true
    · rw [if_pos hacc, if_pos (show haveAccel (withFall t p q) = true from hacc)]
      exact ⟨p || fallWindow (magnitudes t), rfl⟩
    · rw [if_neg hacc, if_neg (show ¬ haveAccel (withFall t p q) = true from hacc)]
      exact ⟨p, rfl⟩
  obtain ⟨p', hmotion⟩ := hmotion
  rw [hmotion]
  exact ⟨p', rfl⟩

theorem withFall_shFuseHr (bpmPeak bpmFft bpmAc peaks fftMag : ℕ) (allow : Bool) (pre : HrReason) :
    shFuseHr (withFall s p q) bpmPeak bpmFft bpmAc peaks fftMag allow pre =
      withFall (shFuseHr s bpmPeak bpmFft bpmAc peaks fftMag allow pre) p q := by
  have hrejected (t : State) : noteDeltaRejected (withFall t p q) = withFall (noteDeltaRejected t) p q := by
    unfold noteDeltaRejected
    dsimp only
    by_cases hrej : incSat 0xff t.hrDeltaRej ≥ hrDeltaResyncWin
    · rw [if_pos hrej, if_pos (show incSat 0xff (withFall t p q).hrDeltaRej ≥ hrDeltaResyncWin from hrej)]
      rfl
    · rw [if_neg hrej, if_neg (show ¬ incSat 0xff (withFall t p q).hrDeltaRej ≥ hrDeltaResyncWin from hrej)]
      rfl
  have hestimates : publishEstimates (withFall s p q) bpmPeak bpmFft bpmAc peaks fftMag =
      withFall (publishEstimates s bpmPeak bpmFft bpmAc peaks fftMag) p q := rfl
  unfold shFuseHr
  dsimp only
  rw [hestimates]
  generalize publishEstimates s bpmPeak bpmFft bpmAc peaks fftMag = t
  generalize fusePair bpmPeak bpmFft peaks pre = fused
  have hjump : deltaJump (withFall t p q) fused.1 = deltaJump t fused.1 := rfl
  rw [hjump, hrejected]
  split
  · rfl
  · split
    · rfl
    · split <;> rfl

theorem withFall_estimateHr (allow : Bool) (pre : HrReason) :
    estimateHr (withFall s p q) allow pre = withFall (estimateHr s allow pre) p q := by
  have hcopy : shCopySensOrdered (withFall s p q) (withFall s p q).sens.count =
      shCopySensOrdered s s.sens.count := rfl
  have hpeak (x : List ℤ) : shPeakBpm (withFall s p q).fsQ8 x = shPeakBpm s.fsQ8 x := rfl
  have hfft (x : List ℤ) :
      shFftBpm (withFall s p q).fft (withFall s p q).fsQ8 x = shFftBpm s.fft s.fsQ8 x := rfl
  unfold estimateHr
  dsimp only
  rw [hcopy, hpeak, hfft]
  generalize shPeakBpm s.fsQ8 _ = peak
  generalize shFftBpm s.fft s.fsQ8 _ = spectrum
  exact withFall_shFuseHr { s with fft := spectrum.1 } p q _ _ _ _ _ _ _

theorem withFall_processSettled (energy sensAbs : ℕ) :
    processSettled (withFall s p q) energy sensAbs = withFall (processSettled s energy sensAbs) p q := by
  have hsettle : settleTrend (withFall s p q) sensAbs = withFall (settleTrend s sensAbs) p q := rfl
  unfold processSettled
  dsimp only
  rw [hsettle]
  generalize settleTrend s sensAbs = t
  have hsignal : hrSignal (withFall t p q) energy sensAbs = hrSignal t energy sensAbs := rfl
  rw [hsignal]
  split
  · exact withFall_shFuseHr t p q _ _ _ _ _ _ _
  · exact withFall_estimateHr t p q _ _

theorem withFall_armHoldoff : armHoldoff (withFall s p q) = withFall (armHoldoff s) p q := by
  have hreason : shHrDisturbReason (withFall s p q) (withFall s p q).status.bandEnergy
      (sensAbs (withFall s p q)) (withFall s p q).status.sensMv =
      shHrDisturbReason s s.status.bandEnergy (sensAbs s) s.status.sensMv := rfl
  unfold armHoldoff
  rw [hreason]
  split <;> rfl

theorem withFall_processPulse : processPulse b (withFall s p q) = withFall (processPulse b s) p q := by
  have hopen : openCalm b (withFall s p q) = withFall (openCalm b s) p q := rfl
  unfold processPulse
  dsimp only
  rw [hopen, withFall_armHoldoff]
  generalize armHoldoff (openCalm b s) = t
  have hready : ((withFall t p q).calmWindows < calmWindowsMin ∨
      ((withFall t p q).sens.count < bandWin / 4 ∧ ¬ haveAccel (withFall t p q) = true)) =
      (t.calmWindows < calmWindowsMin ∨ (t.sens.count < bandWin / 4 ∧ ¬ haveAccel t = true)) := rfl
  simp only [hready]
  split
  · exact withFall_shFuseHr (shHrDisturb
      { t with status := { t.status with trend := .unknown, valid := false } } hrDisturbHoldoffWin)
      p q _ _ _ _ _ _ _
  · exact withFall_processSettled t p q _ _

theorem withFall_shUpdateHrChange :
    shUpdateHrChange b (withFall s p q) = withFall (shUpdateHrChange b s) p q := by
  unfold shUpdateHrChange
  dsimp only
  cases b.hrMotionAdapt
  · simp only [Bool.false_eq_true, ↓reduceIte]
    have hvalid : (¬ (withFall s p q).status.hrValid = true ∨ (withFall s p q).status.hrBpm = 0) =
        (¬ s.status.hrValid = true ∨ s.status.hrBpm = 0) := rfl
    simp only [hvalid]
    split <;> rfl
  · simp only [↓reduceIte]
    have hvalid : (¬ (withFall s p q).status.hrValid = true ∨ (withFall s p q).status.hrBpm = 0) =
        (¬ s.status.hrValid = true ∨ s.status.hrBpm = 0) := rfl
    simp only [hvalid]
    split <;> rfl

theorem withFall_processCalm : processCalm b (withFall s p q) = withFall (processCalm b s) p q := by
  unfold processCalm
  rw [withFall_processPulse, withFall_shUpdateHrChange]
  rfl

theorem withFall_vitalsProcess :
    ∃ p', vitalsProcess b (withFall s p q) = withFall (vitalsProcess b s) p' p' := by
  obtain ⟨p', hprologue⟩ := withFall_processPrologue s p q
  refine ⟨p', ?_⟩
  unfold vitalsProcess
  dsimp only
  rw [hprologue]
  generalize processPrologue s = t
  have hgate : motionGate b (withFall t p' p') = motionGate b t := rfl
  rw [hgate]
  split
  · rfl
  · exact withFall_processCalm b { t with stillRun := (motionGate b t).2 } p' p'

end Window

section Calls

variable (b : Build) {s s' : State}

theorem AlikeButFall.refl (s : State) : AlikeButFall s s := ⟨s.fallPending, s.status.fallPending, rfl⟩

theorem AlikeButFall.takeFall (h : AlikeButFall s s') : AlikeButFall s (vitalsTakeFall s').1 := by
  obtain ⟨p, q, rfl⟩ := h
  exact ⟨false, false, rfl⟩

theorem AlikeButFall.vitalsProcess (h : AlikeButFall s s') :
    AlikeButFall (vitalsProcess b s) (vitalsProcess b s') := by
  obtain ⟨p, q, rfl⟩ := h
  obtain ⟨p', hp⟩ := withFall_vitalsProcess b s p q
  exact ⟨p', p', hp⟩

theorem AlikeButFall.onSensSample (h : AlikeButFall s s') :
    AlikeButFall (vitalsOnSensSample b s) (vitalsOnSensSample b s') := by
  obtain ⟨p, q, rfl⟩ := h
  unfold vitalsOnSensSample
  dsimp only
  by_cases hwin : incSat 0xff s.sensSinceProcess ≥ motionWin
  · rw [if_pos hwin, if_pos (show incSat 0xff (withFall s p q).sensSinceProcess ≥ motionWin from hwin)]
    have halike : AlikeButFall { s with sensSinceProcess := 0 }
        { withFall s p q with sensSinceProcess := 0 } := ⟨p, q, rfl⟩
    exact halike.vitalsProcess b
  · rw [if_neg hwin, if_neg (show ¬ incSat 0xff (withFall s p q).sensSinceProcess ≥ motionWin from hwin)]
    exact ⟨p, q, rfl⟩

theorem AlikeButFall.pushSens (mv : UInt16) (timeUs : UInt32) (h : AlikeButFall s s') :
    AlikeButFall (vitalsPushSensInMvAt b s mv timeUs) (vitalsPushSensInMvAt b s' mv timeUs) := by
  obtain ⟨p, q, rfl⟩ := h
  have hedge (t : State) (hp : ℤ) : noteSensEdge (withFall t p q) hp = withFall (noteSensEdge t hp) p q := by
    have harmed : (withFall t p q).sensEdgeArmed = t.sensEdgeArmed := rfl
    unfold noteSensEdge
    dsimp only
    rw [harmed]
    split
    · rfl
    · split <;> rfl
  refine ⟨p, q, ?_⟩
  have hhp : shHighPass (withFall s p q).sensHp mv.toNat = shHighPass s.sensHp mv.toNat := rfl
  have hadapt : (withFall s p q).adapt = s.adapt := rfl
  unfold vitalsPushSensInMvAt
  dsimp only
  rw [hhp, hadapt]
  generalize shHighPass s.sensHp mv.toNat = hp
  generalize (if b.hrMotionAdapt = true then shMotionCancel s.adapt hp.2 else (s.adapt, hp.2)) = cancelled
  rw [← hedge]
  rfl

theorem AlikeButFall.dropped (h : AlikeButFall s s') :
    AlikeButFall (vitalsNoteSensDropped s) (vitalsNoteSensDropped s') := by
  obtain ⟨p, q, rfl⟩ := h
  exact ⟨p, q, rfl⟩

theorem AlikeButFall.pushAccel (x y z : Int16) (h : AlikeButFall s s') :
    AlikeButFall (vitalsPushAccel b s x y z) (vitalsPushAccel b s' x y z) := by
  obtain ⟨p, q, rfl⟩ := h
  exact ⟨p || shNoteFallMag (accelMag x y z), q, rfl⟩

end Calls

end SmartHelmet.Vitals
