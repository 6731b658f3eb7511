import SmartHelmet.ScratchBuffers

namespace SmartHelmet.Vitals

open Config MachineArith

def veil (s : State) (a : Adapt) (k : ℕ) : State := { s with adapt := a, stillRun := k }

section Window

variable (s : State) (a : Adapt) (k : ℕ)

theorem veil_shUpdateTimebase : shUpdateTimebase (veil s a k) = veil (shUpdateTimebase s) a k := by
  have hts : (veil s a k).ts = s.ts := rfl
  unfold shUpdateTimebase
  rw [hts]
  dsimp only
  split_ifs <;> rfl

theorem veil_processPrologue : processPrologue (veil s a k) = veil (processPrologue s) a k := by
  have hmotion (t : State) : noteMotionWindow (veil t a k) = veil (noteMotionWindow t) a k := by
    have hhave : haveAccel (veil t a k) = haveAccel t := rfl
    unfold noteMotionWindow
    rw [hhave]
    split <;> rfl
  have hresp (t : State) : shUpdateResp (veil t a k) = veil (shUpdateResp t) a k := rfl
  unfold processPrologue
  rw [veil_shUpdateTimebase, hresp, hmotion]
  rfl

theorem veil_shFuseHr (bpmPeak bpmFft bpmAc peaks fftMag : ℕ) (allow : Bool) (pre : HrReason) :
    shFuseHr (veil s a k) bpmPeak bpmFft bpmAc peaks fftMag allow pre =
      veil (shFuseHr s bpmPeak bpmFft bpmAc peaks fftMag allow pre) a k := by
  have hrejected (t : State) : noteDeltaRejected (veil t a k) = veil (noteDeltaRejected t) a k := by
    have hrej : (veil t a k).hrDeltaRej = t.hrDeltaRej := rfl
    unfold noteDeltaRejected
    rw [hrej]
    dsimp only
    split <;> rfl
  have hestimates : publishEstimates (veil s a k) bpmPeak bpmFft bpmAc peaks fftMag =
      veil (publishEstimates s bpmPeak bpmFft bpmAc peaks fftMag) a k := rfl
  unfold shFuseHr
  dsimp only
  rw [hestimates]
  generalize publishEstimates s bpmPeak bpmFft bpmAc peaks fftMag = t
  generalize fusePair bpmPeak bpmFft peaks pre = fused
  have hjump : deltaJump (veil t a k) fused.1 = deltaJump t fused.1 := rfl
  rw [hjump, hrejected]
  split
  · rfl
  · split
    · rfl
    · split <;> rfl

theorem veil_estimateHr (allow : Bool) (pre : HrReason) :
    estimateHr (veil s a k) allow pre = veil (estimateHr s allow pre) a k :=
  veil_shFuseHr { s with fft := (shFftBpm s.fft s.fsQ8 (shCopySensOrdered s s.sens.count)).1 } a k _ _ _ _ _ _ _

theorem veil_processSettled (energy sensAbs : ℕ) :
    processSettled (veil s a k) energy sensAbs = veil (processSettled s energy sensAbs) a k := by
  have hsettle : settleTrend (veil s a k) sensAbs = veil (settleTrend s sensAbs) a k := rfl
  have hleft : (veil s a k).hrWinLeft = s.hrWinLeft := rfl
  unfold processSettled
  dsimp only
  rw [hsettle, hleft]
  generalize settleTrend s sensAbs = t
  have hsignal : hrSignal (veil t a k) energy sensAbs = hrSignal t energy sensAbs := rfl
  rw [hsignal]
  split
  · exact veil_shFuseHr t a k _ _ _ _ _ _ _
  · exact veil_estimateHr t a k _ _

theorem veil_armHoldoff : armHoldoff (veil s a k) = veil (armHoldoff s) a k := by
  have hreason : shHrDisturbReason (veil s a k) (veil s a k).status.bandEnergy (sensAbs (veil s a k))
      (veil s a k).status.sensMv = shHrDisturbReason s s.status.bandEnergy (sensAbs s) s.status.sensMv := rfl
  unfold armHoldoff
  rw [hreason]
  split <;> rfl

theorem veil_processPulse : processPulse defaultBuild (veil s a k) = veil (processPulse defaultBuild s) a k := by
  have hopen : openCalm defaultBuild (veil s a k) = veil (openCalm defaultBuild s) a k := rfl
  unfold processPulse
  dsimp only
  rw [hopen, veil_armHoldoff]
  generalize armHoldoff (openCalm defaultBuild s) = t
  have hready : ((veil t a k).calmWindows < calmWindowsMin ∨
      ((veil t a k).sens.count < bandWin / 4 ∧ ¬ haveAccel (veil t a k) = true)) =
      (t.calmWindows < calmWindowsMin ∨ (t.sens.count < bandWin / 4 ∧ ¬ haveAccel t = true)) := rfl
  simp only [hready]
  split
  · exact veil_shFuseHr (shHrDisturb
      { t with status := { t.status with trend := .unknown, valid := false } } hrDisturbHoldoffWin)
      a k _ _ _ _ _ _ _
  · exact veil_processSettled t a k _ _

theorem veil_processCalm : processCalm defaultBuild (veil s a k) = veil (processCalm defaultBuild s) a k := by
  have hchange (t : State) :
      shUpdateHrChange defaultBuild (veil t a k) = veil (shUpdateHrChange defaultBuild t) a k := by
    have hvalid : (veil t a k).status.hrValid = t.status.hrValid := rfl
    have hbpm : (veil t a k).status.hrBpm = t.status.hrBpm := rfl
    unfold shUpdateHrChange
    simp only [defaultBuild, Bool.false_eq_true, ↓reduceIte]
    rw [hvalid, hbpm]
    split <;> rfl
  unfold processCalm
  rw [veil_processPulse, hchange]
  rfl

theorem veil_motionGate (hkeep : s.status.motion = .calm ∨ k = s.stillRun) :
    motionGate defaultBuild (veil s a k) = motionGate defaultBuild s := by
  rcases hkeep with hcalm | rfl
  · have hmotion : (veil s a k).status.motion = .calm := hcalm
    have hgate : (haveAccel (veil s a k) = true ∧ gateRms (veil s a k) ≥ motionThresh defaultBuild (veil s a k)) =
        (haveAccel s = true ∧ gateRms s ≥ motionThresh defaultBuild s) := rfl
    unfold motionGate
    rw [hmotion, hcalm]
    simp only [hgate]
    rfl
  · rfl

theorem veil_vitalsProcess (hkeep : s.status.motion = .calm ∨ k = s.stillRun) :
    vitalsProcess defaultBuild (veil s a k) =
      veil (vitalsProcess defaultBuild s) a (vitalsProcess defaultBuild s).stillRun := by
  have hguards := congrArg Guards.motion (guards_processPrologue s)
  have hrun : (processPrologue (veil s s.adapt s.stillRun)).stillRun = s.stillRun := by
    rw [veil_processPrologue]
    rfl
  have hgate := veil_motionGate (processPrologue s) a k
    (hkeep.imp (fun hcalm => hguards.trans hcalm) (fun hsame => hsame.trans hrun.symm))
  unfold vitalsProcess
  dsimp only
  rw [veil_processPrologue, hgate]
  generalize (motionGate defaultBuild (processPrologue s)).2 = run
  have hcalm := veil_processCalm { processPrologue s with stillRun := run } a run
  have hstill : (processCalm defaultBuild { processPrologue s with stillRun := run }).stillRun = run :=
    congrArg State.stillRun (veil_processCalm { processPrologue s with stillRun := run } (processPrologue s).adapt run)
  split
  · rfl
  · rw [hstill]
    exact hcalm

end Window

section Calls

/-- The same but for what a restart leaves alone, where `still_run` matters only in motion. -/
def Forgot (s s' : State) : Prop := ∃ a k, s' = veil s a k ∧ (s.status.motion = .calm ∨ k = s.stillRun)

variable {s s' : State}

theorem Forgot.start (s s' : State) : Forgot (vitalsInit s) (vitalsInit s') := ⟨_, s'.stillRun, rfl, Or.inl rfl⟩

theorem Forgot.process (h : Forgot s s') : Forgot (vitalsProcess defaultBuild s) (vitalsProcess defaultBuild s') := by
  obtain ⟨a, k, rfl, hkeep⟩ := h
  exact ⟨a, _, veil_vitalsProcess s a k hkeep, Or.inr rfl⟩

theorem vitalsPushSensInMvAt_default (s : State) (mv : UInt16) (timeUs : UInt32) :
    vitalsPushSensInMvAt defaultBuild s mv timeUs =
      noteSensEdge { s with
        ts := noteTimestamp s.ts timeUs
        status := { s.status with sensMv := mv.toNat }
        sensHp := (shHighPass s.sensHp mv.toNat).1
        resp := shRespPush s.resp mv.toNat
        sens := s.sens.push (shHighPass s.sensHp mv.toNat).2
        bio := shBioPush s.bio (shHighPass s.sensHp mv.toNat).2 } (shHighPass s.sensHp mv.toNat).2 := rfl

theorem noteSensEdge_eq (s : State) (hp : ℤ) : ∃ events armed,
    noteSensEdge s hp = { s with pirEvents := events, sensEdgeArmed := armed } := by
  unfold noteSensEdge
  dsimp only
  split
  · exact ⟨_, _, rfl⟩
  · split
    · exact ⟨s.pirEvents, _, rfl⟩
    · exact ⟨s.pirEvents, s.sensEdgeArmed, rfl⟩

theorem Forgot.pushSens (h : Forgot s s') (mv : UInt16) (timeUs : UInt32) :
    Forgot (vitalsPushSensInMvAt defaultBuild s mv timeUs) (vitalsPushSensInMvAt defaultBuild s' mv timeUs) := by
  obtain ⟨a, k, rfl, hkeep⟩ := h
  have hedge (t : State) (hp : ℤ) : noteSensEdge (veil t a k) hp = veil (noteSensEdge t hp) a k := by
    have harmed : (veil t a k).sensEdgeArmed = t.sensEdgeArmed := rfl
    unfold noteSensEdge
    rw [harmed]
    dsimp only
    split
    · rfl
    · split <;> rfl
  rw [vitalsPushSensInMvAt_default, vitalsPushSensInMvAt_default]
  refine ⟨a, k, ?_, ?_⟩
  · rw [← hedge]
    rfl
  · obtain ⟨events, armed, hnoted⟩ := noteSensEdge_eq { s with
      ts := noteTimestamp s.ts timeUs
      status := { s.status with sensMv := mv.toNat }
      sensHp := (shHighPass s.sensHp mv.toNat).1
      resp := shRespPush s.resp mv.toNat
      sens := s.sens.push (shHighPass s.sensHp mv.toNat).2
      bio := shBioPush s.bio (shHighPass s.sensHp mv.toNat).2 } (shHighPass s.sensHp mv.toNat).2
    rw [hnoted]
    exact hkeep

theorem Forgot.onSensSample (h : Forgot s s') :
    Forgot (vitalsOnSensSample defaultBuild s) (vitalsOnSensSample defaultBuild s') := by
  obtain ⟨a, k, rfl, hkeep⟩ := h
  have hcount : (veil s a k).sensSinceProcess = s.sensSinceProcess := rfl
  unfold vitalsOnSensSample
  rw [hcount]
  dsimp only
  split
  · have hzero : Forgot { s with sensSinceProcess := 0 } { veil s a k with sensSinceProcess := 0 } := ⟨a, k, rfl, hkeep⟩
    exact hzero.process
  · exact ⟨a, k, rfl, hkeep⟩

theorem Forgot.call (h : Forgot s s') (c : Call) : Forgot (callStep defaultBuild s c) (callStep defaultBuild s' c) := by
  cases c with
  | init => exact Forgot.start s s'
  | sens mv timeUs => exact h.pushSens mv timeUs
  | onSensSample => exact h.onSensSample
  | process => exact h.process
  | dropped | accel | pirEvent | takeFall =>
    obtain ⟨a, k, rfl, hkeep⟩ := h
    exact ⟨a, k, rfl, hkeep⟩

theorem Forgot.replies (h : Forgot s s') (calls : List Call) :
    replies defaultBuild s calls = replies defaultBuild s' calls := by
  induction calls generalizing s s' with
  | nil => rfl
  | cons c calls ih =>
    have hnext := h.call c
    rw [Vitals.replies, Vitals.replies, ih hnext]
    obtain ⟨a, k, hs, -⟩ := h
    obtain ⟨a', k', hs', -⟩ := hnext
    have hreply : callReply s c = callReply s' c := by
      rw [hs]
      cases c <;> rfl
    rw [hs', hreply]
    rfl

end Calls

/-- Two memories answer alike after a restart, whatever their variables and arrays hold. -/
theorem restart_forgets (p p' : Memory) (calls : List Call) :
    (p.step defaultBuild .init).replies defaultBuild calls = (p'.step defaultBuild .init).replies defaultBuild calls := by
  rw [Memory.replies_eq, Memory.replies_eq]
  exact (Forgot.start p.state p'.state).replies calls

end SmartHelmet.Vitals
