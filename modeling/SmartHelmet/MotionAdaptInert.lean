import SmartHelmet.PulseValidity
import SmartHelmet.RestartForgets

namespace SmartHelmet.Vitals

open Config MachineArith

def adaptBuild : Build := ⟨true⟩

def isAccel : Call → Bool
  | .accel .. => true
  | _ => false

structure NoAccel (s : State) : Prop where
  motion : s.motion.count = 0
  gate : s.status.motion = .calm
  haveAccel : s.adapt.haveAccel = false
  energy : s.adapt.eIn = 0

section Builds

variable {s : State}

theorem haveAccel_of_none (h : s.motion.count = 0) : haveAccel s = false := by
  rw [haveAccel, h]
  rfl

theorem motionGate_adapt (b : Build) (h : s.motion.count = 0) (hcalm : s.status.motion = .calm) :
    motionGate b s = (false, 0) := by
  unfold motionGate
  rw [haveAccel_of_none h, hcalm, if_neg (by simp), if_neg (by decide)]

theorem openCalm_adapt (h : s.motion.count = 0) : openCalm adaptBuild s = openCalm defaultBuild s := by
  have hfolds (b : Build) : foldsAccel b s = false := by
    rw [foldsAccel, haveAccel_of_none h, Bool.false_and, Bool.false_and]
  have henergy : bandEnergy adaptBuild s = bandEnergy defaultBuild s := by
    rw [bandEnergy, bandEnergy, hfolds, hfolds]
  rw [openCalm, openCalm, henergy]

theorem shUpdateHrChange_adapt (h : s.adapt.eIn = 0) : shUpdateHrChange adaptBuild s = shUpdateHrChange defaultBuild s := by
  have hremoved : adaptRemoved s.adapt s.status.adaptRemovedPct = s.status.adaptRemovedPct := if_pos h
  unfold shUpdateHrChange
  simp only [adaptBuild, defaultBuild, Bool.false_eq_true, ↓reduceIte]
  rw [hremoved]

theorem processCalm_adapt (hmotion : s.motion.count = 0) (henergy : s.adapt.eIn = 0) :
    processCalm adaptBuild s = processCalm defaultBuild s := by
  have hpulse : processPulse adaptBuild s = processPulse defaultBuild s := by
    unfold processPulse
    rw [openCalm_adapt hmotion]
  have hadapt : (processPulse defaultBuild s).adapt = s.adapt :=
    congrArg Signals.adapt (signals_processPulse defaultBuild s)
  unfold processCalm
  rw [hpulse, shUpdateHrChange_adapt (by rw [hadapt]; exact henergy)]

theorem NoAccel.of_signals {s' : State} (h : NoAccel s) (hsignals : signals s' = signals s)
    (hgate : s'.status.motion = .calm) : NoAccel s' := by
  have hmotion : s'.motion = s.motion := congrArg Signals.motion hsignals
  have hadapt : s'.adapt = s.adapt := congrArg Signals.adapt hsignals
  refine ⟨?_, hgate, ?_, ?_⟩
  · rw [hmotion]
    exact h.motion
  · rw [hadapt]
    exact h.haveAccel
  · rw [hadapt]
    exact h.energy

theorem NoAccel.prologue (h : NoAccel s) : NoAccel (processPrologue s) :=
  h.of_signals (signals_processPrologue s) ((congrArg Guards.motion (guards_processPrologue s)).trans h.gate)

theorem vitalsProcess_adapt (h : NoAccel s) : vitalsProcess adaptBuild s = vitalsProcess defaultBuild s := by
  have hopened := h.prologue
  unfold vitalsProcess
  dsimp only
  generalize processPrologue s = t at hopened ⊢
  rw [motionGate_adapt adaptBuild hopened.motion hopened.gate, motionGate_adapt defaultBuild hopened.motion hopened.gate]
  change processCalm adaptBuild { t with stillRun := 0 } = processCalm defaultBuild { t with stillRun := 0 }
  exact processCalm_adapt hopened.motion hopened.energy

theorem vitalsPushSensInMvAt_adapt (h : NoAccel s) (mv : UInt16) (timeUs : UInt32) :
    vitalsPushSensInMvAt adaptBuild s mv timeUs = vitalsPushSensInMvAt defaultBuild s mv timeUs := by
  have hcancel (hp : ℤ) : shMotionCancel s.adapt hp = (s.adapt, hp) := by
    rw [shMotionCancel, h.haveAccel, if_pos (by decide)]
  unfold vitalsPushSensInMvAt
  simp only [adaptBuild, defaultBuild, Bool.false_eq_true, ↓reduceIte]
  rw [hcancel]

theorem NoAccel.zeroed (h : NoAccel s) (n : ℕ) : NoAccel { s with sensSinceProcess := n } :=
  ⟨h.motion, h.gate, h.haveAccel, h.energy⟩

theorem callStep_adapt (h : NoAccel s) {c : Call} (hc : isAccel c = false) :
    callStep adaptBuild s c = callStep defaultBuild s c := by
  cases c with
  | accel x y z => exact absurd hc.symm Bool.false_ne_true
  | sens mv timeUs => exact vitalsPushSensInMvAt_adapt h mv timeUs
  | process => exact vitalsProcess_adapt h
  | onSensSample =>
    have hwindow := vitalsProcess_adapt (h.zeroed 0)
    simp only [callStep]
    unfold vitalsOnSensSample
    rw [hwindow]
  | init | dropped | pirEvent | takeFall => rfl

end Builds

section Runs

variable {s : State}

theorem NoAccel.start (s : State) : NoAccel (vitalsInit s) := ⟨rfl, rfl, rfl, rfl⟩

theorem NoAccel.process (h : NoAccel s) : NoAccel (vitalsProcess defaultBuild s) := by
  have hgate : (motionGate defaultBuild (processPrologue s)).1 = false := by
    rw [motionGate_adapt defaultBuild h.prologue.motion h.prologue.gate]
  exact h.of_signals (signals_vitalsProcess defaultBuild s) (calmWindows_of_calm hgate).1

theorem NoAccel.call (h : NoAccel s) {c : Call} (hc : isAccel c = false) : NoAccel (callStep defaultBuild s c) := by
  cases c with
  | accel x y z => exact absurd hc.symm Bool.false_ne_true
  | init => exact NoAccel.start s
  | sens mv timeUs =>
    rw [callStep, vitalsPushSensInMvAt_default]
    generalize (shHighPass s.sensHp mv.toNat).2 = hp
    obtain ⟨events, armed, hnoted⟩ := noteSensEdge_eq { s with
      ts := noteTimestamp s.ts timeUs
      status := { s.status with sensMv := mv.toNat }
      sensHp := (shHighPass s.sensHp mv.toNat).1
      resp := shRespPush s.resp mv.toNat
      sens := s.sens.push hp
      bio := shBioPush s.bio hp } hp
    rw [hnoted]
    exact ⟨h.motion, h.gate, h.haveAccel, h.energy⟩
  | process => exact h.process
  | onSensSample =>
    simp only [callStep]
    unfold vitalsOnSensSample
    dsimp only
    split
    · exact (h.zeroed 0).process
    · exact h.zeroed _
  | dropped | pirEvent | takeFall => exact ⟨h.motion, h.gate, h.haveAccel, h.energy⟩

theorem replies_adapt (h : NoAccel s) {calls : List Call} (hcalls : ∀ c ∈ calls, isAccel c = false) :
    replies adaptBuild s calls = replies defaultBuild s calls := by
  induction calls generalizing s with
  | nil => rfl
  | cons c calls ih =>
    obtain ⟨hc, hrest⟩ := List.forall_mem_cons.mp hcalls
    rw [replies, replies, callStep_adapt h hc, ih (h.call hc) hrest]

end Runs

theorem motion_adapt_inert (s s' : State) (calls : List Call) (hcalls : ∀ c ∈ calls, isAccel c = false) :
    replies adaptBuild (vitalsInit s) calls = replies defaultBuild (vitalsInit s') calls := by
  rw [replies_adapt (NoAccel.start s) hcalls]
  exact (Forgot.start s s').replies calls

theorem motion_adapt_inert_window :
    replies adaptBuild (vitalsInit boot) [.sens 1200 0, .sens 1300 40000, .onSensSample, .process, .takeFall] =
      replies defaultBuild (vitalsInit boot) [.sens 1200 0, .sens 1300 40000, .onSensSample, .process, .takeFall] :=
  motion_adapt_inert boot boot _ (by decide)

end SmartHelmet.Vitals
