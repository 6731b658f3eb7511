import SmartHelmet.VitalsTape

namespace SmartHelmet.Firmware

open Relation
open Vitals (Call)

def callObs (s : Vitals.State) (line : List UInt8) : Call → List Obs
  | .init => [.restart]
  | .accel x y z => [.accel (Vitals.accelMag x y z)]
  | .takeFall => [.report s.fallPending line]
  | _ => []

def callState (b : Config.Build) (s : Vitals.State) (c : Call) : Vitals.State :=
  ((Vitals.Run.mk s []).step b c).state

def namesFall (fall : Bool) (line : List UInt8) : Prop := bytes ("fall:" ++ yesNo fall) <:+: line

inductive Drive (b : Config.Build) : Tape → Tape → Prop
  | call (t : Tape) (c : Call) (line : List UInt8) (hline : namesFall t.state.fallPending line) :
    Drive b t ⟨callState b t.state c, callObs t.state line c ++ t.log⟩

def Drives (b : Config.Build) : Tape → Tape → Prop := ReflTransGen (Drive b)

variable {b : Config.Build}

theorem Drives.of_eq {s t : Tape} (h : t = s) : Drives b s t := by
  rw [h]
  exact ReflTransGen.refl

theorem Drives.call {t : Tape} (c : Call) (hc : c ≠ .takeFall) :
    Drives b t ⟨callState b t.state c, callObs t.state [] c ++ t.log⟩ := by
  have hdrive := Drive.call (b := b) t c (bytes ("fall:" ++ yesNo t.state.fallPending)) (List.infix_refl _)
  have hobs : callObs t.state (bytes ("fall:" ++ yesNo t.state.fallPending)) c = callObs t.state [] c := by
    cases c <;> first | rfl | exact absurd rfl hc
  rw [hobs] at hdrive
  exact ReflTransGen.single hdrive

section Text

theorem startsWith_shAppend (line : List UInt8) (s : String) : line <+: shAppend line s :=
  List.prefix_append _ _

theorem startsWith_shAppendX100 (line : List UInt8) (v : ℤ) : line <+: shAppendX100 line v := by
  have hsign : line <+: (if v < 0 then shAppend line "-" else line) := by
    split
    · exact startsWith_shAppend line _
    · exact List.prefix_refl _
  unfold shAppendX100 shAppendU
  dsimp only
  refine hsign.trans ?_
  exact (startsWith_shAppend _ _).trans ((startsWith_shAppend _ _).trans
    ((startsWith_shAppend _ _).trans (startsWith_shAppend _ _)))

theorem startsWith_appendX100Or (line : List UInt8) (ok : Bool) (v : ℤ) (unit : String) :
    line <+: appendX100Or line ok v unit := by
  unfold appendX100Or
  split
  · exact (startsWith_shAppendX100 _ _).trans (startsWith_shAppend _ _)
  · exact startsWith_shAppend _ _

def reportHead (moving restart fall : Bool) : List UInt8 :=
  shAppend (shAppend (shAppend (shAppend (shAppend (shAppend [] "motion:")
    (if moving then "moving" else "still")) "\r\nrestart:") (yesNo restart)) "\r\nfall:") (yesNo fall)

theorem startsWith_reportLine (h : Helmet) (restart fall : Bool) (co nh3 no2 : ℕ) :
    reportHead h.motionHolding restart fall <+: reportLine h restart fall co nh3 no2 := by
  unfold reportLine
  dsimp only
  have hvoc (line : List UInt8) : line <+: (if h.sensors.ccs811Ok = true then
      shAppend (shAppendU line h.sensors.ccs811Tvoc) "ppb" else shAppend line "na") := by
    split
    · exact (startsWith_shAppend _ _).trans (startsWith_shAppend _ _)
    · exact startsWith_shAppend _ _
  iterate 2 refine List.IsPrefix.trans ?_ (startsWith_shAppend _ _)
  refine List.IsPrefix.trans ?_ (startsWith_shAppendX100 _ _)
  iterate 7 refine List.IsPrefix.trans ?_ (startsWith_shAppend _ _)
  refine List.IsPrefix.trans ?_ (hvoc _)
  iterate 3
    refine List.IsPrefix.trans ?_ (startsWith_shAppend _ _)
    refine List.IsPrefix.trans ?_ (startsWith_appendX100Or _ _ _ _)
  iterate 3 refine List.IsPrefix.trans ?_ (startsWith_shAppend _ _)
  exact List.prefix_refl _

theorem namesFall_reportLine (h : Helmet) (restart fall : Bool) (co nh3 no2 : ℕ) :
    namesFall fall (reportLine h restart fall co nh3 no2) := by
  have hhead (moving : Bool) : namesFall fall (reportHead moving restart fall) := by
    unfold namesFall
    cases moving <;> cases restart <;> cases fall <;> decide
  exact (hhead h.motionHolding).trans (startsWith_reportLine h restart fall co nh3 no2).isInfix

end Text

section Calls

variable (w : World) (e : Env) (h : Helmet)

theorem vitalsInit_drives : Drives w.build (tape h) (tape h.vitalsInit) :=
  Drives.call .init (by simp)

theorem vitalsPushAccel_drives (x y z : Int16) :
    Drives w.build (tape h) (tape (h.vitalsPushAccel w x y z)) :=
  Drives.call (.accel x y z) (by simp)

theorem vitalsProcess_drives : Drives w.build (tape h) (tape (h.vitalsProcess w)) :=
  Drives.call .process (by simp)

theorem callState_onSensSample (s : Vitals.State) :
    callState b s .onSensSample = Vitals.vitalsOnSensSample b s :=
  Vitals.step_onSensSample_state b ⟨s, []⟩

theorem shAdcFeedVitalsSens_drives (mv : UInt16) :
    Drives w.build (tape h) (tape (shAdcFeedVitalsSens w e mv h)) := by
  have hsens : Drives w.build (tape h) _ := Drives.call (.sens mv e.timeUs) (by simp)
  have hdone : Drives w.build
      ⟨Vitals.vitalsPushSensInMvAt w.build h.vitals mv e.timeUs, h.log.filter Obs.isVital⟩ _ :=
    Drives.call .onSensSample (by simp)
  rw [callState_onSensSample] at hdone
  exact hsens.trans hdone

theorem reportBuild_drives : Drives w.build (tape h) (tape (reportBuild h).1) := by
  have hline : namesFall (latchMotion h).vitals.fallPending (reportBuild h).2 :=
    namesFall_reportLine _ _ _ _ _ _
  have hdrive := Drive.call (b := w.build) (tape (latchMotion h)) .takeFall (reportBuild h).2 hline
  have htape : tape (latchMotion h) = tape h := by
    obtain ⟨holding, quiet, since, hlatch⟩ := latchMotion_eq h
    rw [hlatch]
    rfl
  rw [← htape]
  exact ReflTransGen.single hdrive

theorem reportSample_drives : Drives w.build (tape h) (tape (reportSample w e h)) := by
  unfold reportSample
  dsimp only
  split
  · exact (vitalsPushAccel_drives w (sensorsPoll e h) _ _ _).trans (vitalsProcess_drives w _)
  · exact ReflTransGen.refl

theorem tape_sendFrames (frames : List (List UInt8)) :
    ∀ h : Helmet, tape (sendFrames w frames h).1 = tape h := by
  induction frames with
  | nil => exact fun h => rfl
  | cons frame frames ih =>
    intro h
    unfold sendFrames
    dsimp only
    split
    · exact ih _
    · rfl

theorem reportStart_drives : Drives w.build (tape h) (tape (reportStart w e h)) := by
  unfold reportStart
  split
  · dsimp only
    have hbuilt := (reportSample_drives w e h).trans (reportBuild_drives w (reportSample w e h))
    generalize reportBuild (reportSample w e h) = built at hbuilt ⊢
    refine hbuilt.trans (Drives.of_eq ?_)
    have hsent := tape_uartNoteReportSent w e (sendFrames w (reportFrames built.2) built.1).1
      (sendFrames w (reportFrames built.2) built.1).2
    exact hsent.trans (tape_sendFrames w _ _)
  · exact reportBuild_drives w h

theorem logFeed_drives (x y z : Int16) : Drives w.build (tape h) (tape (logFeed w x y z h)) :=
  (vitalsPushAccel_drives w { h with sensors := { h.sensors with x := x, y := y, z := z } } x y z).trans
    (vitalsProcess_drives w _)

theorem shLis3dhLogSample_drives : Drives w.build (tape h) (tape (shLis3dhLogSample w e h)) := by
  unfold shLis3dhLogSample
  split
  · exact ReflTransGen.refl
  · next r _ =>
    refine (logFeed_drives w h r.mg.1 r.mg.2.1 r.mg.2.2).trans ?_
    generalize logFeed w r.mg.1 r.mg.2.1 r.mg.2.2 h = fed
    unfold logChange
    split
    · rw [← tape_sensors fed { fed.sensors with logLast := fed.vitals.status.motion }]
      exact reportStart_drives w e _
    · exact ReflTransGen.refl

theorem afterSensors_drives : Drives w.build (tape h) (tape (afterSensors w e h)) := by
  unfold afterSensors
  split
  · exact reportStart_drives w e h
  · exact ReflTransGen.refl

theorem motionPoll_drives : Drives w.build (tape h) (tape (motionPoll w e h)) := by
  unfold motionPoll
  split
  · exact ReflTransGen.refl
  · dsimp only
    split
    · exact vitalsPushAccel_drives w (noteMotionStep (sensorsPollLis3dh e h)) _ _ _
    · exact ReflTransGen.refl

theorem adcSensTick_drives : Drives w.build (tape h) (tape (adcSensTick h)) := by
  have hrequest : Drives w.build (tape h) (tape (adcRequestSensIn h)) := by
    unfold adcRequestSensIn
    split
    · exact ReflTransGen.refl
    · split
      · exact Drives.call .dropped (by simp)
      · exact ReflTransGen.refl
  unfold adcSensTick
  dsimp only
  split <;> exact hrequest

theorem adcResult_drives (source : AdcSource) (reading : UInt16) :
    Drives w.build (tape h) (tape (adcResult w e source reading h)) := by
  unfold adcResult
  split
  · exact ReflTransGen.refl
  · split
    · split
      · exact ReflTransGen.refl
      · exact shAdcFeedVitalsSens_drives w e { h with adc := _ } _
    · split
      · exact Drives.of_eq (tape_shAdcRequestNextFull _)
      · exact ReflTransGen.refl

end Calls

end SmartHelmet.Firmware
