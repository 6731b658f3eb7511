import SmartHelmet.ModuleTask
import SmartHelmet.VitalsRuns

/-!
The vitals as the module task drives them: the state together with the part of the log that
its calls leave behind, and the functions that do not touch either.
-/

namespace SmartHelmet.Firmware

open Vitals (Call)

def Obs.isVital : Obs → Bool
  | .accel _ => true
  | .restart => true
  | .report _ _ => true
  | _ => false

structure Tape where
  state : Vitals.State
  log : List Obs

def tape (h : Helmet) : Tape := ⟨h.vitals, h.log.filter Obs.isVital⟩

section Link

variable (w : World) (e : Env) (h : Helmet)

@[simp]
theorem tape_link (l : Link) : tape { h with link := l } = tape h := rfl

@[simp]
theorem tape_shWisunSendProbe (cmd : String) : tape (shWisunSendProbe w cmd h) = tape h := rfl

@[simp]
theorem tape_shWisunArm : tape (shWisunArm h) = tape h := by
  unfold shWisunArm
  split <;> rfl

@[simp]
theorem tape_dropOnline : tape (dropOnline h) = tape h := by
  unfold dropOnline
  dsimp only
  split <;> rfl

@[simp]
theorem tape_leavePassthrough (next : Step) : tape (leavePassthrough w next h) = tape h := by
  rw [leavePassthrough, tape_shWisunArm, tape_shWisunSendProbe, tape_link]

theorem tape_uartRejoin : tape (uartRejoin w e h) = tape h := by
  unfold uartRejoin
  split
  · rfl
  · split
    · rfl
    · dsimp only
      rw [tape_leavePassthrough]
      exact tape_dropOnline _

theorem tape_uartNoteReportSent (ok : Bool) : tape (uartNoteReportSent w e ok h) = tape h := by
  unfold uartNoteReportSent
  split
  · rw [tape_uartRejoin, tape_dropOnline]
  · split
    · dsimp only
      split
      · exact tape_uartRejoin w e _
      · rfl
    · rfl

theorem tape_shOnCmdTooLong : tape (shOnCmdTooLong w h) = tape h := by
  unfold shOnCmdTooLong
  dsimp only
  split
  · split
    · rfl
    · rw [tape_leavePassthrough]
      rfl
  · rfl

@[simp]
theorem tape_uartStopVerify : tape (uartStopVerify h) = tape h := by
  unfold uartStopVerify
  dsimp only
  split <;> rfl

theorem tape_uartClose : tape (uartClose w h) = tape h := by
  unfold uartClose
  dsimp only
  generalize hexit : (if h.link.opened = true then shWisunSendProbe w "exit" h else h) = left
  have hleft : tape left = tape h := by
    rw [← hexit]
    split <;> rfl
  have hstop := tape_uartStopVerify { left with link := { left.link with passthrough := false } }
  generalize uartStopVerify { left with link := { left.link with passthrough := false } } = stopped at hstop ⊢
  rw [tape_link, ← hleft]
  split <;> exact hstop

theorem tape_uartSleep : tape (uartSleep w h) = tape h := by
  unfold uartSleep
  dsimp only
  rw [tape_uartClose, tape_link, ← tape_uartStopVerify h]
  split <;> rfl

theorem tape_uartInit : tape (uartInit e h) = tape h := by
  unfold uartInit
  dsimp only
  split
  · rfl
  · split <;> rfl

theorem tape_uartStartVerify : tape (uartStartVerify w h) = tape h := by
  rw [uartStartVerify, tape_leavePassthrough, tape_link]

end Link

section BringUp

variable (w : World) (h : Helmet)

theorem tape_shProvSendCurrent : tape (shProvSendCurrent w h) = tape h := by
  unfold shProvSendCurrent
  split <;> simp

theorem tape_shAtFinish : tape (shAtFinish w h) = tape h := by
  unfold shAtFinish
  dsimp only
  rw [tape_leavePassthrough, tape_link]
  split <;> rfl

theorem tape_shAtSendCurrent : tape (shAtSendCurrent w h) = tape h := by
  unfold shAtSendCurrent
  split
  · exact tape_shAtFinish w h
  · simp

theorem tape_onResetTimeout : tape (onResetTimeout w h) = tape h := by
  unfold onResetTimeout
  split
  · split
    · exact tape_shAtSendCurrent w _
    · simp
  · split
    · simp
    · exact tape_shAtFinish w _

theorem tape_onProvReadTimeout : tape (onProvReadTimeout w h) = tape h := by
  unfold onProvReadTimeout
  dsimp only
  split
  · exact tape_shAtSendCurrent w _
  · exact tape_shProvSendCurrent w _

theorem tape_onProvSetTimeout : tape (onProvSetTimeout w h) = tape h := by
  unfold onProvSetTimeout
  split
  · simp
  · exact tape_shProvSendCurrent w _

theorem tape_onLeaveTimeout : tape (onLeaveTimeout w h) = tape h := by
  unfold onLeaveTimeout
  split <;> simp

theorem tape_onDestTimeout : tape (onDestTimeout w h) = tape h := by
  simp [onDestTimeout]

theorem tape_onCmdTimeout : tape (onCmdTimeout w h) = tape h := tape_shAtSendCurrent w _

end BringUp

section Sensors

variable (e : Env) (h : Helmet)

@[simp]
theorem tape_sensors (s : Sensors) : tape { h with sensors := s } = tape h := rfl

theorem tape_shSensorsScheduleRetry : tape (shSensorsScheduleRetry h) = tape h := by
  unfold shSensorsScheduleRetry
  split <;> rfl

theorem tape_sensorsStartVerify : tape (sensorsStartVerify h) = tape h := by
  unfold sensorsStartVerify
  dsimp only
  split
  · rfl
  · exact tape_shSensorsScheduleRetry _

theorem tape_sensorsStopVerify : tape (sensorsStopVerify h) = tape h := by
  unfold sensorsStopVerify
  dsimp only
  split <;> rfl

theorem tape_shSensorsVerifyPass : tape (shSensorsVerifyPass e h) = tape h := by
  unfold shSensorsVerifyPass
  dsimp only
  split
  · split <;> rfl
  · exact tape_shSensorsScheduleRetry _

theorem tape_shLis3dhLogArm : tape (shLis3dhLogArm h) = tape h := by
  unfold shLis3dhLogArm
  split <;> rfl

theorem tape_shAdcRequestNextFull : tape (shAdcRequestNextFull h) = tape h := by
  unfold shAdcRequestNextFull
  split <;> rfl

theorem tape_adcStop : tape (adcStop h) = tape h := by
  unfold adcStop
  dsimp only
  split <;> rfl

theorem tape_adcRequestScan : tape (adcRequestScan h) = tape h := by
  unfold adcRequestScan
  split
  · exact tape_shAdcRequestNextFull _
  · rfl

theorem tape_adcScanTick : tape (adcScanTick h) = tape h := by
  unfold adcScanTick
  dsimp only
  split <;> exact tape_adcRequestScan h

end Sensors

end SmartHelmet.Firmware
