import SmartHelmet.VitalsDrive

namespace SmartHelmet.Firmware

open Relation
open Vitals (Call)

variable (w : World) (e : Env) (h : Helmet)

section Receive

theorem tape_shRxLineFlush : tape (shRxLineFlush w h) = tape h := by
  unfold shRxLineFlush
  split
  · rfl
  · dsimp only
    rw [tape_link]
    split
    · exact tape_shOnCmdTooLong w h
    · rfl

theorem noteRestart_drives : Drives w.build (tape h) (tape (noteRestart h)) := vitalsInit_drives w _

theorem shRxByte_drives (byte : UInt8) : Drives w.build (tape h) (tape (shRxByte w h byte)) := by
  unfold shRxByte
  split
  · rw [tape_shRxLineFlush]
    split
    · exact noteRestart_drives w h
    · exact ReflTransGen.refl
  · split
    · exact ReflTransGen.refl
    · dsimp only
      rw [tape_link]
      split
      · exact Drives.of_eq (tape_shRxLineFlush w h)
      · exact ReflTransGen.refl

theorem shRxLinePush_drives (data : List UInt8) :
    ∀ h : Helmet, Drives w.build (tape h) (tape (shRxLinePush w data h)) := by
  induction data with
  | nil => exact fun h => ReflTransGen.refl
  | cons byte data ih => exact fun h => (shRxByte_drives w h byte).trans (ih _)

theorem tape_noteSendFail : tape (noteSendFail w e h) = tape h := by
  unfold noteSendFail
  dsimp only
  rw [tape_uartRejoin, tape_link, tape_dropOnline]

theorem tape_noteSendOk : tape (noteSendOk h) = tape h := by
  unfold noteSendOk
  dsimp only
  split <;> rfl

theorem shWisunNoteRx_drives (data : List UInt8) :
    Drives w.build (tape h) (tape (shWisunNoteRx w e data h)) := by
  unfold shWisunNoteRx
  split
  · exact ReflTransGen.refl
  · dsimp only
    generalize hnoted : ({ h with link := { h.link with wisun := noteModule data h.link } } : Helmet) = noted
    have hview : tape noted = tape h := by
      rw [← hnoted, tape_link]
    have hkeyword : tape (if shContainsFold data "send fail" = true then noteSendFail w e noted
        else if shContainsFold data "send ok" = true then noteSendOk noted else noted) = tape h := by
      rw [← hview]
      split
      · exact tape_noteSendFail w e noted
      · split
        · exact tape_noteSendOk noted
        · rfl
    generalize (if shContainsFold data "send fail" = true then noteSendFail w e noted
      else if shContainsFold data "send ok" = true then noteSendOk noted else noted) = heard at hkeyword ⊢
    rw [← hkeyword]
    split
    · exact noteRestart_drives w heard
    · exact ReflTransGen.refl

theorem tape_armAfterRx : tape (armAfterRx h) = tape h := by
  have hbanner : tape (shResetNoteBanner h) = tape h := by
    unfold shResetNoteBanner
    dsimp only
    split
    · rw [tape_shWisunArm, tape_link]
    · rfl
  unfold armAfterRx
  split
  · dsimp only
    split
    · exact hbanner
    · rw [tape_shWisunArm]
      exact hbanner
  · split
    · exact tape_shWisunArm h
    · rfl

theorem shUartConsume_drives (chunk : List UInt8) :
    Drives w.build (tape h) (tape (shUartConsume w e h chunk)) := by
  unfold shUartConsume
  dsimp only
  rw [tape_armAfterRx]
  generalize h.link.rxAsm ++ _ = asm
  exact (shWisunNoteRx_drives w e { h with link := { h.link with rxAsm := asm } } chunk).trans
    (shRxLinePush_drives w chunk _)

theorem consumes_drives (chunks : List (List UInt8)) :
    ∀ h : Helmet, Drives w.build (tape h) (tape (chunks.foldl (shUartConsume w e) h)) := by
  induction chunks with
  | nil => exact fun h => ReflTransGen.refl
  | cons chunk chunks ih => exact fun h => (shUartConsume_drives w e h chunk).trans (ih _)

theorem shUartDrain_drives (chunks : List (List UInt8)) :
    Drives w.build (tape h) (tape (shUartDrain w e chunks h)) := by
  unfold shUartDrain
  split
  · exact consumes_drives w e chunks h
  · exact ReflTransGen.refl

theorem shWisunOnTimeout_drives : Drives w.build (tape h) (tape (shWisunOnTimeout w e h)) := by
  unfold shWisunOnTimeout
  split
  · exact Drives.of_eq (tape_onResetTimeout w h)
  · exact Drives.of_eq (tape_onProvReadTimeout w h)
  · exact Drives.of_eq (tape_onProvSetTimeout w h)
  · exact Drives.of_eq (tape_onLeaveTimeout w h)
  · exact Drives.of_eq (tape_onDestTimeout w h)
  · rw [onPassTimeout_eq]
    dsimp only
    split
    · exact Drives.of_eq (by rw [tape_leavePassthrough, tape_link])
    · split
      · exact reportStart_drives w e { h with link := { h.link with
          step := .done
          passthrough := true
          wisun := { h.link.wisun with online := false } } }
      · exact ReflTransGen.refl
  · exact Drives.of_eq (tape_onCmdTimeout w h)
  · exact ReflTransGen.refl
  · exact ReflTransGen.refl

end Receive

section Power

theorem powerOn_drives : Drives w.build (tape h) (tape (powerOn w e h)) := by
  unfold powerOn
  split
  · exact ReflTransGen.refl
  · dsimp only
    generalize hup : sensorsStartVerify (sensorsInit e (adcInit { h with powered := true })) = up
    have hview : tape up = tape h := by
      rw [← hup, tape_sensorsStartVerify]
      rfl
    rw [← hview]
    have hverify : tape (adcRequestScan (uartStartVerify w (uartInit e up.vitalsInit))) =
        tape up.vitalsInit := by
      rw [tape_adcRequestScan, tape_uartStartVerify, tape_uartInit]
    have hreport := reportStart_drives w e (adcRequestScan (uartStartVerify w (uartInit e up.vitalsInit)))
    rw [hverify] at hreport
    exact (vitalsInit_drives w up).trans hreport

theorem tape_powerOff : tape (powerOff w h) = tape h := by
  unfold powerOff
  split
  · rfl
  · dsimp only
    rw [tape_adcStop, tape_uartSleep, sensorsSleep, tape_sensors, tape_sensorsStopVerify]
    rfl

theorem tape_close : tape (close w h) = tape h := by
  unfold close
  dsimp only
  have hclose := tape_uartClose w (adcStop (Helmet.cancelAll .motionPoll (reportStop (sensorsStopVerify h))))
  rw [tape_adcStop] at hclose
  exact hclose.trans (tape_sensorsStopVerify h)

theorem tape_init : tape (init w e h) = tape h := by
  have hclosed : tape (if h.ready = true then close w h else h) = tape h := by
    split
    · exact tape_close w h
    · rfl
  unfold init
  dsimp only
  split <;> exact hclosed

theorem uiRefresh_drives (state : ℕ) : Drives w.build (tape h) (tape (uiRefresh w e state h)) := by
  unfold uiRefresh
  split
  · exact powerOn_drives w e h
  · split
    · exact Drives.of_eq (tape_powerOff w h)
    · exact ReflTransGen.refl

theorem lis3dhChk_drives (enable : Bool) : Drives w.build (tape h) (tape (lis3dhChk w e enable h)) := by
  unfold lis3dhChk
  split
  · exact ReflTransGen.refl
  · split
    · rw [tape_shLis3dhLogArm]
      exact shLis3dhLogSample_drives w e h
    · exact ReflTransGen.refl

theorem onTimer_drives (m : Msg) (chunks : List (List UInt8)) :
    Drives w.build (tape h) (tape (onTimer w e m chunks h)) := by
  cases m with
  | reportTick => exact reportStart_drives w e h
  | motionPoll => exact motionPoll_drives w e h
  | i2cRetry =>
    rw [← tape_shSensorsVerifyPass e h]
    exact afterSensors_drives w e _
  | logTick =>
    refine (shLis3dhLogSample_drives w e h).trans ?_
    rw [← tape_shLis3dhLogArm]
    exact afterSensors_drives w e _
  | adcScan => exact Drives.of_eq (tape_adcScanTick h)
  | adcSens => exact adcSensTick_drives w h
  | rxPoll =>
    have harm (h' : Helmet) : tape (shRxPollArm h') = tape h' := by
      unfold shRxPollArm
      split <;> rfl
    rw [onTimer, harm]
    exact shUartDrain_drives w e h chunks
  | linkCheck => exact shWisunOnTimeout_drives w e h

theorem step_drives (ev : Event) : Drives w.build (tape h) (tape (step w h e ev)) := by
  cases ev with
  | init => exact Drives.of_eq (tape_init w e h)
  | powerOn => exact powerOn_drives w e h
  | powerOff => exact Drives.of_eq (tape_powerOff w h)
  | close => exact Drives.of_eq (tape_close w h)
  | uiRefresh state => exact uiRefresh_drives w e h state
  | lis3dhChk enable => exact lis3dhChk_drives w e h enable
  | timer m chunks =>
    by_cases hpending : 0 < h.pending m
    · rw [step, if_pos hpending]
      exact onTimer_drives w e (h.deliver m) m chunks
    · rw [step, if_neg hpending]
      exact ReflTransGen.refl
  | moreData chunks => exact shUartDrain_drives w e h chunks
  | adcResult source reading => exact adcResult_drives w e h source reading

end Power

theorem steps_drives (events : List (Env × Event)) :
    ∀ h : Helmet, Drives w.build (tape h) (tape (steps w h events)) := by
  induction events with
  | nil => exact fun h => ReflTransGen.refl
  | cons ev events ih => exact fun h => (step_drives w ev.1 h ev.2).trans (ih _)

theorem runHelmet_drives (events : List (Env × Event)) :
    Drives w.build (tape .boot) (tape (runHelmet w events)) := steps_drives w events .boot

theorem callState_run {b : Config.Build} (calls : List Call) (c : Call) :
    callState b (Vitals.run b calls).state c = (Vitals.run b (calls ++ [c])).state := by
  rw [Vitals.run_concat]
  generalize Vitals.run b calls = r
  cases c with
  | onSensSample => rw [callState_onSensSample, Vitals.step_onSensSample_state]
  | _ => rfl

/-- The vitals of a reachable firmware state are those of a run of their interface, so what
holds over all such runs holds in the firmware. -/
theorem vitals_of_runHelmet (events : List (Env × Event)) :
    ∃ calls, (runHelmet w events).vitals = (Vitals.run w.build calls).state := by
  have hkeep : ∀ t : Tape, Drives w.build (tape .boot) t →
      ∃ calls, t.state = (Vitals.run w.build calls).state := by
    intro t ht
    induction ht with
    | refl => exact ⟨[], rfl⟩
    | tail _ hlast ih =>
      obtain ⟨calls, hcalls⟩ := ih
      cases hlast with
      | call c line hline => exact ⟨calls ++ [c], by rw [hcalls, callState_run]⟩
  exact hkeep _ (runHelmet_drives w events)

end SmartHelmet.Firmware
