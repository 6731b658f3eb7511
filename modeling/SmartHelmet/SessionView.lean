import SmartHelmet.ModuleTask

/-!
The part of the module task that a power session owns: the power flags, the motion latch,
the timers of the poll, the converter and the log, and the motion fields reported so far.
The link and the vitals work beside it.
-/

namespace SmartHelmet.Firmware

open MachineArith

def saysMoving (line : List UInt8) : Bool := (bytes "motion:moving").isPrefixOf line

def Obs.moving? : Obs → Option Bool
  | .report _ line => some (saysMoving line)
  | _ => none

/-- The reported fields are newest first. -/
structure Session where
  ready : Bool
  powered : Bool
  since : Bool
  holding : Bool
  quiet : ℕ
  prev : Option (Int16 × Int16 × Int16)
  polls : ℕ
  scans : ℕ
  senses : ℕ
  logs : ℕ
  linkTask : Bool
  probeTask : Bool
  adcTask : Bool
  reports : List Bool

def session (h : Helmet) : Session where
  ready := h.ready
  powered := h.powered
  since := h.motionSinceReport
  holding := h.motionHolding
  quiet := h.motionQuietReports
  prev := h.pollPrev
  polls := h.pending .motionPoll
  scans := h.pending .adcScan
  senses := h.pending .adcSens
  logs := h.pending .logTick
  linkTask := h.link.task
  probeTask := h.sensors.probeTask
  adcTask := h.adc.task
  reports := h.log.filterMap Obs.moving?

/-- `SmartHelmet_AdcStop` before the first `SmartHelmet_AdcInit` leaves the queue alone. -/
def Session.stopAdc (s : Session) : Session :=
  { s with scans := if s.adcTask then 0 else s.scans, senses := if s.adcTask then 0 else s.senses }

/-- The messages whose number does not belong to the session. -/
def Msg.aside : Msg → Bool
  | .reportTick | .i2cRetry | .rxPoll | .linkCheck => true
  | _ => false

section Queue

variable {m : Msg} (h : Helmet)

theorem session_update (hm : m.aside = true) (n : ℕ) :
    session { h with pending := Function.update h.pending m n } = session h := by
  have hne (k : Msg) (hk : k.aside = false) : Function.update h.pending m n k = h.pending k := by
    apply Function.update_of_ne
    rintro rfl
    rw [hm] at hk
    exact Bool.false_ne_true hk.symm
  simp [session, hne .motionPoll rfl, hne .adcScan rfl, hne .adcSens rfl, hne .logTick rfl]

theorem session_cancelAll (hm : m.aside = true) : session (h.cancelAll m) = session h :=
  session_update h hm 0

theorem session_sendLater (hm : m.aside = true) : session (h.sendLater m) = session h :=
  session_update h hm _

theorem session_deliver (hm : m.aside = true) : session (h.deliver m) = session h :=
  session_update h hm _

theorem session_note {o : Obs} (ho : o.moving? = none) : session (h.note o) = session h := by
  simp [session, Helmet.note, ho]

theorem session_log {o : Obs} (ho : o.moving? = none) (n : ℕ) :
    session { h with writes := n, log := o :: h.log } = session h := by
  simp [session, ho]

@[simp]
theorem session_reportStop : session (reportStop h) = session h := session_cancelAll h rfl

@[simp]
theorem session_reportArm : session (reportArm h) = session h := by
  rw [reportArm, session_sendLater _ rfl, session_cancelAll _ rfl]

@[simp]
theorem session_shWisunArm : session (shWisunArm h) = session h := by
  unfold shWisunArm
  split
  · rw [session_sendLater _ rfl, session_cancelAll _ rfl]
  · rfl

@[simp]
theorem session_shRxPollArm : session (shRxPollArm h) = session h := by
  unfold shRxPollArm
  split
  · rw [session_sendLater _ rfl, session_cancelAll _ rfl]
  · rfl

end Queue

section Commands

variable (w : World) (e : Env) (h : Helmet)

@[simp]
theorem session_uartSend (kind : Tx) (frame : List UInt8) : session (uartSend w kind frame h).1 = session h :=
  session_log h rfl _

@[simp]
theorem session_shWisunSendProbe (cmd : String) : session (shWisunSendProbe w cmd h) = session h :=
  session_uartSend w h .command (commandFrame cmd)

@[simp]
theorem session_dropOnline : session (dropOnline h) = session h := by
  unfold dropOnline
  dsimp only
  split
  · exact session_note _ rfl
  · rfl

@[simp]
theorem session_leavePassthrough (next : Step) : session (leavePassthrough w next h) = session h := by
  rw [leavePassthrough, session_shWisunArm, session_shWisunSendProbe]
  rfl

@[simp]
theorem session_uartRejoin : session (uartRejoin w e h) = session h := by
  unfold uartRejoin
  split
  · rfl
  · split
    · rfl
    · dsimp only
      rw [session_leavePassthrough, session_reportStop]
      exact session_dropOnline _

@[simp]
theorem session_uartNoteReportSent (ok : Bool) : session (uartNoteReportSent w e ok h) = session h := by
  unfold uartNoteReportSent
  split
  · rw [session_uartRejoin, session_dropOnline]
  · split
    · dsimp only
      split
      · exact session_uartRejoin w e _
      · rfl
    · rfl

@[simp]
theorem session_uartStopVerify : session (uartStopVerify h) = session h := by
  have hcancel : session (h.cancelAll .linkCheck) = session h := session_cancelAll h rfl
  unfold uartStopVerify
  dsimp only
  split
  · exact hcancel
  · rfl

theorem session_uartClose : session (uartClose w h) = session h := by
  unfold uartClose
  dsimp only
  generalize hexit : (if h.link.opened = true then shWisunSendProbe w "exit" h else h) = left
  have hleft : session left = session h := by
    rw [← hexit]
    split
    · exact session_shWisunSendProbe w h "exit"
    · rfl
  generalize hstop : uartStopVerify { left with link := { left.link with passthrough := false } } = stopped
  have hstopped : session stopped = session h := by
    rw [← hstop, session_uartStopVerify, ← hleft]
    rfl
  have hcancel : session (Helmet.cancelAll .linkCheck (stopped.cancelAll .rxPoll)) = session stopped := by
    rw [session_cancelAll _ rfl, session_cancelAll _ rfl]
  rw [← hstopped]
  split
  · exact hcancel
  · rfl

theorem session_uartSleep : session (uartSleep w h) = session h := by
  unfold uartSleep
  dsimp only
  rw [session_uartClose]
  have hstopped := session_uartStopVerify h
  generalize uartStopVerify h = stopped at hstopped ⊢
  rw [← hstopped]
  split
  · exact session_uartSend w { stopped with link := { stopped.link with passthrough := false } } .command
      (commandFrame "exit")
  · rfl

theorem session_uartInit : session (uartInit e h) = { session h with linkTask := true } := by
  unfold uartInit
  dsimp only
  split
  · rfl
  · split
    · exact session_sendLater _ rfl
    · rfl

@[simp]
theorem session_uartStartVerify : session (uartStartVerify w h) = session h := by
  rw [uartStartVerify, session_leavePassthrough]
  rfl

@[simp]
theorem session_shOnCmdTooLong : session (shOnCmdTooLong w h) = session h := by
  unfold shOnCmdTooLong
  dsimp only
  have hstop : session (reportStop { h with link := { h.link with passthrough := false } }) = session h :=
    session_reportStop _
  split
  · split
    · exact hstop
    · rw [session_leavePassthrough]
      exact hstop
  · exact hstop

end Commands

section Receive

variable (w : World) (e : Env) (h : Helmet)

@[simp]
theorem session_vitalsInit : session h.vitalsInit = session h := session_note _ rfl

@[simp]
theorem session_vitalsPushAccel (x y z : Int16) : session (h.vitalsPushAccel w x y z) = session h :=
  session_note _ rfl

theorem session_noteRestart : session (noteRestart h) = session h := session_vitalsInit _

theorem session_shRxLineFlush : session (shRxLineFlush w h) = session h := by
  unfold shRxLineFlush
  split
  · rfl
  · dsimp only
    split
    · exact session_shOnCmdTooLong w h
    · rfl

theorem session_shRxByte (b : UInt8) : session (shRxByte w h b) = session h := by
  unfold shRxByte
  split
  · rw [session_shRxLineFlush]
    split
    · exact session_noteRestart h
    · rfl
  · split
    · rfl
    · dsimp only
      split
      · exact session_shRxLineFlush w h
      · rfl

theorem session_shRxLinePush (data : List UInt8) : ∀ h : Helmet, session (shRxLinePush w data h) = session h := by
  induction data with
  | nil => exact fun _ => rfl
  | cons b data ih => exact fun h => (ih _).trans (session_shRxByte w h b)

theorem session_noteSendFail : session (noteSendFail w e h) = session h := by
  unfold noteSendFail
  dsimp only
  rw [session_uartRejoin]
  exact session_dropOnline h

theorem session_noteSendOk : session (noteSendOk h) = session h := by
  have hkeep (l : Link) (hl : l.task = h.link.task) : session { h with link := l } = session h := by
    simp [session, hl]
  unfold noteSendOk
  dsimp only
  split
  · split
    · exact hkeep _ rfl
    · exact hkeep _ rfl
  · rw [session_note _ rfl]
    split
    · exact hkeep _ rfl
    · exact hkeep _ rfl

theorem session_shWisunNoteRx (data : List UInt8) : session (shWisunNoteRx w e data h) = session h := by
  unfold shWisunNoteRx
  split
  · rfl
  · dsimp only
    generalize hnoted : ({ h with link := { h.link with wisun := noteModule data h.link } } : Helmet) = noted
    have hview : session noted = session h := by
      rw [← hnoted]
      rfl
    rw [← hview]
    have hrest (t : Helmet) (ht : session t = session noted) :
        session (if shContainsFold data "RESTART_SENSOR" = true then noteRestart t else t) = session noted := by
      split
      · rw [session_noteRestart, ht]
      · exact ht
    apply hrest
    split
    · exact session_noteSendFail w e noted
    · split
      · exact session_noteSendOk noted
      · rfl

theorem session_armAfterRx : session (armAfterRx h) = session h := by
  have hbanner : session (shResetNoteBanner h) = session h := by
    unfold shResetNoteBanner
    dsimp only
    split
    · exact session_shWisunArm _
    · rfl
  unfold armAfterRx
  split
  · dsimp only
    split
    · exact hbanner
    · rw [session_shWisunArm]
      exact hbanner
  · split
    · exact session_shWisunArm h
    · rfl

theorem session_shUartConsume (chunk : List UInt8) : session (shUartConsume w e h chunk) = session h := by
  unfold shUartConsume
  dsimp only
  rw [session_armAfterRx, session_shRxLinePush, session_shWisunNoteRx]
  rfl

theorem session_shUartDrain (chunks : List (List UInt8)) : session (shUartDrain w e chunks h) = session h := by
  have hfold : ∀ t : Helmet, session (chunks.foldl (shUartConsume w e) t) = session t := by
    induction chunks with
    | nil => exact fun _ => rfl
    | cons chunk chunks ih => exact fun t => (ih _).trans (session_shUartConsume w e t chunk)
  unfold shUartDrain
  split
  · exact hfold h
  · rfl

end Receive

section Dialogue

variable (w : World) (h : Helmet)

theorem session_shProvSendCurrent : session (shProvSendCurrent w h) = session h := by
  unfold shProvSendCurrent
  split
  · exact (session_shWisunArm _).trans (session_shWisunSendProbe w _ _)
  · exact (session_shWisunArm _).trans (session_shWisunSendProbe w _ _)

theorem session_shAtFinish : session (shAtFinish w h) = session h := by
  unfold shAtFinish
  dsimp only
  rw [session_leavePassthrough]
  split
  · exact session_update (m := .linkCheck) h rfl 0
  · rfl

theorem session_shAtSendCurrent : session (shAtSendCurrent w h) = session h := by
  unfold shAtSendCurrent
  split
  · exact session_shAtFinish w h
  · rw [session_shWisunArm, session_shWisunSendProbe]
    rfl

theorem session_onResetTimeout : session (onResetTimeout w h) = session h := by
  unfold onResetTimeout
  split
  · split
    · exact session_shAtSendCurrent w _
    · exact (session_shWisunArm _).trans (session_shWisunSendProbe w _ _)
  · split
    · exact (session_shWisunArm _).trans (session_shWisunSendProbe w _ _)
    · exact session_shAtFinish w _

theorem session_onProvReadTimeout : session (onProvReadTimeout w h) = session h := by
  unfold onProvReadTimeout
  dsimp only
  split
  · exact session_shAtSendCurrent w _
  · exact session_shProvSendCurrent w _

theorem session_onProvSetTimeout : session (onProvSetTimeout w h) = session h := by
  unfold onProvSetTimeout
  split
  · exact (session_shWisunArm _).trans (session_shWisunSendProbe w _ _)
  · exact session_shProvSendCurrent w _

theorem session_onLeaveTimeout : session (onLeaveTimeout w h) = session h := by
  unfold onLeaveTimeout
  split
  · exact session_shWisunArm _
  · exact (session_shWisunArm _).trans (session_shWisunSendProbe w _ _)

theorem session_onDestTimeout : session (onDestTimeout w h) = session h :=
  (session_shWisunArm _).trans (session_shWisunSendProbe w _ _)

theorem session_onCmdTimeout : session (onCmdTimeout w h) = session h := session_shAtSendCurrent w _

end Dialogue

section Sensors

variable (w : World) (e : Env) (h : Helmet)

theorem session_sensors {s : Sensors} (hs : s.probeTask = h.sensors.probeTask) :
    session { h with sensors := s } = session h := by
  simp [session, hs]

theorem probeTask_pollLis3dh (raw : Option RawAccel) (s : Sensors) :
    (pollLis3dh raw s).probeTask = s.probeTask := by
  unfold pollLis3dh
  split
  · split <;> rfl
  · rfl

theorem session_sensorsPollLis3dh : session (sensorsPollLis3dh e h) = session h :=
  session_sensors h (probeTask_pollLis3dh _ _)

theorem session_sensorsPoll : session (sensorsPoll e h) = session h := by
  have hccs (s : Sensors) : (pollCcs811 e.ccs811Result s).probeTask = s.probeTask := by
    unfold pollCcs811
    split
    · split <;> rfl
    · rfl
  have hhdc (s : Sensors) : (pollHdc1080 e.hdc1080Sample s).probeTask = s.probeTask := by
    unfold pollHdc1080
    split
    · split <;> rfl
    · rfl
  have hmlx (s : Sensors) : (pollMlx90614 e.mlxTa e.mlxTobj1 s).probeTask = s.probeTask := by
    unfold pollMlx90614
    split <;> rfl
  apply session_sensors
  rw [hmlx, hhdc, probeTask_pollLis3dh, hccs]

theorem session_shSensorsScheduleRetry : session (shSensorsScheduleRetry h) = session h := by
  unfold shSensorsScheduleRetry
  split
  · rw [session_sendLater _ rfl, session_cancelAll _ rfl]
  · rfl

theorem session_sensorsStartVerify : session (sensorsStartVerify h) = { session h with probeTask := true } := by
  unfold sensorsStartVerify
  dsimp only
  split
  · rfl
  · exact session_shSensorsScheduleRetry _

theorem session_sensorsStopVerify : session (sensorsStopVerify h) = { session h with probeTask := false } := by
  unfold sensorsStopVerify
  dsimp only
  split
  · exact congrArg (fun s : Session => { s with probeTask := false })
      (session_cancelAll (m := .i2cRetry) h rfl)
  · rfl

theorem session_shSensorsVerifyPass : session (shSensorsVerifyPass e h) = session h := by
  unfold shSensorsVerifyPass
  dsimp only
  split
  · split
    · exact session_cancelAll _ rfl
    · rfl
  · exact session_shSensorsScheduleRetry _

theorem session_reportSample : session (reportSample w e h) = session h := by
  unfold reportSample
  dsimp only
  split
  · exact (session_vitalsPushAccel w _ _ _ _).trans (session_sensorsPoll e h)
  · exact session_sensorsPoll e h

theorem session_logFeed (x y z : Int16) : session (logFeed w x y z h) = session h :=
  session_vitalsPushAccel w _ x y z

end Sensors

section Adc

variable (w : World) (e : Env) (h : Helmet)

theorem session_requestPair (source : AdcSource) : session (requestPair source h) = session h := by
  rw [requestPair, session_note _ rfl, session_note _ rfl]

theorem session_shAdcRequestNextFull : session (shAdcRequestNextFull h) = session h := by
  unfold shAdcRequestNextFull
  split
  · rfl
  · exact session_requestPair h _

theorem session_adcRequestScan : session (adcRequestScan h) = session h := by
  unfold adcRequestScan
  split
  · exact session_shAdcRequestNextFull _
  · rfl

theorem session_adcRequestSensIn : session (adcRequestSensIn h) = session h := by
  unfold adcRequestSensIn
  split
  · rfl
  · split
    · rfl
    · exact session_requestPair _ _

theorem session_adcResult (source : AdcSource) (reading : UInt16) :
    session (adcResult w e source reading h) = session h := by
  have hstore (mv : ℕ) : (storeChannel h.adc mv).task = h.adc.task := by
    unfold storeChannel
    split <;> rfl
  unfold adcResult
  split
  · rfl
  · split
    · split <;> rfl
    · split
      · rw [session_shAdcRequestNextFull]
        simp [session, hstore]
      · rfl

theorem session_adcInit :
    session (adcInit h) = { session h with scans := 1, senses := 1, adcTask := true } := by
  simp [session, adcInit, Helmet.sendLater, Helmet.cancelAll]

theorem session_adcStop : session (adcStop h) = (session h).stopAdc := by
  unfold adcStop Session.stopAdc
  cases ht : h.adc.task with
  | true => simp [session, Helmet.cancelAll, ht]
  | false => simp [session, ht]

theorem session_cancelPoll : session (h.cancelAll .motionPoll) = { session h with polls := 0 } := by
  simp [session, Helmet.cancelAll]

end Adc

end SmartHelmet.Firmware
