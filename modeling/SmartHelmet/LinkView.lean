import SmartHelmet.ModuleTask
import SmartHelmet.PassthroughPhases

namespace SmartHelmet.Firmware

def noteMode (frame : List UInt8) (old : Option Mode) : Option Mode :=
  if frame = commandFrame "exit" then some .exit
  else if frame = commandFrame "+++" then some .pass
  else old

def lastMode : List Obs → Option Mode
  | [] => none
  | .tx .command frame _ :: log => noteMode frame (lastMode log)
  | _ :: log => lastMode log

/-- Some payload was written while the last mode command was not `+++`. -/
def misdirected : List Obs → Bool
  | [] => false
  | .tx .payload _ _ :: log => misdirected log || decide (lastMode log ≠ some .pass)
  | _ :: log => misdirected log

def Obs.isTx : Obs → Bool
  | .tx _ _ _ => true
  | _ => false

theorem lastMode_cons_of_not_tx {o : Obs} (ho : o.isTx = false) (log : List Obs) :
    lastMode (o :: log) = lastMode log := by
  cases o <;> first | rfl | cases ho

theorem misdirected_cons_of_not_tx {o : Obs} (ho : o.isTx = false) (log : List Obs) :
    misdirected (o :: log) = misdirected log := by
  cases o <;> first | rfl | cases ho

theorem lastMode_of_misdirected {newer older : List Obs} {frame : List UInt8} {ok : Bool}
    (h : misdirected (newer ++ .tx .payload frame ok :: older) = false) :
    lastMode older = some .pass := by
  induction newer with
  | nil => simpa [misdirected] using (Bool.or_eq_false_iff.mp h).2
  | cons o newer ih =>
    apply ih
    rw [List.cons_append] at h
    cases o with
    | tx kind frame' ok' =>
      cases kind with
      | command => exact h
      | payload => exact (Bool.or_eq_false_iff.mp h).1
    | _ => exact h

def view (h : Helmet) : Phase where
  passthrough := h.link.passthrough
  step := h.link.step
  ticking := decide (0 < h.pending .reportTick)
  told := lastMode h.log
  misdirected := misdirected h.log

section Queue

variable {m : Msg} (h : Helmet)

theorem view_cancelAll (hm : m ≠ .reportTick) : view (h.cancelAll m) = view h := by
  simp [view, Helmet.cancelAll, Function.update_of_ne hm.symm]

theorem view_sendLater (hm : m ≠ .reportTick) : view (h.sendLater m) = view h := by
  simp [view, Helmet.sendLater, Function.update_of_ne hm.symm]

theorem view_deliver (hm : m ≠ .reportTick) : view (h.deliver m) = view h := by
  simp [view, Helmet.deliver, Function.update_of_ne hm.symm]

theorem view_note {o : Obs} (ho : o.isTx = false) : view (h.note o) = view h := by
  unfold view Helmet.note
  dsimp only
  rw [lastMode_cons_of_not_tx ho, misdirected_cons_of_not_tx ho]

theorem view_reportStop : view (reportStop h) = { view h with ticking := false } := by
  simp [view, reportStop, Helmet.cancelAll]

theorem view_reportArm : view (reportArm h) = (view h).armed := by
  simp [view, reportArm, Helmet.sendLater, Helmet.cancelAll, Phase.armed]

theorem view_deliver_armed : (view (h.deliver m)).armed = (view h).armed := rfl

@[simp]
theorem view_shWisunArm : view (shWisunArm h) = view h := by
  unfold shWisunArm
  split
  · rw [view_sendLater _ (by decide), view_cancelAll _ (by decide)]
  · rfl

theorem view_shRxPollArm : view (shRxPollArm h) = view h := by
  unfold shRxPollArm
  split
  · rw [view_sendLater _ (by decide), view_cancelAll _ (by decide)]
  · rfl

theorem view_dropOnline : view (dropOnline h) = view h := by
  unfold dropOnline
  dsimp only
  split
  · exact view_note _ rfl
  · rfl

end Queue

section Vitals

variable (w : World) (h : Helmet)

@[simp]
theorem view_vitalsInit : view h.vitalsInit = view h := view_note _ rfl

@[simp]
theorem view_vitalsPushAccel (x y z : Int16) : view (h.vitalsPushAccel w x y z) = view h :=
  view_note _ rfl

@[simp]
theorem view_vitalsProcess : view (h.vitalsProcess w) = view h := rfl

end Vitals

section Adc

variable (h : Helmet)

theorem view_requestPair (source : AdcSource) : view (requestPair source h) = view h := by
  rw [requestPair, view_note _ rfl, view_note _ rfl]

theorem view_shAdcRequestNextFull : view (shAdcRequestNextFull h) = view h := by
  unfold shAdcRequestNextFull
  split
  · rfl
  · exact view_requestPair h _

theorem view_adcInit : view (adcInit h) = view h := by
  unfold adcInit
  dsimp only
  rw [view_sendLater _ (by decide), view_sendLater _ (by decide), view_cancelAll _ (by decide),
    view_cancelAll _ (by decide)]
  rfl

theorem view_adcStop : view (adcStop h) = view h := by
  have hcancel : view (Helmet.cancelAll .adcSens (h.cancelAll .adcScan)) = view h := by
    rw [view_cancelAll _ (by decide), view_cancelAll _ (by decide)]
  unfold adcStop
  dsimp only
  split
  · exact hcancel
  · rfl

theorem view_adcRequestScan : view (adcRequestScan h) = view h := by
  unfold adcRequestScan
  split
  · exact view_shAdcRequestNextFull _
  · rfl

theorem view_adcRequestSensIn : view (adcRequestSensIn h) = view h := by
  unfold adcRequestSensIn
  split
  · rfl
  · split
    · rfl
    · exact view_requestPair _ _

theorem view_adcScanTick : view (adcScanTick h) = view h := by
  unfold adcScanTick
  dsimp only
  split
  · rw [view_sendLater _ (by decide), view_adcRequestScan]
  · exact view_adcRequestScan h

theorem view_adcSensTick : view (adcSensTick h) = view h := by
  unfold adcSensTick
  dsimp only
  split
  · rw [view_sendLater _ (by decide), view_adcRequestSensIn]
  · exact view_adcRequestSensIn h

theorem view_adcResult (w : World) (e : Env) (source : AdcSource) (reading : UInt16) :
    view (adcResult w e source reading h) = view h := by
  unfold adcResult
  split
  · rfl
  · split
    · split <;> rfl
    · split
      · exact view_shAdcRequestNextFull _
      · rfl

end Adc

section Sensors

variable (e : Env) (h : Helmet)

theorem view_sensors (s : Sensors) : view { h with sensors := s } = view h := rfl

theorem view_shSensorsScheduleRetry : view (shSensorsScheduleRetry h) = view h := by
  unfold shSensorsScheduleRetry
  split
  · rw [view_sendLater _ (by decide), view_cancelAll _ (by decide)]
  · rfl

theorem view_sensorsStartVerify : view (sensorsStartVerify h) = view h := by
  unfold sensorsStartVerify
  dsimp only
  split
  · rfl
  · exact view_shSensorsScheduleRetry _

theorem view_sensorsStopVerify : view (sensorsStopVerify h) = view h := by
  have hcancel : view (h.cancelAll .i2cRetry) = view h := view_cancelAll _ (by decide)
  unfold sensorsStopVerify
  dsimp only
  split
  · exact hcancel
  · rfl

theorem view_shSensorsVerifyPass : view (shSensorsVerifyPass e h) = view h := by
  unfold shSensorsVerifyPass
  dsimp only
  split
  · split
    · exact view_cancelAll _ (by decide)
    · rfl
  · exact view_shSensorsScheduleRetry _

theorem view_shLis3dhLogArm : view (shLis3dhLogArm h) = view h := by
  unfold shLis3dhLogArm
  split
  · rw [view_sendLater _ (by decide), view_cancelAll _ (by decide)]
  · rfl

theorem view_motionPoll (w : World) : view (motionPoll w e h) = view h := by
  unfold motionPoll
  split
  · rfl
  · dsimp only
    rw [view_sendLater _ (by decide)]
    split
    · exact view_vitalsPushAccel _ _ _ _ _
    · rfl

theorem view_uartInit : view (uartInit e h) = view h := by
  unfold uartInit
  dsimp only
  split
  · rfl
  · split
    · exact view_sendLater _ (by decide)
    · rfl

end Sensors

end SmartHelmet.Firmware
