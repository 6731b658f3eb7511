import SmartHelmet.ModuleTask

namespace SmartHelmet.Firmware

variable (w : World) (e : Env) (h : Helmet)

theorem link_shWisunArm : (shWisunArm h).link = h.link := by
  unfold shWisunArm
  split <;> rfl

section Sensors

theorem link_sensorsStopVerify : (sensorsStopVerify h).link = h.link := by
  unfold sensorsStopVerify
  dsimp only
  split <;> rfl

theorem link_shSensorsVerifyPass : (shSensorsVerifyPass e h).link = h.link := by
  unfold shSensorsVerifyPass
  dsimp only
  split
  · split <;> rfl
  · unfold shSensorsScheduleRetry
    split <;> rfl

theorem link_shLis3dhLogArm : (shLis3dhLogArm h).link = h.link := by
  unfold shLis3dhLogArm
  split <;> rfl

theorem link_motionPoll : (motionPoll w e h).link = h.link := by
  unfold motionPoll
  split
  · rfl
  · dsimp only
    split <;> rfl

end Sensors

section Adc

theorem link_shAdcRequestNextFull : (shAdcRequestNextFull h).link = h.link := by
  unfold shAdcRequestNextFull
  split <;> rfl

theorem link_adcRequestScan : (adcRequestScan h).link = h.link := by
  unfold adcRequestScan
  split
  · exact link_shAdcRequestNextFull _
  · rfl

theorem link_adcScanTick : (adcScanTick h).link = h.link := by
  unfold adcScanTick
  dsimp only
  split <;> exact link_adcRequestScan h

theorem link_adcRequestSensIn : (adcRequestSensIn h).link = h.link := by
  unfold adcRequestSensIn
  split
  · rfl
  · split <;> rfl

theorem link_adcSensTick : (adcSensTick h).link = h.link := by
  unfold adcSensTick
  dsimp only
  split <;> exact link_adcRequestSensIn h

theorem link_adcResult (source : AdcSource) (reading : UInt16) : (adcResult w e source reading h).link = h.link := by
  unfold adcResult
  split
  · rfl
  · split
    · split <;> rfl
    · split
      · exact link_shAdcRequestNextFull _
      · rfl

theorem link_adcStop : (adcStop h).link = h.link := by
  unfold adcStop
  dsimp only
  split <;> rfl

end Adc

end SmartHelmet.Firmware
