import SmartHelmet.ReportText
import SmartHelmet.SensorHub

namespace SmartHelmet.Firmware

open Config MachineArith

def canSend (h : Helmet) : Bool := h.link.passthrough && shSensorsRequiredOk h.sensors

def reportSample (w : World) (e : Env) (h : Helmet) : Helmet :=
  let h := sensorsPoll e h
  if h.sensors.lis3dhOk then (h.vitalsPushAccel w h.sensors.x h.sensors.y h.sensors.z).vitalsProcess w
  else h

def latchMotion (h : Helmet) : Helmet :=
  if h.motionSinceReport then
    { h with motionHolding := true, motionQuietReports := 0, motionSinceReport := false }
  else if h.motionHolding then
    let quiet := incSat 255 h.motionQuietReports
    if quiet ≥ motionStillReports then
      { h with motionHolding := false, motionQuietReports := 0, motionSinceReport := false }
    else { h with motionQuietReports := quiet, motionSinceReport := false }
  else { h with motionSinceReport := false }

theorem latchMotion_eq (h : Helmet) : ∃ holding quiet since, latchMotion h =
    { h with motionHolding := holding, motionQuietReports := quiet, motionSinceReport := since } := by
  unfold latchMotion
  split
  · exact ⟨_, _, _, rfl⟩
  · split
    · dsimp only
      split
      · exact ⟨_, _, _, rfl⟩
      · exact ⟨h.motionHolding, _, _, rfl⟩
    · exact ⟨h.motionHolding, h.motionQuietReports, _, rfl⟩

def takeFall (h : Helmet) : Helmet × Bool :=
  let (v, fall) := Vitals.vitalsTakeFall h.vitals
  ({ h with vitals := v }, fall)

def gasRatios (h : Helmet) : Helmet × ℕ × ℕ × ℕ :=
  let (r0, co) := shGasValue h.gasR0Mv 0 h.adc.coMv
  let (r0, nh3) := shGasValue r0 1 h.adc.nh3Mv
  let (r0, no2) := shGasValue r0 2 h.adc.no2Mv
  ({ h with gasR0Mv := r0 }, co, nh3, no2)

/-- The flags taken and the text built; the observation carries the fall flag of the text. -/
def reportBuild (h : Helmet) : Helmet × List UInt8 :=
  let (h, restart) := uartTakeRestart (latchMotion h)
  let (h, fall) := takeFall h
  let (h, co, nh3, no2) := gasRatios h
  let line := reportLine h restart fall co nh3 no2
  (h.note (.report fall line), line)

def reportStart (w : World) (e : Env) (h : Helmet) : Helmet :=
  if canSend h then
    let (h, line) := reportBuild (reportSample w e h)
    reportArm (shSendReportLines w e line h)
  else reportArm (reportBuild h).1

def logFeed (w : World) (x y z : Int16) (h : Helmet) : Helmet :=
  let h := { h with sensors := { h.sensors with x := x, y := y, z := z } }
  (h.vitalsPushAccel w x y z).vitalsProcess w

def logChange (w : World) (e : Env) (h : Helmet) : Helmet :=
  if h.vitals.status.motion ≠ h.sensors.logLast then
    reportStart w e { h with sensors := { h.sensors with logLast := h.vitals.status.motion } }
  else h

def shLis3dhLogSample (w : World) (e : Env) (h : Helmet) : Helmet :=
  match e.lis3dhLog with
  | none => h
  | some r => logChange w e (logFeed w r.mg.1 r.mg.2.1 r.mg.2.2 h)

def lis3dhChk (w : World) (e : Env) (enable : Bool) (h : Helmet) : Helmet :=
  if ¬ h.sensors.logTask then h
  else if enable then shLis3dhLogArm (shLis3dhLogSample w e h)
  else h.cancelAll .logTick

end SmartHelmet.Firmware
