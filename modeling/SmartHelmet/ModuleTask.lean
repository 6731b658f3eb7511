import SmartHelmet.AdcSequencer
import SmartHelmet.LinkReceive

/-!
The module task: one step for every message that it can receive and for every call of its
interface. A timer message is delivered only while it is pending.
-/

namespace SmartHelmet.Firmware

open Config MachineArith Vitals

inductive Event where
  | init | powerOn | powerOff | close | uiRefresh (state : ℕ) | lis3dhChk (enable : Bool)
  | timer (m : Msg) (chunks : List (List UInt8))
  | moreData (chunks : List (List UInt8))
  | adcResult (source : AdcSource) (reading : UInt16)

def powerOn (w : World) (e : Env) (h : Helmet) : Helmet :=
  if ¬ h.ready ∨ h.powered then h
  else
    let h := adcInit { h with powered := true }
    let h := (sensorsStartVerify (sensorsInit e h)).vitalsInit
    let h := uartStartVerify w (uartInit e h)
    let h := reportStart w e (adcRequestScan h)
    Helmet.sendLater .motionPoll (h.cancelAll .motionPoll)

def clearMotion (h : Helmet) : Helmet :=
  { h with motionSinceReport := false, motionHolding := false, motionQuietReports := 0 }

def powerOff (w : World) (h : Helmet) : Helmet :=
  if ¬ h.powered then h
  else
    let h := reportStop (clearMotion { h with powered := false })
    let h := sensorsSleep (sensorsStopVerify (h.cancelAll .motionPoll))
    adcStop (uartSleep w h)

def close (w : World) (h : Helmet) : Helmet :=
  let h := reportStop (sensorsStopVerify h)
  let h := uartClose w (adcStop (h.cancelAll .motionPoll))
  clearMotion { h with ready := false, powered := false }

def init (w : World) (e : Env) (h : Helmet) : Helmet :=
  let h := if h.ready then close w h else h
  if ¬ e.i2cInit then h
  else
    let h := adcInit h
    let h := { h with sensors := { h.sensors with logTask := true } }
    { h.cancelAll .logTick with ready := true }

def uiStateIsOn (state : ℕ) : Bool := decide (state = 3 ∨ state = 4 ∨ state = 5 ∨ state = 6)

def uiRefresh (w : World) (e : Env) (state : ℕ) (h : Helmet) : Helmet :=
  if uiStateIsOn state then powerOn w e h else if h.powered then powerOff w h else h

def noteMotionStep (h : Helmet) : Helmet :=
  let s := h.sensors
  let step := match h.pollPrev with
    | some (px, py, pz) => max (max (axisStep s.x.toInt px.toInt) (axisStep s.y.toInt py.toInt))
        (axisStep s.z.toInt pz.toInt)
    | none => 0
  { h with
    pollPrev := some (s.x, s.y, s.z)
    motionSinceReport := h.motionSinceReport || decide (step ≥ motionRmsMg) }

def motionPoll (w : World) (e : Env) (h : Helmet) : Helmet :=
  if ¬ h.powered then h
  else
    let h := sensorsPollLis3dh e h
    let h := if h.sensors.lis3dhOk then
      (noteMotionStep h).vitalsPushAccel w h.sensors.x h.sensors.y h.sensors.z else h
    h.sendLater .motionPoll

def afterSensors (w : World) (e : Env) (h : Helmet) : Helmet :=
  if shSensorsRequiredOk h.sensors ∧ h.link.passthrough then reportStart w e h else h

def onTimer (w : World) (e : Env) (m : Msg) (chunks : List (List UInt8)) (h : Helmet) : Helmet :=
  match m with
  | .reportTick => reportStart w e h
  | .motionPoll => motionPoll w e h
  | .i2cRetry => afterSensors w e (shSensorsVerifyPass e h)
  | .logTick => afterSensors w e (shLis3dhLogArm (shLis3dhLogSample w e h))
  | .adcScan => adcScanTick h
  | .adcSens => adcSensTick h
  | .rxPoll => shRxPollArm (shUartDrain w e chunks h)
  | .linkCheck => shWisunOnTimeout w e h

def step (w : World) (h : Helmet) (e : Env) : Event → Helmet
  | .init => init w e h
  | .powerOn => powerOn w e h
  | .powerOff => powerOff w h
  | .close => close w h
  | .uiRefresh state => uiRefresh w e state h
  | .lis3dhChk enable => lis3dhChk w e enable h
  | .timer m chunks => if 0 < h.pending m then onTimer w e m chunks (h.deliver m) else h
  | .moreData chunks => shUartDrain w e chunks h
  | .adcResult source reading => adcResult w e source reading h

def steps (w : World) (h : Helmet) (events : List (Env × Event)) : Helmet :=
  events.foldl (fun h ev => step w h ev.1 ev.2) h

def runHelmet (w : World) (events : List (Env × Event)) : Helmet := steps w .boot events

theorem runHelmet_concat (w : World) (events : List (Env × Event)) (ev : Env × Event) :
    runHelmet w (events ++ [ev]) = step w (runHelmet w events) ev.1 ev.2 := by
  simp only [runHelmet, steps, List.foldl_append, List.foldl_cons, List.foldl_nil]

def plainWorld : World := ⟨defaultBuild, fun _ => true⟩

def plainEnv : Env := { mlxTa := some 0x3a00 }

def poweredRun : List (Env × Event) := [(plainEnv, .init), (plainEnv, .powerOn)]

end SmartHelmet.Firmware
