import SmartHelmet.KeywordSearch
import SmartHelmet.WindowProcess

/-!
The variables of the module task: the Wi-SUN link, the sensors, the ADC sequencer, the
report latches and the queue of delayed messages. Delays are not modelled: a pending
message may be delivered at any later point.
-/

namespace SmartHelmet.Firmware

open Config

inductive Msg where
  | reportTick | motionPoll | i2cRetry | logTick | adcScan | adcSens | rxPoll | linkCheck
  deriving DecidableEq

inductive Step where
  | idle | reset | cmd | done | provRead | provSet | dest | pass | leave
  deriving DecidableEq

inductive WisunLink where
  | idle | txOnly | rxUnknown | moduleOk
  deriving DecidableEq

structure WisunStatus where
  result : WisunLink := .idle
  txOk : Bool := false
  rxSeen : Bool := false
  moduleSeen : Bool := false
  ipSeen : Bool := false
  online : Bool := false
  resetSeen : Bool := false
  atMode : Bool := false
  atOk : Bool := false
  atPass : ℕ := 0
  atFail : ℕ := 0
  statusCode : ℕ := 0
  tries : ℕ := 0
  deriving DecidableEq

/-- The variables of `smart_helmet_uart.c`. -/
structure Link where
  opened : Bool := false
  task : Bool := false
  wisun : WisunStatus := {}
  step : Step := .idle
  atIdx : ℕ := 0
  passthrough : Bool := false
  restartSeen : Bool := false
  sendOkWait : Bool := false
  rejoining : Bool := false
  missedOk : ℕ := 0
  leaveNext : Step := .idle
  tooLongRetry : ℕ := 0
  rejoinMs : UInt32 := 0
  rxAsm : List UInt8 := []
  rxLine : List UInt8 := []
  provQ : List String := []
  provI : ℕ := 0
  provDone : Bool := false
  provDirty : Bool := false
  deriving DecidableEq

/-- The variables of `smart_helmet_sensors.c`, without the display buffer. -/
structure Sensors where
  ccs811Ok : Bool := false
  hdc1080Ok : Bool := false
  lis3dhOk : Bool := false
  mlx90614Ok : Bool := false
  ssd1315Ok : Bool := false
  ccs811Eco2 : ℕ := 0
  ccs811Tvoc : ℕ := 0
  hdcTempX100 : ℤ := 0
  hdcHumidityX100 : ℕ := 0
  x : Int16 := 0
  y : Int16 := 0
  z : Int16 := 0
  objectTempX100 : ℤ := 0
  ambientTempX100 : ℤ := 0
  probeTask : Bool := false
  logTask : Bool := false
  probeTry : ℕ := 0
  logLast : Vitals.MotionGate := .calm
  deriving DecidableEq

inductive AdcMode where
  | idle | full | sens
  deriving DecidableEq

inductive AdcSource where
  | vref | sensIn | co | nh3 | no2
  deriving DecidableEq

structure Adc where
  task : Bool := false
  index : ℕ := 0
  mode : AdcMode := .idle
  vrefMv : ℕ := 0
  sensMv : ℕ := 0
  coMv : ℕ := 0
  nh3Mv : ℕ := 0
  no2Mv : ℕ := 0
  deriving DecidableEq

inductive Tx where
  | command | payload
  deriving DecidableEq

inductive Obs where
  | tx (kind : Tx) (frame : List UInt8) (ok : Bool)
  | brOnline (online : Bool)
  | accel (mag : ℕ)
  | restart
  | report (fall : Bool) (line : List UInt8)
  | adcRequest (source : AdcSource)
  deriving DecidableEq

/-- The module task; the log is newest first. -/
structure Helmet where
  vitals : Vitals.State
  link : Link
  sensors : Sensors
  adc : Adc
  ready : Bool
  powered : Bool
  motionSinceReport : Bool
  motionQuietReports : ℕ
  motionHolding : Bool
  pollPrev : Option (Int16 × Int16 × Int16)
  gasR0Mv : ℕ → ℕ
  pending : Msg → ℕ
  writes : ℕ
  log : List Obs

def Helmet.boot : Helmet where
  vitals := Vitals.boot
  link := {}
  sensors := {}
  adc := {}
  ready := false
  powered := false
  motionSinceReport := false
  motionQuietReports := 0
  motionHolding := false
  pollPrev := none
  gasR0Mv := fun _ => 0
  pending := fun _ => 0
  writes := 0
  log := []

/-- The build and the outcome of every write to the UART sink. -/
structure World where
  build : Build
  sendOk : ℕ → Bool

structure RawAccel where
  xl : UInt8
  xh : UInt8
  yl : UInt8
  yh : UInt8
  zl : UInt8
  zh : UInt8

/-- What the clock, the I2C devices and the UART pins answer while one message is handled;
a device that does not answer is `none` or `false`. -/
structure Env where
  timeUs : UInt32 := 0
  i2cInit : Bool := true
  uartOpen : Bool := true
  ccs811Probe : Bool := true
  hdc1080Probe : Bool := true
  lis3dhProbe : Bool := true
  ssd1315Probe : Bool := true
  ccs811Result : Option (UInt16 × UInt16) := none
  hdc1080Sample : Option (UInt16 × UInt16) := none
  lis3dhPoll : Option RawAccel := none
  lis3dhLog : Option RawAccel := none
  mlxTa : Option UInt16 := none
  mlxTobj1 : Option UInt16 := none

namespace Helmet

def note (o : Obs) (h : Helmet) : Helmet := { h with log := o :: h.log }

def cancelAll (m : Msg) (h : Helmet) : Helmet := { h with pending := Function.update h.pending m 0 }

def sendLater (m : Msg) (h : Helmet) : Helmet :=
  { h with pending := Function.update h.pending m (h.pending m + 1) }

def deliver (m : Msg) (h : Helmet) : Helmet :=
  { h with pending := Function.update h.pending m (h.pending m - 1) }

def vitalsInit (h : Helmet) : Helmet := note .restart { h with vitals := Vitals.vitalsInit h.vitals }

def vitalsPushAccel (w : World) (x y z : Int16) (h : Helmet) : Helmet :=
  note (.accel (Vitals.accelMag x y z)) { h with vitals := Vitals.vitalsPushAccel w.build h.vitals x y z }

def vitalsProcess (w : World) (h : Helmet) : Helmet :=
  { h with vitals := Vitals.vitalsProcess w.build h.vitals }

end Helmet

end SmartHelmet.Firmware
