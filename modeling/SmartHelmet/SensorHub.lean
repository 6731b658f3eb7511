import SmartHelmet.LinkCommands

namespace SmartHelmet.Firmware

open MachineArith

/-- A left-justified 10-bit sample at 4 mg per digit, for the full scale of 2 g. -/
def shLis3dhRawToMg (lo hi : UInt8) : Int16 :=
  Int16.ofInt ((i16 (hi.toNat * 256 + lo.toNat)).tdiv 64 * 4)

def RawAccel.mg (r : RawAccel) : Int16 × Int16 × Int16 :=
  (shLis3dhRawToMg r.xl r.xh, shLis3dhRawToMg r.yl r.yh, shLis3dhRawToMg r.zl r.zh)

def shMlxRawToCentiC (raw : UInt16) : ℤ := i16 (raw.toNat * 2 - 27315)

def shReadMlx90614 (raw : Option UInt16) : Option ℤ :=
  match raw with
  | some v => if v = 0 ∨ v = 0xffff then none else some (shMlxRawToCentiC v)
  | none => none

def hdcTemp (raw : UInt16) (old : ℤ) : ℤ :=
  if raw = 0 then old else i16 (((raw.toNat : ℤ) * 16500).tdiv 65536 - 4000)

def hdcHumidity (raw : UInt16) (old : ℕ) : ℕ :=
  if raw = 0 then old else u16 (raw.toNat * 10000 / 65536)

def shSensorsRequiredOk (s : Sensors) : Bool :=
  s.ccs811Ok && s.hdc1080Ok && s.mlx90614Ok && s.lis3dhOk && s.ssd1315Ok

def probeMissing (e : Env) (s : Sensors) : Sensors :=
  { s with
    ccs811Ok := s.ccs811Ok || e.ccs811Probe
    hdc1080Ok := s.hdc1080Ok || e.hdc1080Probe
    lis3dhOk := s.lis3dhOk || e.lis3dhProbe
    mlx90614Ok := s.mlx90614Ok || (shReadMlx90614 e.mlxTa).isSome
    ambientTempX100 := if s.mlx90614Ok then s.ambientTempX100
      else (shReadMlx90614 e.mlxTa).getD s.ambientTempX100
    ssd1315Ok := s.ssd1315Ok || e.ssd1315Probe }

def sensorsInit (e : Env) (h : Helmet) : Helmet :=
  { h with sensors := probeMissing e { h.sensors with
    ccs811Ok := false
    hdc1080Ok := false
    lis3dhOk := false
    mlx90614Ok := false
    ssd1315Ok := false
    probeTry := 0 } }

def sensorsSleep (h : Helmet) : Helmet :=
  { h with sensors := { h.sensors with
    ccs811Ok := false
    lis3dhOk := false
    hdc1080Ok := false
    mlx90614Ok := false } }

def shSensorsScheduleRetry (h : Helmet) : Helmet :=
  if h.sensors.probeTask then Helmet.sendLater .i2cRetry (h.cancelAll .i2cRetry) else h

def sensorsStartVerify (h : Helmet) : Helmet :=
  let h := { h with sensors := { h.sensors with probeTask := true } }
  if shSensorsRequiredOk h.sensors then h else shSensorsScheduleRetry h

def sensorsStopVerify (h : Helmet) : Helmet :=
  let h := if h.sensors.probeTask then h.cancelAll .i2cRetry else h
  { h with sensors := { h.sensors with probeTask := false } }

abbrev i2cProbeRetryMax : ℕ := 5

def shSensorsVerifyPass (e : Env) (h : Helmet) : Helmet :=
  let h := { h with sensors := probeMissing e { h.sensors with probeTry := u16 (h.sensors.probeTry + 1) } }
  if shSensorsRequiredOk h.sensors ∨ h.sensors.probeTry ≥ i2cProbeRetryMax then
    if h.sensors.probeTask then h.cancelAll .i2cRetry else h
  else shSensorsScheduleRetry h

def pollLis3dh (raw : Option RawAccel) (s : Sensors) : Sensors :=
  match raw with
  | some r => if s.lis3dhOk then { s with x := r.mg.1, y := r.mg.2.1, z := r.mg.2.2 } else s
  | none => s

def sensorsPollLis3dh (e : Env) (h : Helmet) : Helmet :=
  { h with sensors := pollLis3dh e.lis3dhPoll h.sensors }

def pollCcs811 (r : Option (UInt16 × UInt16)) (s : Sensors) : Sensors :=
  match r with
  | some (eco2, tvoc) =>
    if s.ccs811Ok then { s with ccs811Eco2 := eco2.toNat, ccs811Tvoc := tvoc.toNat } else s
  | none => s

def pollHdc1080 (r : Option (UInt16 × UInt16)) (s : Sensors) : Sensors :=
  match r with
  | some (t, rh) =>
    if s.hdc1080Ok then
      { s with
        hdcTempX100 := hdcTemp t s.hdcTempX100
        hdcHumidityX100 := hdcHumidity rh s.hdcHumidityX100 }
    else s
  | none => s

def pollMlx90614 (ta tobj1 : Option UInt16) (s : Sensors) : Sensors :=
  if s.mlx90614Ok then
    { s with
      ambientTempX100 := (shReadMlx90614 ta).getD s.ambientTempX100
      objectTempX100 := (shReadMlx90614 tobj1).getD s.objectTempX100 }
  else s

def sensorsPoll (e : Env) (h : Helmet) : Helmet :=
  let s := pollLis3dh e.lis3dhPoll (pollCcs811 e.ccs811Result h.sensors)
  { h with sensors := pollMlx90614 e.mlxTa e.mlxTobj1 (pollHdc1080 e.hdc1080Sample s) }

def shLis3dhLogArm (h : Helmet) : Helmet :=
  if h.sensors.logTask then Helmet.sendLater .logTick (h.cancelAll .logTick) else h

end SmartHelmet.Firmware
