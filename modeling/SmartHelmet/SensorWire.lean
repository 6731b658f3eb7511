import SmartHelmet.I2cAddressing
import SmartHelmet.SensorHub

/-!
The drivers of `smart_helmet_sensors.c` on the wire: the transfers that identify, configure,
read and stop the devices on the first bus. The log holds the cycles that a device has
acknowledged, with the address they really carried, newest first.
-/

namespace SmartHelmet.I2c

open Firmware (Sensors RawAccel)

abbrev addrCcs811 : UInt8 := 0x5B

abbrev addrHdc1080 : UInt8 := 0x40

abbrev addrLis3dh : UInt8 := 0x18

abbrev addrMlx90614 : UInt8 := 0x5A

/-- A cycle that a device has acknowledged. -/
structure Effect where
  addr : UInt8
  request : Request

structure Hub where
  buses : Buses
  sensors : Sensors
  calls : ℕ
  effects : List Effect

def Hub.boot : Hub := ⟨Buses.boot, {}, 0, []⟩

def effectOf (r : Request) (cycle : Option Cycle) : List Effect :=
  match cycle with
  | some c => if c.answer.result = .success then [⟨c.addr, r⟩] else []
  | none => []

section Transfers

variable (w : ℕ → Wire)

/-- The bytes are those that reach the caller of a successful transfer. -/
def transfer (c : Call) (s : Hub) : Option (List UInt8) × Hub :=
  let done := i2cTransfer (w s.calls) c s.buses
  (if done.1.ok then some ((done.1.cycle.map fun y => y.answer.rx).getD []) else none,
    { s with buses := done.2, calls := s.calls + 1, effects := effectOf c.request done.1.cycle ++ s.effects })

def i2cWrite (addr7 : UInt8) (tx : List UInt8) : Hub → Option (List UInt8) × Hub :=
  transfer w ⟨0, addr7, some tx, tx.length, false, 0⟩

def i2cRead (addr7 : UInt8) (rxLen : ℕ) : Hub → Option (List UInt8) × Hub :=
  transfer w ⟨0, addr7, none, 0, true, rxLen⟩

def i2cReadReg (addr7 reg : UInt8) (rxLen : ℕ) : Hub → Option (List UInt8) × Hub :=
  transfer w ⟨0, addr7, some [reg], 1, true, rxLen⟩

def i2cWriteReg (addr7 reg : UInt8) (tx : List UInt8) (s : Hub) : Option (List UInt8) × Hub :=
  if tx.length > 16 then (none, s)
  else transfer w ⟨0, addr7, some (reg :: tx), 1 + tx.length, false, 0⟩ s

end Transfers

def byte (rx : List UInt8) (i : ℕ) : UInt8 := rx.getD i 0

def word (rx : List UInt8) (i : ℕ) : UInt16 := .ofNat ((byte rx i).toNat * 256 + (byte rx (i + 1)).toNat)

def rawAccel (rx : List UInt8) : RawAccel := ⟨byte rx 0, byte rx 1, byte rx 2, byte rx 3, byte rx 4, byte rx 5⟩

section Drivers

variable (w : ℕ → Wire)

def shProbeCcs811 (s : Hub) : Bool × Hub :=
  let id := i2cReadReg w addrCcs811 0x20 1 s
  (id.1.any fun rx => byte rx 0 == 0x81, id.2)

/-- The result of the start of the application is ignored. -/
def shInitCcs811 (s : Hub) : Bool × Hub :=
  let started := i2cWriteReg w addrCcs811 0xF4 [] s
  let mode := i2cWriteReg w addrCcs811 0x01 [0x10] started.2
  (mode.1.isSome, mode.2)

/-- The first read is discarded. -/
def shHdcReadU16 (reg : UInt8) (s : Hub) : Option UInt16 × Hub :=
  let pointed := i2cWrite w addrHdc1080 [reg] s
  if pointed.1.isNone then (none, pointed.2)
  else
    let first := i2cRead w addrHdc1080 2 pointed.2
    if first.1.isNone then (none, first.2)
    else
      let second := i2cRead w addrHdc1080 2 first.2
      (second.1.map fun rx => word rx 0, second.2)

def shProbeHdc1080 (s : Hub) : Bool × Hub :=
  let manuf := shHdcReadU16 w 0xFE s
  let devid := shHdcReadU16 w 0xFF manuf.2
  (decide (manuf.1 = some 0x5449 ∧ devid.1 = some 0x1050), devid.2)

def shInitHdc1080 (s : Hub) : Bool × Hub :=
  let config := i2cWriteReg w addrHdc1080 0x02 [0x10, 0x00] s
  (config.1.isSome, config.2)

def shProbeLis3dh (s : Hub) : Bool × Hub :=
  let id := i2cReadReg w addrLis3dh 0x0F 1 s
  (id.1.any fun rx => byte rx 0 == 0x33, id.2)

def shInitLis3dh (s : Hub) : Bool × Hub :=
  let ctrl4 := i2cWriteReg w addrLis3dh 0x23 [0x80] s
  if ctrl4.1.isNone then (false, ctrl4.2)
  else
    let ctrl1 := i2cWriteReg w addrLis3dh 0x20 [0x57] ctrl4.2
    (ctrl1.1.isSome, ctrl1.2)

/-- The raw value has the low byte first; whether it is taken, the caller's reading decides. -/
def mlxRaw (ramAddr : UInt8) (s : Hub) : Option UInt16 × Hub :=
  let read := transfer w ⟨0, addrMlx90614, some [ramAddr], 1, true, 3⟩ s
  (read.1.map fun rx => .ofNat ((byte rx 0).toNat + (byte rx 1).toNat * 256), read.2)

end Drivers

inductive Device where
  | ccs811 | hdc1080 | lis3dh
  deriving DecidableEq

def Device.found : Device → Sensors → Bool
  | .ccs811 => Sensors.ccs811Ok
  | .hdc1080 => Sensors.hdc1080Ok
  | .lis3dh => Sensors.lis3dhOk

def Device.mark (device : Device) (ok : Bool) (x : Sensors) : Sensors :=
  match device with
  | .ccs811 => { x with ccs811Ok := ok }
  | .hdc1080 => { x with hdc1080Ok := ok }
  | .lis3dh => { x with lis3dhOk := ok }

namespace Hub

def setSensors (f : Sensors → Sensors) (s : Hub) : Hub := { s with sensors := f s.sensors }

variable (w : ℕ → Wire)

def bringUpDevice (device : Device) (probe init : Hub → Bool × Hub) (s : Hub) : Hub :=
  if device.found s.sensors then s
  else
    let probed := probe s
    if probed.1 then
      let started := init probed.2
      started.2.setSensors (device.mark started.1)
    else probed.2

def bringUpCcs811 : Hub → Hub := bringUpDevice .ccs811 (shProbeCcs811 w) (shInitCcs811 w)

def bringUpHdc1080 : Hub → Hub := bringUpDevice .hdc1080 (shProbeHdc1080 w) (shInitHdc1080 w)

def bringUpLis3dh : Hub → Hub := bringUpDevice .lis3dh (shProbeLis3dh w) (shInitLis3dh w)

def bringUpMlx90614 (s : Hub) : Hub :=
  if s.sensors.mlx90614Ok then s
  else
    let ta := mlxRaw w 0x06 s
    ta.2.setSensors fun x =>
      match Firmware.shReadMlx90614 ta.1 with
      | some t => { x with mlx90614Ok := true, ambientTempX100 := t }
      | none => x

/-- `ssd` stands for the display's probe and its initialisation on the second bus. -/
def bringUpSsd1315 (ssd : Bool) (s : Hub) : Hub :=
  s.setSensors fun x => { x with ssd1315Ok := x.ssd1315Ok || ssd }

def bringUp (ssd : Bool) (s : Hub) : Hub :=
  bringUpSsd1315 ssd (bringUpMlx90614 w (bringUpLis3dh w (bringUpHdc1080 w (bringUpCcs811 w s))))

/-- `SmartHelmet_SensorsInit`; its checks are those of `shSensorsVerifyPass` with no device found. -/
def sensorsInit (ssd : Bool) (s : Hub) : Hub :=
  bringUp w ssd (s.setSensors fun x => { x with
    ccs811Ok := false
    hdc1080Ok := false
    lis3dhOk := false
    mlx90614Ok := false
    ssd1315Ok := false
    probeTry := 0 })

def shSensorsVerifyPass (ssd : Bool) (s : Hub) : Hub :=
  bringUp w ssd (s.setSensors fun x => { x with probeTry := MachineArith.u16 (x.probeTry + 1) })

def pollCcs811 (s : Hub) : Hub :=
  if s.sensors.ccs811Ok then
    let status := i2cReadReg w addrCcs811 0x00 1 s
    if status.1.any fun rx => byte rx 0 &&& 0x08 != 0 then
      let result := i2cReadReg w addrCcs811 0x02 4 status.2
      result.2.setSensors fun x =>
        match result.1 with
        | some rx => { x with ccs811Eco2 := (word rx 0).toNat, ccs811Tvoc := (word rx 2).toNat }
        | none => x
    else status.2
  else s

def sensorsPollLis3dh (s : Hub) : Hub :=
  if s.sensors.lis3dhOk then
    let out := i2cReadReg w addrLis3dh 0xA8 6 s
    out.2.setSensors fun x =>
      match out.1 with
      | some rx => { x with x := (rawAccel rx).mg.1, y := (rawAccel rx).mg.2.1, z := (rawAccel rx).mg.2.2 }
      | none => x
  else s

/-- The second read counts where it succeeds; a zero keeps the old value. -/
def pollHdc1080 (s : Hub) : Hub :=
  if s.sensors.hdc1080Ok then
    let pointed := i2cWrite w addrHdc1080 [0x00] s
    if pointed.1.isNone then pointed.2
    else
      let first := i2cRead w addrHdc1080 4 pointed.2
      match first.1 with
      | none => first.2
      | some rx =>
        let second := i2cRead w addrHdc1080 4 first.2
        let sample := second.1.getD rx
        second.2.setSensors fun x => { x with
          hdcTempX100 := Firmware.hdcTemp (word sample 0) x.hdcTempX100
          hdcHumidityX100 := Firmware.hdcHumidity (word sample 2) x.hdcHumidityX100 }
  else s

def pollMlx90614 (s : Hub) : Hub :=
  if s.sensors.mlx90614Ok then
    let ta := mlxRaw w 0x06 s
    let tobj1 := mlxRaw w 0x07 ta.2
    tobj1.2.setSensors fun x => { x with
      ambientTempX100 := (Firmware.shReadMlx90614 ta.1).getD x.ambientTempX100
      objectTempX100 := (Firmware.shReadMlx90614 tobj1.1).getD x.objectTempX100 }
  else s

def sensorsPoll (s : Hub) : Hub := pollMlx90614 w (pollHdc1080 w (sensorsPollLis3dh w (pollCcs811 w s)))

def sleepCcs811 (s : Hub) : Hub :=
  if s.sensors.ccs811Ok then
    (i2cWriteReg w addrCcs811 0x01 [0x00] s).2.setSensors (Device.mark .ccs811 false)
  else s

def sleepLis3dh (s : Hub) : Hub :=
  if s.sensors.lis3dhOk then
    (i2cWriteReg w addrLis3dh 0x20 [0x00] s).2.setSensors (Device.mark .lis3dh false)
  else s

def sensorsSleep (s : Hub) : Hub :=
  (sleepLis3dh w (sleepCcs811 w s)).setSensors fun x => { x with hdc1080Ok := false, mlx90614Ok := false }

/-- What the 1 s log reads, whether the accelerometer was found or not. -/
def shLis3dhLogSample (s : Hub) : Hub :=
  let id := i2cReadReg w addrLis3dh 0x0F 1 s
  let out := i2cReadReg w addrLis3dh 0xA8 6 id.2
  out.2.setSensors fun x =>
    match out.1 with
    | some rx => { x with x := (rawAccel rx).mg.1, y := (rawAccel rx).mg.2.1, z := (rawAccel rx).mg.2.2 }
    | none => x

end Hub

inductive HubEvent where
  | busInit | busClose
  | sensorsInit | verifyPass | sensorsSleep
  | sensorsPoll | pollLis3dh | logSample

structure HubEnv where
  wire : ℕ → Wire
  ssd : Bool

def hubStep (s : Hub) (ev : HubEnv × HubEvent) : Hub :=
  match ev.2 with
  | .busInit => { s with buses := (i2cInit (ev.1.wire s.calls) s.buses).2 }
  | .busClose => { s with buses := i2cClose s.buses }
  | .sensorsInit => s.sensorsInit ev.1.wire ev.1.ssd
  | .verifyPass => s.shSensorsVerifyPass ev.1.wire ev.1.ssd
  | .sensorsSleep => s.sensorsSleep ev.1.wire
  | .sensorsPoll => s.sensorsPoll ev.1.wire
  | .pollLis3dh => s.sensorsPollLis3dh ev.1.wire
  | .logSample => s.shLis3dhLogSample ev.1.wire

def hubRun (evs : List (HubEnv × HubEvent)) : Hub := evs.foldl hubStep Hub.boot

end SmartHelmet.I2c
