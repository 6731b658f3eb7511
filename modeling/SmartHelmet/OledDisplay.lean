import SmartHelmet.OledPanel
import SmartHelmet.ModuleTask

/-!
What `smart_helmet_sensors.c` and `smart_helmet.c` do with the display: the four lines, the
cache of the lines drawn last, and the calls that draw, blank or initialise the panel. A call of
the list may come at any time, so the delayed messages are left out.
-/

namespace SmartHelmet.Oled

open Attempt Firmware MachineArith

structure Display where
  bus : Bus
  sensors : Sensors
  ready : Bool
  powered : Bool
  uiState : ℕ
  blanked : Bool
  prev : Fin 4 → List UInt8
  havePrev : Bool
  initFailLatched : Bool
  initFailLine : List UInt8

def Display.boot (panel : Panel) : Display where
  bus := ⟨panel, 0, 0⟩
  sensors := {}
  ready := false
  powered := false
  uiState := 0
  blanked := false
  prev := fun _ => []
  havePrev := false
  initFailLatched := false
  initFailLine := []

/-- What the sensors, the link, the battery and the audio profiles answer during one call. -/
structure Env where
  sensors : Firmware.Env := {}
  link : Link := {}
  percent : UInt8 := 0
  handsetConnected : Bool := false
  scoActive : Bool := false
  a2dpStreaming : Bool := false

section Lines

variable (e : Env)

def shStateText : ℕ → List UInt8
  | 2 => bytes "STATE LIMBO"
  | 3 => bytes "STATE PWR ON"
  | 4 => bytes "STATE PAIR"
  | 5 => if e.handsetConnected then bytes "CONNECTED IDLE" else bytes "IDLE"
  | 6 => bytes "STATE BUSY"
  | 8 => bytes "STATE PWR OFF"
  | 7 => bytes "STATE TERM"
  | _ => bytes "STATE OFF"

def shStateIsOn (state : ℕ) : Bool := decide (state = 3 ∨ state = 4 ∨ state = 5 ∨ state = 6)

def shBrText : List UInt8 :=
  if e.link.rejoining then bytes "WISUN REJOIN"
  else if e.link.wisun.online then bytes "WISUN ONLINE"
  else if e.link.passthrough then bytes "WISUN JOIN"
  else if e.link.wisun.moduleSeen ∨ e.link.wisun.ipSeen ∨ e.link.wisun.resetSeen then bytes "WISUN JOIN"
  else bytes "WISUN WAIT"

def shAudioText : List UInt8 :=
  if e.scoActive then bytes "AUDIO CALL"
  else if e.a2dpStreaming then bytes "AUDIO MUSIC"
  else bytes "AUDIO IDLE"

def shFmtPct (pct : UInt8) : List UInt8 :=
  let number := if pct > 99 then bytes "100"
    else if pct > 9 then [0x20, 0x30 + pct / 10, 0x30 + pct % 10]
    else [0x20, 0x20, 0x30 + pct]
  bytes "BAT  " ++ number ++ bytes "%"

end Lines

def latchName (ok : Bool) (name : String) (line : List UInt8) : List UInt8 :=
  if ¬ ok ∧ line.length + 4 ≤ 15 then (if line = [] then [] else line ++ [0x20]) ++ bytes name else line

def shLatchInitFail (d : Display) : Display :=
  let line := latchName d.sensors.lis3dhOk "LIS" (latchName d.sensors.mlx90614Ok "MLX"
    (latchName d.sensors.hdc1080Ok "HDC" (latchName d.sensors.ccs811Ok "CCS" [])))
  { d with initFailLine := line, initFailLatched := decide (line ≠ []) }

def shClearInitFail (d : Display) : Display := { d with initFailLatched := false, initFailLine := [] }

def lines (e : Env) (d : Display) : Fin 4 → List UInt8 :=
  let battery := shFmtPct (if e.percent ≥ 99 then 100 else e.percent)
  if d.initFailLatched ∧ shStateIsOn d.uiState then
    ![shStateText e d.uiState, battery, bytes "INIT FAIL", d.initFailLine]
  else if d.uiState = 2 then ![shStateText e d.uiState, battery, [], []]
  else ![shStateText e d.uiState, battery, shBrText e, shAudioText e]

def pages (i : Fin 4) : UInt8 := ![0, 2, 4, 6] i

section Calls

variable (i2c : Outcomes)

def displayOff (d : Display) : Display :=
  if ¬ d.sensors.ssd1315Ok then d else { d with bus := (shSsdCmd i2c 0xAE d.bus).2 }

def displayBlank (d : Display) : Display :=
  let d := shClearInitFail { d with blanked := true, havePrev := false, prev := fun _ => [] }
  if ¬ d.sensors.ssd1315Ok then d
  else { d with bus := (shSsdCmdList i2c [0x8D, 0x10, 0xAE] (shSsdClear i2c d.bus).2).2 }

def displayOn (d : Display) : Display :=
  if ¬ d.sensors.ssd1315Ok then d
  else { d with blanked := false, bus := (shSsdCmdList i2c [0x8D, 0x14, 0xAF] d.bus).2 }

def displayResume : Display → Display := displayOn i2c

def sensorsSleep (d : Display) : Display :=
  shClearInitFail { d with sensors := { d.sensors with
    ccs811Ok := false
    lis3dhOk := false
    hdc1080Ok := false
    mlx90614Ok := false } }

def redraw (i : Fin 4) (line : List UInt8) : Bus → Bool × Bus :=
  andThen (shSsdClearPage i2c (pages i))
    (if line = [] then fun b => (true, b) else shSsdDrawText i2c (pages i) 4 line)

/-- One round of the loop in `SmartHelmet_SensorsShowAdcMv`. -/
def showLine (text : Fin 4 → List UInt8) (i : Fin 4) (d : Display) : Bool × Display :=
  if d.havePrev ∧ d.prev i = text i then (true, d)
  else
    let r := redraw i2c i (text i) d.bus
    if r.1 then (true, { d with bus := r.2, prev := Function.update d.prev i ((text i).take 15) })
    else (false, { d with bus := r.2 })

def showLines (text : Fin 4 → List UInt8) (d : Display) : Display :=
  let r := all ((List.finRange 4).map (showLine i2c text)) d
  if r.1 then { r.2 with havePrev := true } else r.2

def draws (d : Display) : Bool :=
  d.sensors.ssd1315Ok && !d.blanked && (shStateIsOn d.uiState || decide (d.uiState = 2))

def sensorsShowAdcMv (e : Env) (d : Display) : Display :=
  if ¬ d.sensors.ssd1315Ok then d
  else if d.blanked ∨ (¬ shStateIsOn d.uiState ∧ d.uiState ≠ 2) then displayBlank i2c d
  else showLines i2c (lines e d) (displayOn i2c d)

def probeDevices (e : Env) (d : Display) : Display :=
  if d.sensors.ssd1315Ok then { d with sensors := probeMissing e.sensors d.sensors }
  else
    let r := andThen (shProbeSsd1315 i2c) (shInitSsd1315 i2c) d.bus
    { d with bus := r.2, sensors := probeMissing { e.sensors with ssd1315Probe := r.1 } d.sensors }

def sensorsInit (e : Env) (d : Display) : Display :=
  probeDevices i2c e { shClearInitFail d with sensors := { d.sensors with
    ccs811Ok := false
    hdc1080Ok := false
    lis3dhOk := false
    mlx90614Ok := false
    ssd1315Ok := false
    probeTry := 0 } }

def sensorsInitDisplay (d : Display) : Display :=
  let r := andThen (shProbeSsd1315 i2c) (shInitSsd1315 i2c) d.bus
  { d with bus := r.2, sensors := { d.sensors with ssd1315Ok := r.1 } }

def verifyDevices (e : Env) (d : Display) : Display :=
  probeDevices i2c e { d with sensors := { d.sensors with probeTry := u16 (d.sensors.probeTry + 1) } }

def givesUp (d : Display) : Bool := !shSensorsRequiredOk d.sensors && decide (i2cProbeRetryMax ≤ d.sensors.probeTry)

def shSensorsVerifyPass (e : Env) (d : Display) : Display :=
  let d := verifyDevices i2c e d
  if givesUp d then sensorsShowAdcMv i2c e (shLatchInitFail d) else d

def powerOn (e : Env) (d : Display) : Display :=
  if ¬ d.ready ∨ d.powered then d else displayResume i2c (sensorsInit i2c e { d with powered := true })

def powerOff (d : Display) : Display :=
  if ¬ d.powered then d else displayBlank i2c (sensorsSleep { d with powered := false })

def uiPower (e : Env) (state : ℕ) (d : Display) : Display :=
  let d := { d with uiState := state }
  if uiStateIsOn state then powerOn i2c e d else if d.powered then powerOff i2c d else d

def uiRefresh (e : Env) (state : ℕ) (d : Display) : Display := sensorsShowAdcMv i2c e (uiPower i2c e state d)

def close (d : Display) : Display := { d with ready := false, powered := false }

def init (e : Env) (d : Display) : Display :=
  let d := if d.ready then close d else d
  if ¬ e.sensors.i2cInit then d else { d with ready := true }

end Calls

inductive Event where
  | init | close | powerOn | powerOff | uiRefresh (state : ℕ)
  | sensorsInit | sensorsInitDisplay | verifyPass | sensorsSleep
  | displayOff | displayBlank | displayOn | displayResume | showAdcMv

def step (i2c : Outcomes) (d : Display) (ev : Env × Event) : Display :=
  match ev.2 with
  | .init => init ev.1 d
  | .close => close d
  | .powerOn => powerOn i2c ev.1 d
  | .powerOff => powerOff i2c d
  | .uiRefresh state => uiRefresh i2c ev.1 state d
  | .sensorsInit => sensorsInit i2c ev.1 d
  | .sensorsInitDisplay => sensorsInitDisplay i2c d
  | .verifyPass => shSensorsVerifyPass i2c ev.1 d
  | .sensorsSleep => sensorsSleep d
  | .displayOff => displayOff i2c d
  | .displayBlank => displayBlank i2c d
  | .displayOn => displayOn i2c d
  | .displayResume => displayResume i2c d
  | .showAdcMv => sensorsShowAdcMv i2c ev.1 d

def run (i2c : Outcomes) (panel : Panel) (evs : List (Env × Event)) : Display :=
  evs.foldl (step i2c) (.boot panel)

section ModuleTask

variable (i2c : Outcomes)

def answered (e : Env) (b : Bus) : Firmware.Env :=
  { e.sensors with ssd1315Probe := (andThen (shProbeSsd1315 i2c) (shInitSsd1315 i2c) b).1 }

theorem sensors_probeDevices (e : Env) (d : Display) :
    (probeDevices i2c e d).sensors = probeMissing (answered i2c e d.bus) d.sensors := by
  unfold probeDevices
  split
  · rename_i hup
    simp only [probeMissing, hup, Bool.true_or]
    rfl
  · rfl

theorem sensors_showLine (text : Fin 4 → List UInt8) (i : Fin 4) (d : Display) :
    (showLine i2c text i d).2.sensors = d.sensors := by
  unfold showLine
  split
  · rfl
  · dsimp only
    split <;> rfl

theorem sensors_displayBlank (d : Display) : (displayBlank i2c d).sensors = d.sensors := by
  unfold displayBlank
  dsimp only
  split <;> rfl

theorem sensors_displayOn (d : Display) : (displayOn i2c d).sensors = d.sensors := by
  unfold displayOn
  split <;> rfl

theorem sensors_showLines (text : Fin 4 → List UInt8) (d : Display) :
    (showLines i2c text d).sensors = d.sensors := by
  have hloop : (all ((List.finRange 4).map (showLine i2c text)) d).2.sensors = d.sensors := by
    refine all_keeps (R := fun a b : Display => b.sensors = a.sensors) (fun _ => rfl)
      (fun _ _ _ h h' => h'.trans h) ?_ d
    intro f hf s
    obtain ⟨i, -, rfl⟩ := List.mem_map.mp hf
    exact sensors_showLine i2c text i s
  unfold showLines
  dsimp only
  split <;> exact hloop

theorem sensors_showAdcMv (e : Env) (d : Display) : (sensorsShowAdcMv i2c e d).sensors = d.sensors := by
  unfold sensorsShowAdcMv
  split
  · rfl
  · split
    · exact sensors_displayBlank i2c d
    · rw [sensors_showLines, sensors_displayOn]

variable {h : Helmet} {d : Display} (hsensors : h.sensors = d.sensors)

include hsensors

/-- The display's side of the initialisation agrees with the module task's. -/
theorem sensors_sensorsInit (e : Env) :
    (sensorsInit i2c e d).sensors = (Firmware.sensorsInit (answered i2c e d.bus) h).sensors := by
  rw [sensorsInit, sensors_probeDevices, Firmware.sensorsInit, hsensors]
  rfl

theorem sensors_shSensorsVerifyPass (e : Env) :
    (shSensorsVerifyPass i2c e d).sensors = (Firmware.shSensorsVerifyPass (answered i2c e d.bus) h).sensors := by
  have hverify : (verifyDevices i2c e d).sensors = probeMissing (answered i2c e d.bus)
      { h.sensors with probeTry := u16 (h.sensors.probeTry + 1) } := by
    rw [verifyDevices, sensors_probeDevices, hsensors]
  have hdisplay : (shSensorsVerifyPass i2c e d).sensors = (verifyDevices i2c e d).sensors := by
    unfold shSensorsVerifyPass
    dsimp only
    split
    · exact sensors_showAdcMv i2c e _
    · rfl
  rw [hdisplay, hverify]
  unfold Firmware.shSensorsVerifyPass
  dsimp only
  split
  · split <;> rfl
  · unfold shSensorsScheduleRetry
    split <;> rfl

end ModuleTask

end SmartHelmet.Oled
