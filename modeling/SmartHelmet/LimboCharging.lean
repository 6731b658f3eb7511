import Mathlib

/-!
The charger and the limbo timer of `headset_sm.c`. `Charger_IsConnected` follows the last
`ATTACHED` or `DETACHED` message; pending messages may be delivered at any later point.
-/

namespace SmartHelmet.Headset

inductive ChargerMessage where
  | attached | detached | completed | chargingOk | chargingLow | disabled
  deriving DecidableEq

inductive HeadsetState where
  | null | factoryReset | limbo | poweringOn | pairing | idle | busy | terminating | poweringOff
  deriving DecidableEq

inductive LedPattern where
  | limboCharging | limboCharged
  deriving DecidableEq

inductive Obs where
  | charger (m : ChargerMessage)
  | disableReasonAdd | disableReasonClear
  | displayResume | displayBlank | uiRefresh (state : HeadsetState)
  | setPattern (p : LedPattern) | stopPattern
  | powerSave | powerOffRequest
  deriving DecidableEq

/-- The log is newest first. -/
structure Sm where
  state : HeadsetState
  connected : Bool
  chargeEvent : ChargerMessage
  chargeLed : ℕ
  chargeHigh : Bool
  socRegistered : Bool
  limboTimers : ℕ
  vbatTimers : ℕ
  log : List Obs

def Sm.boot : Sm := ⟨.null, false, .detached, 0, false, false, 0, 0, []⟩

structure Env where
  soc : ℕ
  socRegister : Bool

def Sm.note (o : Obs) (s : Sm) : Sm := { s with log := o :: s.log }

abbrev limboTimeoutMs : ℕ := 10000

def headsetSmStartLimboTimer (s : Sm) : Sm :=
  if limboTimeoutMs ≠ 0 then { s with limboTimers := 1 } else s

def headsetSmStopLimboTimer (s : Sm) : Sm := { s with limboTimers := 0 }

def headsetSmStopChargeVbatLog (s : Sm) : Sm := { s with vbatTimers := 0 }

def ChargerMessage.cableIn (m : ChargerMessage) : Bool :=
  decide (m = .completed ∨ m = .attached ∨ m = .chargingOk ∨ m = .chargingLow)

def headsetSmLogChargeVbat (s : Sm) : Sm :=
  if s.state ≠ .limbo then headsetSmStopChargeVbatLog s
  else if s.connected ∨ s.chargeEvent.cableIn then { s with vbatTimers := 1 }
  else s

def headsetSmChargeCompleted (event : ChargerMessage) (connected : Bool) : Bool :=
  decide (event = .completed) || (decide (event = .disabled) && connected)

/-- The build disables the charger at 99 % to exercise the resume path. -/
def testDisableAtSoc (soc : ℕ) (s : Sm) : Sm :=
  if soc ≥ 99 ∧ (s.chargeEvent = .chargingOk ∨ s.chargeEvent = .chargingLow ∨ s.chargeEvent = .attached) then
    Sm.note .disableReasonAdd { s with chargeEvent := .disabled }
  else s

def headsetSmLimboChargeLedChoice (soc : ℕ) (s : Sm) : ℕ × Sm :=
  let s := testDisableAtSoc soc s
  if headsetSmChargeCompleted s.chargeEvent s.connected then
    if soc ≤ 90 then (1, Sm.note .disableReasonClear { s with chargeHigh := false })
    else (2, { s with chargeHigh := true })
  else if s.chargeEvent = .chargingOk ∨ s.chargeEvent = .chargingLow then
    let high := if soc ≥ 95 then true else if soc ≤ 92 then false else s.chargeHigh
    (if high then 2 else 1, { s with chargeHigh := high })
  else if s.chargeEvent = .attached then (3, s)
  else (0, { s with chargeHigh := false })

def showLimboDisplay (choice : ℕ) (s : Sm) : Sm :=
  if choice = 1 ∨ choice = 2 ∨ choice = 3 ∨ s.connected ∨ s.chargeEvent.cableIn then
    headsetSmLogChargeVbat (Sm.note (.uiRefresh .limbo) (s.note .displayResume))
  else headsetSmStopChargeVbatLog (s.note .displayBlank)

def headsetSmApplyLimboChargeLed (e : Env) (s : Sm) : Sm :=
  if s.state ≠ .limbo then s
  else
    let s := if s.socRegistered then s else { s with socRegistered := e.socRegister }
    let chosen := headsetSmLimboChargeLedChoice e.soc s
    let choice := chosen.1
    let s := showLimboDisplay choice chosen.2
    if choice = 3 ∨ choice = s.chargeLed then s
    else
      let s := { s with chargeLed := choice }
      if choice = 1 then (headsetSmStopLimboTimer s).note (.setPattern .limboCharging)
      else if choice = 2 then (headsetSmStopLimboTimer s).note (.setPattern .limboCharged)
      else if s.connected ∨ s.chargeEvent = .completed ∨ s.chargeEvent = .attached then
        headsetSmStopLimboTimer s
      else headsetSmStartLimboTimer (s.note .stopPattern)

def headsetSmNoteChargerEvent (e : Env) (id : ChargerMessage) (s : Sm) : Sm :=
  headsetSmApplyLimboChargeLed e { s with chargeEvent := id }

def headsetSmHandleTimeoutLimbo (s : Sm) : Sm :=
  if s.state = .limbo then
    if s.connected ∨ s.chargeEvent.cableIn then headsetSmStopLimboTimer s
    else (s.note .powerSave).note .powerOffRequest
  else s

def headsetEnterLimbo (e : Env) (s : Sm) : Sm :=
  headsetSmApplyLimboChargeLed e (headsetSmStartLimboTimer s)

def headsetExitLimbo (s : Sm) : Sm :=
  Sm.note .stopPattern { headsetSmStopLimboTimer s with chargeLed := 0 }

/-- The other states' entry and exit functions touch none of these variables. -/
def headsetSetState (e : Env) (new : HeadsetState) (s : Sm) : Sm :=
  let s := if s.state = .limbo then headsetExitLimbo s else s
  let s := Sm.note (.uiRefresh new) { s with state := new }
  if new = .limbo then headsetEnterLimbo e s else s

def leavePoweringOff (e : Env) (s : Sm) : Sm :=
  if s.state = .poweringOff then headsetSetState e .limbo s else s

def handleCharger (e : Env) (m : ChargerMessage) (s : Sm) : Sm :=
  match m with
  | .attached | .chargingOk | .chargingLow => headsetSmNoteChargerEvent e m (leavePoweringOff e s)
  | .detached | .completed | .disabled => headsetSmNoteChargerEvent e m s

inductive Event where
  | charger (m : ChargerMessage)
  | socUpdate
  | limboTimeout
  | vbatLog
  | setState (new : HeadsetState)

def plug (m : ChargerMessage) (connected : Bool) : Bool :=
  match m with
  | .attached => true
  | .detached => false
  | _ => connected

def step (s : Sm) (ev : Env × Event) : Sm :=
  match ev.2 with
  | .charger m => handleCharger ev.1 m (Sm.note (.charger m) { s with connected := plug m s.connected })
  | .socUpdate => headsetSmApplyLimboChargeLed ev.1 s
  | .limboTimeout =>
    if 0 < s.limboTimers then headsetSmHandleTimeoutLimbo { s with limboTimers := s.limboTimers - 1 } else s
  | .vbatLog => if 0 < s.vbatTimers then headsetSmLogChargeVbat { s with vbatTimers := s.vbatTimers - 1 } else s
  | .setState new => headsetSetState ev.1 new s

def run (evs : List (Env × Event)) : Sm := evs.foldl step Sm.boot

end SmartHelmet.Headset
