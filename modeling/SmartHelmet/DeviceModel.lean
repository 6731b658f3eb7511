import SmartHelmet.HeadsetMachine
import SmartHelmet.ModuleTask
import SmartHelmet.PowerManager
import SmartHelmet.StereoTopology

/-!
The device: the headset's state machine, the system state, the topology, the power manager,
the wired audio controller and the module on one chip. Messages without a delay are delivered
in the order in which they were sent; a delayed one may be delivered at any later point.
-/

namespace SmartHelmet.Device

open Headset Power

inductive Client where
  | headset | topology | audioCuration | prompts | other (id : ℕ)
  deriving DecidableEq

inductive TableStep where
  | triggerPowerOn | topologyStart | usbAudioEnable | enableUpgrade
  | topologyStop | usbAudioDisable | disableUpgrade
  | finalPowerOffSleep | finalEmergencyShutdown
  | topologyStopCfm
  deriving DecidableEq

inductive Confirmation where
  | promptPlaybackCompleted | topologyStopCfm
  deriving DecidableEq

inductive DeviceMessage where
  | headset (m : HeadsetMessage)
  | transition (c : Confirmation)
  deriving DecidableEq

/-- The build plays power prompts unless they are excluded, and may have a USB device. -/
structure PowerBuild where
  prompts : Bool
  usb : Bool

/-- `headset_wired_audio_controller.c`. -/
structure WiredController where
  pause : Bool
  wiredConnected : Bool

inductive WiredMessage where
  | connectInd | usbEnumerated | usbDeconfigured | disconnectInd
  deriving DecidableEq

/-- The queue is oldest first; `prompts` counts the power prompts being played. -/
structure Chip where
  system : SystemCtx TableStep Confirmation
  topology : StereoTopology
  power : PowerManager Client
  wired : WiredController
  headset : SmTaskData
  helmet : Firmware.Helmet
  queue : List DeviceMessage
  prompts : ℕ
  halted : Bool

/-- What the world answers during one step. -/
structure DeviceEnv where
  ambient : Ambient
  power : PowerEnv
  module : Firmware.Env
  world : Firmware.World
  suppliesOff : Bool
  attachedStatusPending : Bool
  usbAudioEnabled : Bool

def powerOnTable (b : PowerBuild) : List (TransitionStep TableStep Confirmation) :=
  [⟨.triggerPowerOn, if b.prompts then some .promptPlaybackCompleted else none, none⟩, ⟨.topologyStart, none, none⟩] ++
    (if b.usb then [⟨.usbAudioEnable, none, none⟩] else []) ++ [⟨.enableUpgrade, none, none⟩]

def powerOffTable (b : PowerBuild) : List (TransitionStep TableStep Confirmation) :=
  [⟨.topologyStop, some .topologyStopCfm, some .topologyStopCfm⟩] ++
    (if b.usb then [⟨.usbAudioDisable, none, none⟩] else []) ++ [⟨.disableUpgrade, none, none⟩]

def tables (b : PowerBuild) : TransitionTables TableStep Confirmation where
  startup := []
  powerOn := powerOnTable b
  powerOff := powerOffTable b
  sleep := []
  shutdown := [⟨.finalPowerOffSleep, none, none⟩]
  emergencyShutdown := [⟨.finalEmergencyShutdown, none, none⟩]

namespace Chip

def send (m : DeviceMessage) (d : Chip) : Chip := { d with queue := d.queue ++ [m] }

def halt (d : Chip) : Chip := { d with halted := true }

def moduleEvent (v : DeviceEnv) (ev : Firmware.Event) (d : Chip) : Chip :=
  { d with helmet := Firmware.step v.world d.helmet v.module ev }

def performTopologyOut (d : Chip) (o : TopologyOut) : Chip :=
  match o with
  | .stopCfm (some .transition) _ => d.send (.transition .topologyStopCfm)
  | .stopCfm (some .headset) _ => d.send (.headset .topologyStopCfm)
  | .stopCfm none _ | .setEvent _ | .resetEvents => d

def topologyCall (f : StereoTopology → StereoTopology) (d : Chip) : Chip :=
  let t := f { d.topology with out := [] }
  t.out.reverse.foldl performTopologyOut { d with topology := { t with out := [] } }

/-- The prompts for power on and power off; their end is told to the transition. -/
def playPrompt (task : Client) (m : ClientMessage) (d : Chip) : Chip :=
  if task = .prompts ∧ (m = .powerOn ∨ m = .powerOff) then { d with prompts := d.prompts + 1 } else d

def playPrompts (d : Chip) (o : Entry Client) : Chip :=
  match o with
  | .send task m => d.playPrompt task m
  | _ => d

/-- `headset_trigger_power_on` tells the clients of the power manager. -/
def triggerPowerOn (d : Chip) : Chip := (appPowerOn { d.power with log := [] }).log.reverse.foldl playPrompts d

/-- Where the supplies stay on, the chip goes dormant unless a charger detection is going on. -/
def performSystemOut (v : DeviceEnv) (d : Chip) (o : SystemOut TableStep) : Chip :=
  if d.halted then d
  else
    match o with
    | .changed old new => d.send (.headset (.systemStateChange old new))
    | .ran .triggerPowerOn => d.triggerPowerOn
    | .ran .topologyStart => d.topologyCall stereoTopologyStart
    | .ran .topologyStop => d.topologyCall (stereoTopologyStop .transition)
    | .ran .finalPowerOffSleep => d.halt
    | .ran .finalEmergencyShutdown => if v.suppliesOff ∨ v.attachedStatusPending = false then d.halt else d
    | .ran .usbAudioEnable | .ran .enableUpgrade | .ran .usbAudioDisable | .ran .disableUpgrade
    | .ran .topologyStopCfm => d

def systemCall (v : DeviceEnv) (f : SystemCtx TableStep Confirmation → SystemCtx TableStep Confirmation)
    (d : Chip) : Chip :=
  let c := f { d.system with out := [] }
  c.out.reverse.foldl (performSystemOut v) { d with system := { c with out := [] } }

def performPowerEntry (v : DeviceEnv) (d : Chip) (o : Entry Client) : Chip :=
  if d.halted then d
  else
    match o with
    | .send .headset .shutdownPrepareInd => d.send (.headset .shutdownPrepare)
    | .systemShutdown => d.systemCall v systemStateShutdown
    | .systemEmergencyShutdown => d.systemCall v systemStateEmergencyShutdown
    | .systemSleep => d.systemCall v systemStateSleep
    | .panic | .listOverrun => d.halt
    | .send task m => d.playPrompt task m
    | .called _ | .cancelAll _ _ | .initCfm => d

def powerCall (v : DeviceEnv) (c : Call Client) (d : Chip) : Chip :=
  let p := powerStep { d.power with log := [] } (v.power, c)
  p.log.reverse.foldl (performPowerEntry v) { d with power := { p with log := [] } }

/-- The controller is asked by the headset's own handlers only; its enabling comes later. -/
def performAct (v : DeviceEnv) (d : Chip) (a : Act) : Chip :=
  if d.halted then d
  else
    match a with
    | .limbo (.uiRefresh s) | .uiRefresh s => d.moduleEvent v (.uiRefresh (HeadsetState.code s))
    | .modulePowerOn => d.moduleEvent v .powerOn
    | .limbo .powerSave | .modulePowerOff | .modulePowerSave => d.moduleEvent v .powerOff
    | .limbo .powerOffRequest | .powerOffRequest => d.powerCall v .offRequest
    | .shutdownPrepareResponse => d.powerCall v (.shutdownPrepareResponse .headset)
    | .send m => d.send (.headset (.internal m))
    | .systemPowerOn => d.systemCall v systemStatePowerOn
    | .systemPowerOff => d.systemCall v systemStatePowerOff
    | .topologyStart => d.topologyCall stereoTopologyStart
    | .topologyStop => d.topologyCall (stereoTopologyStop .headset)
    | .prohibitHandsetConnection on => d.topologyCall (stereoTopologyProhibitHandsetConnection on)
    | .wiredController false => { d with wired := ⟨true, isWiredAudioActive v.ambient⟩ }
    | .reboot | .panic => d.halt
    | _ => d

def ambientOf (v : DeviceEnv) (d : Chip) : Ambient :=
  { v.ambient with brOnline := d.helmet.link.wisun.online && !d.helmet.link.rejoining }

def headsetCallInner (v : DeviceEnv) (f : Ambient → SmTaskData → SmTaskData) (d : Chip) : Chip :=
  let h := f (d.ambientOf v) { d.headset with out := [] }
  h.out.reverse.foldl (performAct v) { d with headset := { h with out := [] } }

def wiredControllerEnable (v : DeviceEnv) (d : Chip) : Chip :=
  if d.halted ∨ d.wired.pause = false then d
  else
    let d :=
      if isWiredAudioActive v.ambient = d.wired.wiredConnected then d
      else if isWiredAudioActive v.ambient then d.headsetCallInner v headsetSmWiredAudioConnected
      else d.headsetCallInner v headsetSmWiredAudioDisconnected
    { d with wired := { d.wired with pause := false } }

/-- The enabling is always the last call of a handler. -/
def headsetCall (v : DeviceEnv) (f : Ambient → SmTaskData → SmTaskData) (d : Chip) : Chip :=
  let d' := d.headsetCallInner v f
  if (f (d.ambientOf v) { d.headset with out := [] }).out.head? = some (.wiredController true) then
    d'.wiredControllerEnable v
  else d'

def headsetMessage (v : DeviceEnv) (m : HeadsetMessage) (d : Chip) : Chip :=
  d.headsetCall v fun e h => headsetSmHandleMessage e m h

/-- Of the tables' handlers there is the one of the topology's confirmation only. -/
def asyncHandler (v : DeviceEnv) (handler : Option TableStep) (d : Chip) : Chip :=
  if handler = some .topologyStopCfm then d.headsetCall v headetSmHandleTopologyStopCfm else d

/-- The handler runs before the transition goes on, along the table of before the handler. -/
def transitionMessage (v : DeviceEnv) (id : Confirmation) (d : Chip) : Chip :=
  let table := d.system.transition
  match systemStateReceive id d.system with
  | .ignored => d
  | .overrun => { d with system := { d.system with overrun := true } }
  | .accepted handler =>
    let d := d.asyncHandler v handler
    if d.halted then d else d.systemCall v (systemStateDoTransition table)

def wiredControllerMessage (v : DeviceEnv) (m : WiredMessage) (d : Chip) : Chip :=
  if d.wired.pause then d
  else
    match m with
    | .connectInd => d.headsetCall v headsetSmWiredAudioConnected
    | .usbEnumerated => if v.usbAudioEnabled then d.headsetCall v headsetSmWiredAudioConnected else d
    | .usbDeconfigured =>
      if v.usbAudioEnabled ∧ isWiredAudioActive v.ambient = false then
        d.headsetCall v headsetSmWiredAudioDisconnected
      else d
    | .disconnectInd =>
      if isWiredAudioActive v.ambient = false then d.headsetCall v headsetSmWiredAudioDisconnected else d

def brOnlineChanges (old new : Firmware.Helmet) : List Bool :=
  ((new.log.take (new.log.length - old.log.length)).reverse.filterMap fun o =>
    match o with
    | .brOnline online => some online
    | _ => none)

def moduleStep (v : DeviceEnv) (ev : Firmware.Event) (d : Chip) : Chip :=
  let d' := d.moduleEvent v ev
  (brOnlineChanges d.helmet d'.helmet).foldl
    (fun d online => d.headsetCall v fun e h => headsetSmOnWisunBrOnlineChanged { e with brOnline := online } online h) d'

def deliver (v : DeviceEnv) (d : Chip) : Chip :=
  match d.queue with
  | [] => d
  | .headset m :: queue => { d with queue := queue }.headsetMessage v m
  | .transition id :: queue => { d with queue := queue }.transitionMessage v id

end Chip

/-- What other components post; the rest of the messages is sent by the components above. -/
def postable : HeadsetMessage → Bool
  | .systemStateChange _ _ | .topologyStopCfm | .shutdownPrepare | .internal _ => false
  | _ => true

/-- The calls that the headset makes itself are made by its handlers only, and the prompts are
registered or not for good. -/
def foreign : Call Client → Bool
  | .register t | .unregister t => decide (t ≠ .headset ∧ t ≠ .prompts)
  | .allowSleep t | .prohibitSleep t | .shutdownPrepareResponse t | .sleepPrepareResponse t => decide (t ≠ .headset)
  | .offRequest | .on | .initComplete | .handlePowerEvent => true

def inner : Firmware.Event → Bool
  | .timer _ _ | .moreData _ | .adcResult _ _ | .lis3dhChk _ => true
  | .init | .powerOn | .powerOff | .close | .uiRefresh _ => false

inductive DeviceEvent where
  | post (m : HeadsetMessage)
  | deliver
  | timer (t : HeadsetTimer)
  | wired (m : WiredMessage)
  | goalComplete (allowHandsetConnect : Bool) | stopFinished | stopTimeout
  | promptPlayed
  | startUp
  | powerCall (c : Call Client)
  | module (ev : Firmware.Event)

open Chip

def deviceStep (d : Chip) (ev : DeviceEnv × DeviceEvent) : Chip :=
  if d.halted then d
  else
    match ev.2 with
    | .post m => if postable m then d.send (.headset m) else d
    | .deliver => d.deliver ev.1
    | .timer t => d.headsetCall ev.1 fun e h => headsetSmHandleTimer e t h
    | .wired m => d.wiredControllerMessage ev.1 m
    | .goalComplete allow => d.topologyCall (stereoTopologyGoalProcComplete allow)
    | .stopFinished => d.topologyCall stereoTopologyHandleStopCompletion
    | .stopTimeout =>
      if 0 < d.topology.stopTimers then
        d.topologyCall fun t => stereoTopologyHandleStopTimeout { t with stopTimers := t.stopTimers - 1 }
      else d
    | .promptPlayed =>
      if 0 < d.prompts then { d with prompts := d.prompts - 1 }.send (.transition .promptPlaybackCompleted) else d
    | .startUp => d.systemCall ev.1 systemStateStartUp
    | .powerCall c => if foreign c then d.powerCall ev.1 c else d
    | .module m => if inner m then d.moduleStep ev.1 m else d

/-- The headset is registered without, the others with the leave to sleep. -/
def powerBoot (b : PowerBuild) : PowerManager Client :=
  { appPowerInit with
    state := .ok
    clients := [(.topology, fun f => decide (f = .allowSleep)), (.headset, fun _ => false),
      (.audioCuration, fun f => decide (f = .allowSleep))] ++
      (if b.prompts then [(.prompts, fun f => decide (f = .allowSleep))] else [])
    initComplete := true }

/-- The chip when the table of the initialisation is through; nothing waits for that table any more. -/
def chipBoot (b : PowerBuild) (v : DeviceEnv) (autoPowerOn : Bool) : Chip where
  system := ⟨.initialised, false, [], 0, .initialised, tables b, false, []⟩
  topology := .boot
  power := powerBoot b
  wired := ⟨false, false⟩
  headset := headsetSmInit autoPowerOn
  helmet := Firmware.step v.world .boot v.module .init
  queue := [.headset (.systemStateChange .initialisation .initialised)]
  prompts := 0
  halted := false

def deviceRun (b : PowerBuild) (v : DeviceEnv) (autoPowerOn : Bool) (evs : List (DeviceEnv × DeviceEvent)) : Chip :=
  evs.foldl deviceStep (chipBoot b v autoPowerOn)

def plainAmbient : Ambient where
  limbo := ⟨50, true⟩
  handsetConnected := false
  bredrHandsetConnected := false
  handsetAddrKnown := true
  handsetAddrConnected := false
  anyBredrConnected := false
  paired := true
  a2dpStreaming := false
  avPaused := false
  scoActive := false
  lineInAvailable := false
  usbAudioConnected := false
  ancEnabled := false
  leakthroughEnabled := false
  brOnline := false
  multipoint := false
  multipointConfigured := false
  connectedHandsets := 0
  maxConnectedHandsets := 1
  silentCommit := false
  rebootReason := .none

def plainDevice : DeviceEnv where
  ambient := plainAmbient
  power := ⟨true, false, false, false⟩
  module := Firmware.plainEnv
  world := Firmware.plainWorld
  suppliesOff := true
  attachedStatusPending := false
  usbAudioEnabled := false

def plainly (evs : List DeviceEvent) : List (DeviceEnv × DeviceEvent) := evs.map fun ev => (plainDevice, ev)

def startedUp : List DeviceEvent := [.startUp, .deliver, .deliver, .deliver]

def poweredUp : List DeviceEvent := startedUp ++ [.post (.ui .powerOn), .deliver, .deliver, .promptPlayed, .deliver, .deliver]

def stopped : List DeviceEvent :=
  poweredUp ++ [.goalComplete true, .post (.ui .powerOff), .deliver, .deliver, .deliver, .stopFinished]

end SmartHelmet.Device
