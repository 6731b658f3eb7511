import SmartHelmet.LimboCharging
import SmartHelmet.SystemStateMachine

/-!
The state machine of the headset. The charger and the limbo timer are the ones of
`LimboCharging`; what the machine asks of the other components is put out in order, newest
first. The build has DFU and fast pair and no coexistence of USB and Bluetooth audio.
-/

namespace SmartHelmet.Headset

inductive SmContext where
  | inactive | active | poweredOff | poweredOn | idle | idleConnected | exitIdle
  deriving DecidableEq

inductive UiInput where
  | powerOn | powerOff | connectHandset | disconnectLruHandset | pairHandset | deleteHandsets
  | enableMultipoint | disableMultipoint | factoryReset
  deriving DecidableEq

inductive DfuMessage where
  | requestedToConfirm | requestedInProgress | started | completed | aborted | readyForSilentCommit
  deriving DecidableEq

inductive RebootReason where
  | none | abruptReset | dfuReset | revertReset
  deriving DecidableEq

inductive Internal where
  | pairHandset | deleteHandsets | factoryReset | powerOff
  deriving DecidableEq

inductive Act where
  | limbo (o : Obs)
  | modulePowerOn | modulePowerOff | modulePowerSave
  | uiRefresh (state : HeadsetState)
  | send (m : Internal)
  | systemPowerOn | systemPowerOff
  | topologyStart | topologyStop | prohibitHandsetConnection (prohibit : Bool)
  | connectMruHandset | disconnectLruHandset | disconnectAllHandsets
  | powerOffRequest | shutdownPrepareResponse
  | wiredMonitoring (on : Bool) | usbAudio (on : Bool) | wiredController (on : Bool)
  | pair (user : Bool) | pairStop | connectable (on : Bool) | closeAcl | configureMultipoint (on : Bool)
  | contextChange (c : SmContext)
  | injectPowerOn (delayed : Bool) | restartReconnectionTimer | setRebootReason (r : RebootReason)
  | deviceNotInUse | gattDbChanged | scoActive (active : Bool)
  | deleteHandsetDevices | deleteAccountKeys | clearPsStore | reboot
  | panic
  deriving DecidableEq

/-- The messages of the other components and of the machine itself. A change of the audio is
one of the stream or, with `call`, of a telephone call. -/
inductive HeadsetMessage where
  | ui (u : UiInput)
  | systemStateChange (old new : Power.SystemState)
  | pairingPairCfm
  | handsetConnected | handsetDisconnected
  | topologyStopCfm
  | topologyHandsetDisconnected (success : Option Bool)
  | audioChange (call : Option Bool) (usb : Bool)
  | charger (m : ChargerMessage) | socUpdate
  | shutdownPrepare
  | internal (m : Internal)
  | ancEnabled | ancDisabled | leakthrough (on : Bool)
  | dfu (m : DfuMessage)
  deriving DecidableEq

inductive HeadsetTimer where
  | idle | limbo | vbatLog | linkComplete | linkTimeout
  deriving DecidableEq

/-- What the other components answer while one message is handled. -/
structure Ambient where
  limbo : Env
  handsetConnected : Bool
  bredrHandsetConnected : Bool
  handsetAddrKnown : Bool
  handsetAddrConnected : Bool
  anyBredrConnected : Bool
  paired : Bool
  a2dpStreaming : Bool
  avPaused : Bool
  scoActive : Bool
  lineInAvailable : Bool
  usbAudioConnected : Bool
  ancEnabled : Bool
  leakthroughEnabled : Bool
  brOnline : Bool
  multipoint : Bool
  multipointConfigured : Bool
  connectedHandsets : ℕ
  maxConnectedHandsets : ℕ
  silentCommit : Bool
  rebootReason : RebootReason

structure SmTaskData where
  limbo : Sm
  userPairing : Bool
  autoPowerOn : Bool
  disconnectLock : Bool
  idleTimers : ℕ
  linkTimers : ℕ
  linkCompletes : ℕ
  panicked : Bool
  out : List Act

/-- The value of the state in `headset_sm.h`, which the module is told. -/
def HeadsetState.code : HeadsetState → ℕ
  | .null => 0
  | .factoryReset => 1
  | .limbo => 2
  | .poweringOn => 3
  | .pairing => 4
  | .idle => 5
  | .busy => 6
  | .terminating => 7
  | .poweringOff => 8

abbrev idleTimeoutMs : ℕ := 600000

abbrev SmTaskData.state (h : SmTaskData) : HeadsetState := h.limbo.state

def SmTaskData.act (a : Act) (h : SmTaskData) : SmTaskData := { h with out := a :: h.out }

def SmTaskData.limboCall (f : Sm → Sm) (h : SmTaskData) : SmTaskData :=
  { h with
    limbo := f h.limbo
    out := ((f h.limbo).log.take ((f h.limbo).log.length - h.limbo.log.length)).map Act.limbo ++ h.out }

def isWiredAudioActive (e : Ambient) : Bool := e.lineInAvailable || e.usbAudioConnected

def isBtAudioActive (e : Ambient) : Bool := e.a2dpStreaming || e.scoActive

def isHeadsetAudioActive (e : Ambient) : Bool := isBtAudioActive e || isWiredAudioActive e

def isA2dpStreamingAndAvrcpPaused (e : Ambient) : Bool := e.a2dpStreaming && e.avPaused

def isActiveState (s : HeadsetState) : Bool := decide (s = .idle ∨ s = .busy)

def headsetSmIsIdleTimerNeedToStart (e : Ambient) (h : SmTaskData) : Bool :=
  decide (h.state = .idle) && !e.handsetConnected && decide (idleTimeoutMs ≠ 0) && !isWiredAudioActive e &&
    !e.ancEnabled && !e.leakthroughEnabled && !e.brOnline

def headsetSMStartIdleTimer (e : Ambient) (h : SmTaskData) : SmTaskData :=
  if idleTimeoutMs ≠ 0 ∧ headsetSmIsIdleTimerNeedToStart e h then { h with idleTimers := 1 } else h

def headsetSMStopIdleTimer (h : SmTaskData) : SmTaskData := { h with idleTimers := 0 }

def startIdleTimerIfNeeded (e : Ambient) (h : SmTaskData) : SmTaskData :=
  if headsetSmIsIdleTimerNeedToStart e h then headsetSMStartIdleTimer e h else h

def headsetSmOnWisunBrOnlineChanged (e : Ambient) (online : Bool) (h : SmTaskData) : SmTaskData :=
  if online then headsetSMStopIdleTimer h else startIdleTimerIfNeeded e h

def headsetSmHandleAncUpdateStateEnableInd (e : Ambient) (h : SmTaskData) : SmTaskData :=
  if e.ancEnabled then headsetSMStopIdleTimer h else h

def headsetSmHandleAncUpdateStateDisableInd (e : Ambient) (h : SmTaskData) : SmTaskData :=
  let h := startIdleTimerIfNeeded e h
  if h.state = .idle then h.act (.uiRefresh .idle) else h

def headsetSmHandleLeakthroughStateInd (e : Ambient) (on : Bool) (h : SmTaskData) : SmTaskData :=
  if on then headsetSMStopIdleTimer h else startIdleTimerIfNeeded e h

def headsetSmDisconnectLink (e : Ambient) : Bool := e.handsetAddrKnown && e.bredrHandsetConnected

def headsetSmInitiateLinkDisconnection (e : Ambient) (h : SmTaskData) : SmTaskData :=
  let h := if headsetSmDisconnectLink e then h.act .disconnectAllHandsets else h
  { h with
    disconnectLock := headsetSmDisconnectLink e
    linkCompletes := h.linkCompletes + 1
    linkTimers := h.linkTimers + 1 }

def headsetSmDeletePairingAndReset (h : SmTaskData) : SmTaskData :=
  SmTaskData.act .reboot (SmTaskData.act .deleteAccountKeys (SmTaskData.act .clearPsStore
    { h with linkTimers := h.linkTimers - 1 }))

def headsetSmHandleInternalLinkDisconnectionComplete (h : SmTaskData) : SmTaskData :=
  SmTaskData.act .deleteAccountKeys (SmTaskData.act .deleteHandsetDevices { h with linkTimers := h.linkTimers - 1 })

def headsetSmLinkDisconnectionTimeout (h : SmTaskData) : SmTaskData :=
  if h.disconnectLock then { h with linkCompletes := 0, disconnectLock := false } else h

def headsetCheckDfu (e : Ambient) (h : SmTaskData) : SmTaskData :=
  if (e.rebootReason = .dfuReset ∨ e.rebootReason = .revertReset) ∧ e.silentCommit = false then
    let h := if e.rebootReason = .dfuReset then h.act .restartReconnectionTimer else h
    let h := h.act (.injectPowerOn true)
    if e.rebootReason = .revertReset then h.act (.setRebootReason .none) else h
  else h

def headsetEnterLimboRest (e : Ambient) (h : SmTaskData) : SmTaskData :=
  let h := headsetCheckDfu e h
  let h := if e.silentCommit then h.act .deviceNotInUse else h
  if h.autoPowerOn then SmTaskData.act (.injectPowerOn false) { h with autoPowerOn := false } else h

def headsetEnterPoweringOn (h : SmTaskData) : SmTaskData := h.act .modulePowerOn

def headsetEnterPoweringOff (h : SmTaskData) : SmTaskData := (h.act .modulePowerOff).act .modulePowerSave

def headsetEnterIdle (e : Ambient) (h : SmTaskData) : SmTaskData :=
  (startIdleTimerIfNeeded e h).act (.contextChange .idle)

def headsetExitIdle (h : SmTaskData) : SmTaskData := (headsetSMStopIdleTimer h).act (.contextChange .exitIdle)

def headsetEnterBusy (e : Ambient) (h : SmTaskData) : SmTaskData :=
  if isWiredAudioActive e then (h.act (.wiredController false)).act .topologyStop else h

def headsetExitBusy (e : Ambient) (h : SmTaskData) : SmTaskData := if isWiredAudioActive e then h else h.act .topologyStart

def headsetEnterPairing (h : SmTaskData) : SmTaskData :=
  SmTaskData.act (.connectable true) (if h.userPairing then h.act (.prohibitHandsetConnection true) else h.act (.pair false))

def headsetExitPairing (h : SmTaskData) : SmTaskData :=
  SmTaskData.act (.prohibitHandsetConnection false) { h.act .pairStop with userPairing := false }

def headsetEnterTerminating (e : Ambient) (h : SmTaskData) : SmTaskData :=
  let h := if e.handsetAddrKnown ∧ e.handsetAddrConnected then h.act .closeAcl else h
  (h.act (.wiredMonitoring false)).act .shutdownPrepareResponse

def headsetSmGetApplicationCurrentContext (e : Ambient) (s : HeadsetState) : SmContext :=
  match s with
  | .null | .limbo | .poweringOn | .poweringOff | .terminating | .factoryReset => .poweredOff
  | .busy | .idle => if e.bredrHandsetConnected then .idleConnected else .idle
  | .pairing => .poweredOn

def exitState (e : Ambient) (h : SmTaskData) : SmTaskData :=
  match h.state with
  | .pairing => headsetExitPairing h
  | .idle => headsetExitIdle h
  | .busy => headsetExitBusy e h
  | .factoryReset => { h.act .panic with panicked := true }
  | .null | .limbo | .poweringOn | .terminating | .poweringOff => h

def enterState (e : Ambient) (new : HeadsetState) (h : SmTaskData) : SmTaskData :=
  match new with
  | .limbo => headsetEnterLimboRest e h
  | .factoryReset => headsetSmDeletePairingAndReset h
  | .poweringOn => headsetEnterPoweringOn h
  | .pairing => headsetEnterPairing h
  | .idle => headsetEnterIdle e h
  | .poweringOff => headsetEnterPoweringOff h
  | .busy => headsetEnterBusy e h
  | .terminating => headsetEnterTerminating e h
  | .null => { h.act .panic with panicked := true }

/-- The exit and the entry of limbo and the module's refresh are in the limbo part. -/
def headsetSetStateFull (e : Ambient) (new : HeadsetState) (h : SmTaskData) : SmTaskData :=
  let h := exitState e h
  if h.panicked then h
  else
    (enterState e new (h.limboCall (headsetSetState e.limbo new))).act
      (.contextChange (headsetSmGetApplicationCurrentContext e new))

def headsetSmDetermineCoreState (e : Ambient) (s : HeadsetState) : HeadsetState :=
  if isActiveState s then (if isHeadsetAudioActive e then .busy else .idle) else s

def headsetSmHandlePowerShutdownPrepareInd (e : Ambient) (h : SmTaskData) : SmTaskData :=
  if h.state = .limbo then (if e.silentCommit then h else h.act .shutdownPrepareResponse)
  else headsetSetStateFull e .terminating h

def headsetSmHandlePoweredOn (e : Ambient) (h : SmTaskData) : SmTaskData :=
  if isWiredAudioActive e then
    if h.state = .poweringOn then headsetSetStateFull e .idle h else h
  else if e.paired then headsetSetStateFull e .idle h
  else
    headsetSetStateFull e .pairing { (h.act (.wiredMonitoring false)).act (.usbAudio false) with userPairing := false }

def headsetSmHandleTimeoutIdle (e : Ambient) (h : SmTaskData) : SmTaskData :=
  if h.state = .idle ∧ e.handsetConnected = false then
    if e.brOnline then { h with idleTimers := 1 } else h.act (.send .powerOff)
  else h

def headsetSmHandleInternalFactoryReset (e : Ambient) (h : SmTaskData) : SmTaskData :=
  match h.state with
  | .null | .factoryReset | .limbo | .poweringOn => h
  | .pairing | .idle | .busy | .terminating | .poweringOff => headsetSetStateFull e .factoryReset h

def headsetSmHandleInternalPairHandset (e : Ambient) (h : SmTaskData) : SmTaskData :=
  if h.state = .idle ∨ isA2dpStreamingAndAvrcpPaused e then
    headsetSetStateFull e .pairing { (h.act (.wiredMonitoring false)).act (.usbAudio false) with userPairing := true }
  else h

def headsetSmHandleInternalDeleteHandsets (e : Ambient) (h : SmTaskData) : SmTaskData :=
  if isActiveState h.state then headsetSmInitiateLinkDisconnection e (h.act (.connectable false)) else h

def headsetSmHandleInternalPowerOff (h : SmTaskData) : SmTaskData :=
  match h.state with
  | .null | .factoryReset | .limbo => h
  | .poweringOn | .pairing | .idle | .busy | .terminating | .poweringOff => h.act .systemPowerOff

def headsetSmHandlePowerOn (h : SmTaskData) : SmTaskData := if h.state = .limbo then h.act .systemPowerOn else h

def headsetSmConnectHandset (e : Ambient) (h : SmTaskData) : SmTaskData :=
  if isWiredAudioActive e then h else h.act .connectMruHandset

def headsetSmEnableMultipoint (e : Ambient) (h : SmTaskData) : SmTaskData :=
  let h := if e.multipoint then h else h.act (.configureMultipoint true)
  if (e.multipoint || e.multipointConfigured) ∧ e.connectedHandsets = 1 then h.act (.connectable true) else h

def headsetSmDisableMultipoint (e : Ambient) (h : SmTaskData) : SmTaskData :=
  if e.multipoint then
    let h := h.act (.configureMultipoint false)
    if e.maxConnectedHandsets < e.connectedHandsets then h.act .disconnectLruHandset else h
  else h

def headsetSmHandleUiInput (e : Ambient) (u : UiInput) (h : SmTaskData) : SmTaskData :=
  match u with
  | .powerOn => headsetSmHandlePowerOn h
  | .powerOff => h.act (.send .powerOff)
  | .connectHandset => headsetSmConnectHandset e h
  | .disconnectLruHandset => h.act .disconnectLruHandset
  | .pairHandset => h.act (.send .pairHandset)
  | .deleteHandsets => h.act (.send .deleteHandsets)
  | .enableMultipoint => headsetSmEnableMultipoint e h
  | .disableMultipoint => headsetSmDisableMultipoint e h
  | .factoryReset => h.act (.send .factoryReset)

def headsetSmHandlePairingPairConfirm (e : Ambient) (h : SmTaskData) : SmTaskData :=
  if h.state = .pairing then
    headsetSetStateFull e .idle ((h.act (.wiredMonitoring true)).act (.usbAudio true))
  else h

def headsetSmHandleHandsetServiceConnectedInd (h : SmTaskData) : SmTaskData :=
  if h.state = .idle then
    (headsetSMStopIdleTimer (h.act (.contextChange .idleConnected))).act (.uiRefresh .idle)
  else h

/-- `none` stands for a status that is neither success nor failure. -/
def headsetSmHandleStereoTopologyHandsetDisInd (e : Ambient) (success : Option Bool) (h : SmTaskData) : SmTaskData :=
  if h.userPairing ∧ h.state = .pairing then
    match success with
    | some true => h.act (.pair true)
    | some false => headsetSetStateFull e .idle h
    | none => h
  else h

def headsetSmUpdateDisconnectingLink (e : Ambient) (h : SmTaskData) : SmTaskData :=
  if h.disconnectLock ∧ e.anyBredrConnected = false then { h with disconnectLock := false } else h

def headsetSmHandleHandsetServiceDisconnectedInd (e : Ambient) (h : SmTaskData) : SmTaskData :=
  let h := headsetSmUpdateDisconnectingLink e h
  let h :=
    if h.state ≠ .pairing ∧ headsetSmDetermineCoreState e h.state = .idle then h.act (.contextChange .idle) else h
  startIdleTimerIfNeeded e h

def headetSmHandleTopologyStopCfm (e : Ambient) (h : SmTaskData) : SmTaskData :=
  if h.state = .poweringOff then (headsetSetStateFull e .limbo h).act .powerOffRequest
  else h.act (.wiredController true)

def headsetSmWiredAudioConnected (e : Ambient) (h : SmTaskData) : SmTaskData :=
  match h.state with
  | .poweringOn | .idle | .busy => headsetSetStateFull e .busy h
  | _ => h

def headsetSmWiredAudioDisconnected (e : Ambient) (h : SmTaskData) : SmTaskData :=
  if h.state = .busy then headsetSetStateFull e .idle h else h

/-- The charger's own state is already the new one when its message is handled. -/
def headsetSmHandleCharger (e : Ambient) (m : ChargerMessage) (h : SmTaskData) : SmTaskData :=
  let h := h.limboCall fun s => Sm.note (.charger m) { s with connected := plug m s.connected }
  match m with
  | .attached | .chargingOk | .chargingLow =>
    (if h.state = .poweringOff then headsetSetStateFull e .limbo h else h).limboCall (headsetSmNoteChargerEvent e.limbo m)
  | .detached | .completed | .disabled => h.limboCall (headsetSmNoteChargerEvent e.limbo m)

def headsetSmHandleAudioChange (e : Ambient) (h : SmTaskData) : SmTaskData :=
  if isActiveState h.state then headsetSetStateFull e (headsetSmDetermineCoreState e h.state) h else h

def noteScoActive (call : Option Bool) (usb : Bool) (h : SmTaskData) : SmTaskData :=
  match call with
  | none => h
  | some ongoing => if usb then h else h.act (.scoActive ongoing)

def headsetSmHandleSystemSartedUpToLimbo (e : Ambient) (h : SmTaskData) : SmTaskData :=
  if h.state = .null then headsetSetStateFull e .limbo h else { h.act .panic with panicked := true }

def headsetSmHandleSystemStateChange (e : Ambient) (old new : Power.SystemState) (h : SmTaskData) : SmTaskData :=
  if old = .startingUp ∧ new = .limbo then headsetSmHandleSystemSartedUpToLimbo e h
  else if old = .limbo ∧ new = .poweringOn then headsetSetStateFull e .poweringOn h
  else if old = .poweringOn ∧ new = .active then headsetSmHandlePoweredOn e h
  else if old = .active ∧ new = .poweringOff then headsetSetStateFull e .poweringOff h
  else h

def headsetSmHandleDfu (m : DfuMessage) (h : SmTaskData) : SmTaskData :=
  match m with
  | .requestedToConfirm => h.act (.setRebootReason .dfuReset)
  | .requestedInProgress => h.act (.setRebootReason .abruptReset)
  | .completed => (h.act .gattDbChanged).act (.setRebootReason .none)
  | .started | .aborted | .readyForSilentCommit => h

def headsetSmHandleInternal (e : Ambient) (m : Internal) (h : SmTaskData) : SmTaskData :=
  match m with
  | .pairHandset => headsetSmHandleInternalPairHandset e h
  | .deleteHandsets => headsetSmHandleInternalDeleteHandsets e h
  | .factoryReset => headsetSmHandleInternalFactoryReset e h
  | .powerOff => headsetSmHandleInternalPowerOff h

def headsetSmHandleMessage (e : Ambient) (m : HeadsetMessage) (h : SmTaskData) : SmTaskData :=
  match m with
  | .ui u => headsetSmHandleUiInput e u h
  | .systemStateChange old new => headsetSmHandleSystemStateChange e old new h
  | .pairingPairCfm => headsetSmHandlePairingPairConfirm e h
  | .handsetConnected => headsetSmHandleHandsetServiceConnectedInd h
  | .handsetDisconnected => headsetSmHandleHandsetServiceDisconnectedInd e h
  | .topologyStopCfm => headetSmHandleTopologyStopCfm e h
  | .topologyHandsetDisconnected success => headsetSmHandleStereoTopologyHandsetDisInd e success h
  | .audioChange call usb => noteScoActive call usb (headsetSmHandleAudioChange e h)
  | .charger m => headsetSmHandleCharger e m h
  | .socUpdate => h.limboCall (headsetSmApplyLimboChargeLed e.limbo)
  | .shutdownPrepare => headsetSmHandlePowerShutdownPrepareInd e h
  | .internal m => headsetSmHandleInternal e m h
  | .ancEnabled => headsetSmHandleAncUpdateStateEnableInd e h
  | .ancDisabled => headsetSmHandleAncUpdateStateDisableInd e h
  | .leakthrough on => headsetSmHandleLeakthroughStateInd e on h
  | .dfu m => headsetSmHandleDfu m h

/-- A timer message is delivered while it is pending; the completion of a disconnection waits
until the lock is open. -/
def headsetSmHandleTimer (e : Ambient) (t : HeadsetTimer) (h : SmTaskData) : SmTaskData :=
  match t with
  | .idle => if 0 < h.idleTimers then headsetSmHandleTimeoutIdle e { h with idleTimers := h.idleTimers - 1 } else h
  | .limbo => h.limboCall fun s => step s (e.limbo, .limboTimeout)
  | .vbatLog => h.limboCall fun s => step s (e.limbo, .vbatLog)
  | .linkComplete =>
    if 0 < h.linkCompletes ∧ h.disconnectLock = false then
      headsetSmHandleInternalLinkDisconnectionComplete { h with linkCompletes := h.linkCompletes - 1 }
    else h
  | .linkTimeout =>
    if 0 < h.linkTimers then headsetSmLinkDisconnectionTimeout { h with linkTimers := h.linkTimers - 1 } else h

/-- `autoPowerOn` is set after a panic or a reboot into the active state. -/
def headsetSmInit (autoPowerOn : Bool) : SmTaskData := ⟨.boot, false, autoPowerOn, false, 0, 0, 0, false, []⟩

end SmartHelmet.Headset
