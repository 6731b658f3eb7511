import SmartHelmet.HeadsetMachine

namespace SmartHelmet.Headset

/-- The acts that move neither the module nor the system state and are no power-off by the
machine itself. -/
def Act.plain : Act → Bool
  | .limbo _ | .modulePowerOn | .modulePowerOff | .modulePowerSave | .uiRefresh _ | .send .powerOff
  | .systemPowerOn | .systemPowerOff | .wiredController true | .panic | .reboot => false
  | _ => true

inductive LimboCall (e : Env) : (Sm → Sm) → Prop where
  | apply : LimboCall e (headsetSmApplyLimboChargeLed e)
  | note (m : ChargerMessage) : LimboCall e (headsetSmNoteChargerEvent e m)
  | plug (m : ChargerMessage) : LimboCall e fun s => Sm.note (.charger m) { s with connected := plug m s.connected }
  | limboTimeout : LimboCall e fun s => step s (e, .limboTimeout)
  | vbatLog : LimboCall e fun s => step s (e, .vbatLog)

/-- One move of the machine; `E` are the allowed changes of the state and `S` the acts that the
message has beside the plain ones. -/
inductive Move (E : HeadsetState → HeadsetState → Prop) (S : SmTaskData → Act → Prop) (e : Ambient) :
    SmTaskData → SmTaskData → Prop where
  | act {h : SmTaskData} (a : Act) (ha : a.plain = true ∨ S h a) : Move E S e h (h.act a)
  | setState {h : SmTaskData} (new : HeadsetState) (hedge : E h.state new) :
      Move E S e h (headsetSetStateFull e new h)
  | limbo {h : SmTaskData} {f : Sm → Sm} (hf : LimboCall e.limbo f) : Move E S e h (h.limboCall f)
  | refresh {h : SmTaskData} (hidle : h.state = .idle) : Move E S e h (h.act (.uiRefresh .idle))
  | stopIdle {h : SmTaskData} : Move E S e h (headsetSMStopIdleTimer h)
  | startIdle {h : SmTaskData} : Move E S e h (startIdleTimerIfNeeded e h)
  | consumeIdle {h : SmTaskData} : Move E S e h { h with idleTimers := h.idleTimers - 1 }
  | rearmIdle {h : SmTaskData} (hidle : h.state = .idle) : Move E S e h { h with idleTimers := 1 }
  | pairing {h : SmTaskData} (user : Bool) : Move E S e h { h with userPairing := user }
  | links {h : SmTaskData} (lock : Bool) (timers completes : ℕ) :
      Move E S e h { h with disconnectLock := lock, linkTimers := timers, linkCompletes := completes }
  | panic {h : SmTaskData} : Move E S e h { h.act .panic with panicked := true }

abbrev Moves (E : HeadsetState → HeadsetState → Prop) (S : SmTaskData → Act → Prop) (e : Ambient) :
    SmTaskData → SmTaskData → Prop := Relation.ReflTransGen (Move E S e)

def edge (e : Ambient) (m : HeadsetMessage) (s s' : HeadsetState) : Prop :=
  match m with
  | .systemStateChange old new =>
    (old = .startingUp ∧ new = .limbo ∧ s = .null ∧ s' = .limbo) ∨
    (old = .limbo ∧ new = .poweringOn ∧ s' = .poweringOn) ∨
    (old = .poweringOn ∧ new = .active ∧ (isWiredAudioActive e = true → s = .poweringOn) ∧
      (s' = .idle ∨ s' = .pairing)) ∨
    (old = .active ∧ new = .poweringOff ∧ s' = .poweringOff)
  | .pairingPairCfm => s = .pairing ∧ s' = .idle
  | .topologyStopCfm => s = .poweringOff ∧ s' = .limbo
  | .topologyHandsetDisconnected success => success = some false ∧ s = .pairing ∧ s' = .idle
  | .audioChange _ _ => isActiveState s = true ∧ isActiveState s' = true
  | .charger m => (m = .attached ∨ m = .chargingOk ∨ m = .chargingLow) ∧ s = .poweringOff ∧ s' = .limbo
  | .shutdownPrepare => s ≠ .limbo ∧ s' = .terminating
  | .internal .pairHandset => (s = .idle ∨ isA2dpStreamingAndAvrcpPaused e = true) ∧ s' = .pairing
  | .internal .factoryReset =>
    (s = .pairing ∨ s = .idle ∨ s = .busy ∨ s = .terminating ∨ s = .poweringOff) ∧ s' = .factoryReset
  | _ => False

def special (m : HeadsetMessage) (h : SmTaskData) (a : Act) : Prop :=
  match m with
  | .ui .powerOn => h.state = .limbo ∧ a = .systemPowerOn
  | .ui .powerOff => a = .send .powerOff
  | .internal .powerOff => h.state ≠ .null ∧ h.state ≠ .factoryReset ∧ h.state ≠ .limbo ∧ a = .systemPowerOff
  | .topologyStopCfm => h.state ≠ .poweringOff ∧ a = .wiredController true
  | _ => False

def timerSpecial (e : Ambient) (t : HeadsetTimer) (h : SmTaskData) (a : Act) : Prop :=
  t = .idle ∧ h.state = .idle ∧ e.handsetConnected = false ∧ e.brOnline = false ∧ a = .send .powerOff

def connectedEdge (s s' : HeadsetState) : Prop := (s = .poweringOn ∨ s = .idle ∨ s = .busy) ∧ s' = .busy

def disconnectedEdge (s s' : HeadsetState) : Prop := s = .busy ∧ s' = .idle

section Handlers

variable {E : HeadsetState → HeadsetState → Prop} {S : SmTaskData → Act → Prop} (e : Ambient) (h : SmTaskData)

theorem Moves.act {h h' : SmTaskData} (hm : Moves E S e h h') (a : Act) (ha : a.plain = true := by rfl) :
    Moves E S e h (h'.act a) := hm.tail (.act a (.inl ha))

theorem Moves.actIf {h h' : SmTaskData} (hm : Moves E S e h h') (c : Prop) [Decidable c] (a : Act)
    (ha : a.plain = true := by rfl) : Moves E S e h (if c then h'.act a else h') := by
  split
  · exact hm.act e a ha
  · exact hm

theorem moves_setState {h h' : SmTaskData} (hm : Moves E S e h h') {new : HeadsetState} (hedge : E h'.state new) :
    Moves E S e h (headsetSetStateFull e new h') := hm.tail (.setState new hedge)

theorem moves_startIdle {h h' : SmTaskData} (hm : Moves E S e h h') : Moves E S e h (startIdleTimerIfNeeded e h') :=
  hm.tail .startIdle

theorem moves_systemStateChange (old new : Power.SystemState) :
    Moves (edge e (.systemStateChange old new)) S e h (headsetSmHandleSystemStateChange e old new h) := by
  unfold headsetSmHandleSystemStateChange
  split
  · rename_i hcond
    unfold headsetSmHandleSystemSartedUpToLimbo
    split
    · rename_i hnull
      exact moves_setState e .refl (.inl ⟨hcond.1, hcond.2, hnull, rfl⟩)
    · exact .single .panic
  · split
    · rename_i hcond
      exact moves_setState e .refl (.inr (.inl ⟨hcond.1, hcond.2, rfl⟩))
    · split
      · rename_i hcond
        unfold headsetSmHandlePoweredOn
        split
        · split
          · rename_i hstate
            exact moves_setState e .refl (.inr (.inr (.inl ⟨hcond.1, hcond.2, fun _ => hstate, .inl rfl⟩)))
          · exact .refl
        · rename_i hwired
          have hnot : isWiredAudioActive e = true → h.state = .poweringOn := fun hw => absurd hw hwired
          split
          · exact moves_setState e .refl (.inr (.inr (.inl ⟨hcond.1, hcond.2, hnot, .inl rfl⟩)))
          · have hacts : Moves (edge e (.systemStateChange old new)) S e h
                ((h.act (.wiredMonitoring false)).act (.usbAudio false)) :=
              (Moves.act e .refl (.wiredMonitoring false)).act e (.usbAudio false)
            exact moves_setState e (hacts.tail (.pairing false))
              (.inr (.inr (.inl ⟨hcond.1, hcond.2, hnot, .inr rfl⟩)))
      · split
        · rename_i hcond
          exact moves_setState e .refl (.inr (.inr (.inr ⟨hcond.1, hcond.2, rfl⟩)))
        · exact .refl

theorem moves_pairHandset : Moves (edge e (.internal .pairHandset)) S e h (headsetSmHandleInternalPairHandset e h) := by
  unfold headsetSmHandleInternalPairHandset
  split
  · rename_i hcond
    have hacts : Moves (edge e (.internal .pairHandset)) S e h
        ((h.act (.wiredMonitoring false)).act (.usbAudio false)) :=
      (Moves.act e .refl (.wiredMonitoring false)).act e (.usbAudio false)
    exact moves_setState e (hacts.tail (.pairing true)) ⟨hcond, rfl⟩
  · exact .refl

theorem moves_deleteHandsets : Moves E S e h (headsetSmHandleInternalDeleteHandsets e h) := by
  unfold headsetSmHandleInternalDeleteHandsets headsetSmInitiateLinkDisconnection
  split
  · have hacts := (Moves.act (E := E) (S := S) e (h := h) .refl (.connectable false)).actIf e
      (headsetSmDisconnectLink e = true) .disconnectAllHandsets
    exact hacts.tail (.links _ _ _)
  · exact .refl

theorem moves_factoryReset :
    Moves (edge e (.internal .factoryReset)) S e h (headsetSmHandleInternalFactoryReset e h) := by
  have hset : (h.state = .pairing ∨ h.state = .idle ∨ h.state = .busy ∨ h.state = .terminating ∨
      h.state = .poweringOff) →
      Moves (edge e (.internal .factoryReset)) S e h (headsetSetStateFull e .factoryReset h) :=
    fun hstate => moves_setState e .refl ⟨hstate, rfl⟩
  unfold headsetSmHandleInternalFactoryReset
  split
  · exact .refl
  · exact .refl
  · exact .refl
  · exact .refl
  · rename_i hs
    exact hset (.inl hs)
  · rename_i hs
    exact hset (.inr (.inl hs))
  · rename_i hs
    exact hset (.inr (.inr (.inl hs)))
  · rename_i hs
    exact hset (.inr (.inr (.inr (.inl hs))))
  · rename_i hs
    exact hset (.inr (.inr (.inr (.inr hs))))

theorem moves_internalPowerOff :
    Moves E (special (.internal .powerOff)) e h (headsetSmHandleInternalPowerOff h) := by
  have hact : ∀ s, h.state = s → s ≠ .null → s ≠ .factoryReset → s ≠ .limbo →
      Moves E (special (.internal .powerOff)) e h (h.act .systemPowerOff) := by
    intro s hs hnull hreset hlimbo
    exact .single (.act _ (.inr ⟨hs ▸ hnull, hs ▸ hreset, hs ▸ hlimbo, rfl⟩))
  unfold headsetSmHandleInternalPowerOff
  split
  · exact .refl
  · exact .refl
  · exact .refl
  · exact hact .poweringOn ‹_› (by decide) (by decide) (by decide)
  · exact hact .pairing ‹_› (by decide) (by decide) (by decide)
  · exact hact .idle ‹_› (by decide) (by decide) (by decide)
  · exact hact .busy ‹_› (by decide) (by decide) (by decide)
  · exact hact .terminating ‹_› (by decide) (by decide) (by decide)
  · exact hact .poweringOff ‹_› (by decide) (by decide) (by decide)

theorem moves_uiInput (u : UiInput) : Moves E (special (.ui u)) e h (headsetSmHandleUiInput e u h) := by
  cases u with
  | powerOn =>
    change Moves E (special (.ui .powerOn)) e h (headsetSmHandlePowerOn h)
    unfold headsetSmHandlePowerOn
    split
    · rename_i hlimbo
      exact .single (.act _ (.inr ⟨hlimbo, rfl⟩))
    · exact .refl
  | powerOff => exact .single (.act _ (.inr rfl))
  | connectHandset =>
    change Moves E _ e h (headsetSmConnectHandset e h)
    unfold headsetSmConnectHandset
    split
    · exact .refl
    · exact Moves.act e .refl _
  | disconnectLruHandset => exact Moves.act e .refl _
  | pairHandset => exact Moves.act e .refl _
  | deleteHandsets => exact Moves.act e .refl _
  | factoryReset => exact Moves.act e .refl _
  | enableMultipoint =>
    change Moves E _ e h (headsetSmEnableMultipoint e h)
    unfold headsetSmEnableMultipoint
    refine Moves.actIf e ?_ _ (.connectable true)
    split
    · exact .refl
    · exact Moves.act e .refl _
  | disableMultipoint =>
    change Moves E _ e h (headsetSmDisableMultipoint e h)
    unfold headsetSmDisableMultipoint
    split
    · exact (Moves.act e .refl (.configureMultipoint false)).actIf e _ .disconnectLruHandset
    · exact .refl

theorem moves_stopCfm :
    Moves (edge e .topologyStopCfm) (special .topologyStopCfm) e h (headetSmHandleTopologyStopCfm e h) := by
  unfold headetSmHandleTopologyStopCfm
  split
  · rename_i hstate
    exact (moves_setState e .refl ⟨hstate, rfl⟩).act e .powerOffRequest
  · rename_i hstate
    exact .single (.act _ (.inr ⟨hstate, rfl⟩))

theorem moves_charger (m : ChargerMessage) : Moves (edge e (.charger m)) S e h (headsetSmHandleCharger e m h) := by
  have hplug := Relation.ReflTransGen.single (Move.limbo (E := edge e (.charger m)) (S := S) (h := h)
    (LimboCall.plug (e := e.limbo) m))
  have hleave : (m = .attached ∨ m = .chargingOk ∨ m = .chargingLow) → ∀ h' : SmTaskData,
      Moves (edge e (.charger m)) S e h h' →
      Moves (edge e (.charger m)) S e h (if h'.state = .poweringOff then headsetSetStateFull e .limbo h' else h') := by
    intro hm h' hto
    split
    · rename_i hstate
      exact moves_setState e hto ⟨hm, hstate, rfl⟩
    · exact hto
  unfold headsetSmHandleCharger
  cases m with
  | attached => exact (hleave (.inl rfl) _ hplug).tail (.limbo (.note _))
  | chargingOk => exact (hleave (.inr (.inl rfl)) _ hplug).tail (.limbo (.note _))
  | chargingLow => exact (hleave (.inr (.inr rfl)) _ hplug).tail (.limbo (.note _))
  | detached => exact hplug.tail (.limbo (.note _))
  | completed => exact hplug.tail (.limbo (.note _))
  | disabled => exact hplug.tail (.limbo (.note _))

theorem moves_handsetDisconnected : Moves E S e h (headsetSmHandleHandsetServiceDisconnectedInd e h) := by
  unfold headsetSmHandleHandsetServiceDisconnectedInd headsetSmUpdateDisconnectingLink
  refine moves_startIdle e (Moves.actIf e ?_ _ _)
  split
  · exact .single (.links false h.linkTimers h.linkCompletes)
  · exact .refl

theorem isActiveState_core (s : HeadsetState) (hs : isActiveState s = true) :
    isActiveState (headsetSmDetermineCoreState e s) = true := by
  unfold headsetSmDetermineCoreState
  rw [if_pos hs]
  split <;> rfl

theorem moves_audioChange (call : Option Bool) (usb : Bool) :
    Moves (edge e (.audioChange call usb)) S e h (noteScoActive call usb (headsetSmHandleAudioChange e h)) := by
  have hcore : Moves (edge e (.audioChange call usb)) S e h (headsetSmHandleAudioChange e h) := by
    unfold headsetSmHandleAudioChange
    split
    · rename_i hs
      exact moves_setState e .refl ⟨hs, isActiveState_core e h.state hs⟩
    · exact .refl
  unfold noteScoActive
  split
  · exact hcore
  · split
    · exact hcore
    · exact hcore.act e _

theorem moves_message (m : HeadsetMessage) : Moves (edge e m) (special m) e h (headsetSmHandleMessage e m h) := by
  cases m with
  | ui u => exact moves_uiInput e h u
  | systemStateChange old new => exact moves_systemStateChange e h old new
  | pairingPairCfm =>
    change Moves _ _ e h (headsetSmHandlePairingPairConfirm e h)
    unfold headsetSmHandlePairingPairConfirm
    split
    · rename_i hstate
      exact moves_setState e ((Moves.act e .refl (.wiredMonitoring true)).act e (.usbAudio true)) ⟨hstate, rfl⟩
    · exact .refl
  | handsetConnected =>
    change Moves _ _ e h (headsetSmHandleHandsetServiceConnectedInd h)
    unfold headsetSmHandleHandsetServiceConnectedInd
    split
    · rename_i hstate
      exact ((Moves.act e .refl (.contextChange .idleConnected)).tail .stopIdle).tail (.refresh hstate)
    · exact .refl
  | handsetDisconnected => exact moves_handsetDisconnected e h
  | topologyStopCfm => exact moves_stopCfm e h
  | topologyHandsetDisconnected success =>
    change Moves _ _ e h (headsetSmHandleStereoTopologyHandsetDisInd e success h)
    unfold headsetSmHandleStereoTopologyHandsetDisInd
    split
    · rename_i hcond
      split
      · exact Moves.act e .refl _
      · exact moves_setState e .refl ⟨rfl, hcond.2, rfl⟩
      · exact .refl
    · exact .refl
  | audioChange call usb => exact moves_audioChange e h call usb
  | charger m => exact moves_charger e h m
  | socUpdate => exact .single (.limbo .apply)
  | shutdownPrepare =>
    change Moves _ _ e h (headsetSmHandlePowerShutdownPrepareInd e h)
    unfold headsetSmHandlePowerShutdownPrepareInd
    split
    · split
      · exact .refl
      · exact Moves.act e .refl _
    · rename_i hstate
      exact moves_setState e .refl ⟨hstate, rfl⟩
  | internal m =>
    cases m with
    | pairHandset => exact moves_pairHandset e h
    | deleteHandsets => exact moves_deleteHandsets e h
    | factoryReset => exact moves_factoryReset e h
    | powerOff => exact moves_internalPowerOff e h
  | ancEnabled =>
    change Moves _ _ e h (headsetSmHandleAncUpdateStateEnableInd e h)
    unfold headsetSmHandleAncUpdateStateEnableInd
    split
    · exact .single .stopIdle
    · exact .refl
  | ancDisabled =>
    change Moves _ _ e h (headsetSmHandleAncUpdateStateDisableInd e h)
    unfold headsetSmHandleAncUpdateStateDisableInd
    dsimp only
    split
    · rename_i hidle
      exact (moves_startIdle e .refl).tail (.refresh hidle)
    · exact moves_startIdle e .refl
  | leakthrough on =>
    change Moves _ _ e h (headsetSmHandleLeakthroughStateInd e on h)
    unfold headsetSmHandleLeakthroughStateInd
    split
    · exact .single .stopIdle
    · exact moves_startIdle e .refl
  | dfu m =>
    cases m with
    | requestedToConfirm => exact Moves.act e .refl _
    | requestedInProgress => exact Moves.act e .refl _
    | completed => exact (Moves.act e .refl .gattDbChanged).act e _
    | started => exact .refl
    | aborted => exact .refl
    | readyForSilentCommit => exact .refl

theorem moves_timer (t : HeadsetTimer) : Moves E (timerSpecial e t) e h (headsetSmHandleTimer e t h) := by
  cases t with
  | limbo => exact .single (.limbo .limboTimeout)
  | vbatLog => exact .single (.limbo .vbatLog)
  | idle =>
    change Moves _ _ e h (if 0 < h.idleTimers then
      headsetSmHandleTimeoutIdle e { h with idleTimers := h.idleTimers - 1 } else h)
    have hconsumed := Relation.ReflTransGen.single (Move.consumeIdle (E := E) (S := timerSpecial e .idle) (e := e) (h := h))
    unfold headsetSmHandleTimeoutIdle
    split
    · split
      · rename_i hcond
        split
        · exact hconsumed.tail (.rearmIdle (h := { h with idleTimers := h.idleTimers - 1 }) hcond.1)
        · rename_i honline
          exact hconsumed.tail
            (.act _ (.inr ⟨rfl, hcond.1, hcond.2, Bool.eq_false_iff.mpr honline, rfl⟩))
      · exact hconsumed
    · exact .refl
  | linkComplete =>
    change Moves _ _ e h (if 0 < h.linkCompletes ∧ h.disconnectLock = false then
      headsetSmHandleInternalLinkDisconnectionComplete { h with linkCompletes := h.linkCompletes - 1 } else h)
    unfold headsetSmHandleInternalLinkDisconnectionComplete
    split
    · have hlinks : Moves E (timerSpecial e .linkComplete) e h
          { h with linkCompletes := h.linkCompletes - 1, linkTimers := h.linkTimers - 1 } :=
        .single (.links h.disconnectLock (h.linkTimers - 1) (h.linkCompletes - 1))
      exact (hlinks.act e .deleteHandsetDevices).act e .deleteAccountKeys
    · exact .refl
  | linkTimeout =>
    change Moves _ _ e h (if 0 < h.linkTimers then
      headsetSmLinkDisconnectionTimeout { h with linkTimers := h.linkTimers - 1 } else h)
    unfold headsetSmLinkDisconnectionTimeout
    split
    · split
      · exact .single (.links false (h.linkTimers - 1) 0)
      · exact .single (.links h.disconnectLock (h.linkTimers - 1) h.linkCompletes)
    · exact .refl

theorem moves_wiredConnected : Moves connectedEdge S e h (headsetSmWiredAudioConnected e h) := by
  unfold headsetSmWiredAudioConnected
  split
  · exact moves_setState e .refl ⟨.inl ‹_›, rfl⟩
  · exact moves_setState e .refl ⟨.inr (.inl ‹_›), rfl⟩
  · exact moves_setState e .refl ⟨.inr (.inr ‹_›), rfl⟩
  · exact .refl

theorem moves_wiredDisconnected : Moves disconnectedEdge S e h (headsetSmWiredAudioDisconnected e h) := by
  unfold headsetSmWiredAudioDisconnected
  split
  · exact moves_setState e .refl ⟨‹_›, rfl⟩
  · exact .refl

theorem moves_brOnlineChanged (online : Bool) : Moves E S e h (headsetSmOnWisunBrOnlineChanged e online h) := by
  unfold headsetSmOnWisunBrOnlineChanged
  split
  · exact .single .stopIdle
  · exact moves_startIdle e .refl

end Handlers

end SmartHelmet.Headset
