import SmartHelmet.DeviceCalls

namespace SmartHelmet.Device

open Headset Power

def ending : List SystemState := [.poweredOff, .goingToSleep, .sleeping, .shuttingDown, .shuttingDownPromptly]

structure Gone (c : SystemCtx TableStep Confirmation) : Prop where
  state : c.state ∈ ending
  completion : c.stateOnCompletition ∈ ending

section Gone

variable {c : SystemCtx TableStep Confirmation}

theorem Gone.of_fields (hc : Gone c) (overrun : Bool) (out : List (SystemOut TableStep)) :
    Gone { c with overrun := overrun, out := out } := ⟨hc.state, hc.completion⟩

theorem walkSteps_state (table : List (TransitionStep TableStep Confirmation)) (c : SystemCtx TableStep Confirmation) :
    (walkSteps table c).stateOnCompletition = c.stateOnCompletition ∧
      ((walkSteps table c).state = c.state ∨ (walkSteps table c).state = c.stateOnCompletition) := by
  induction table generalizing c with
  | nil => exact ⟨rfl, .inr rfl⟩
  | cons s rest ih =>
    unfold walkSteps
    split
    · exact ⟨rfl, .inl rfl⟩
    · exact ih _

theorem gone_doTransition (table : List (TransitionStep TableStep Confirmation)) (hstate : c.state ∈ ending)
    (hfinal : c.stateOnCompletition ∈ ending) : Gone (systemStateDoTransition table c) := by
  obtain ⟨hcompletion, hnow⟩ := walkSteps_state (table.drop (nextIndex c.index)) { c with index := nextIndex c.index }
  constructor
  · obtain hnow | hnow := hnow
    · exact hnow ▸ hstate
    · exact hnow ▸ hfinal
  · exact hcompletion ▸ hfinal

theorem receive_awaited {m : Confirmation} {handler : Option TableStep}
    (haccepted : systemStateReceive m c = .accepted handler) :
    ∃ s, c.transition[c.index]? = some s ∧ s.asyncMessageId = some m ∧ handler = s.asyncHandler := by
  unfold systemStateReceive at haccepted
  split at haccepted
  · exact absurd haccepted nofun
  · split at haccepted
    · exact absurd haccepted nofun
    · rename_i s hs
      split at haccepted
      · rename_i hid
        exact ⟨s, hs, hid, (Reception.accepted.inj haccepted).symm⟩
      · exact absurd haccepted nofun

theorem gone_initiate {start : List SystemState} {transitional final : SystemState}
    {table : List (TransitionStep TableStep Confirmation)} (htransitional : transitional ∈ ending) (hfinal : final ∈ ending) :
    Gone (systemStateInitiateTransiton start transitional final table c) ∨
      systemStateInitiateTransiton start transitional final table c = c := by
  unfold systemStateInitiateTransiton
  split
  · exact .inl (gone_doTransition table htransitional hfinal)
  · exact .inr rfl

theorem initiate_rejected {start : List SystemState} {transitional final : SystemState}
    {table : List (TransitionStep TableStep Confirmation)} (hstart : ∀ s ∈ start, s ∉ ending) (hc : Gone c) :
    systemStateInitiateTransiton start transitional final table c = c :=
  if_neg fun hmem => hstart _ hmem hc.state

theorem gone_shutdown : Gone (systemStateShutdown c) ∨ systemStateShutdown c = c :=
  gone_initiate (by decide) (by decide)

theorem gone_sleep : Gone (systemStateSleep c) ∨ systemStateSleep c = c := gone_initiate (by decide) (by decide)

theorem gone_emergency : Gone (systemStateEmergencyShutdown c) := by
  have hending : SystemState.shuttingDownPromptly ∈ ending ∧ SystemState.poweredOff ∈ ending := by decide
  exact gone_doTransition _ hending.1 hending.2

theorem powerOn_rejected (hc : Gone c) : systemStatePowerOn c = c := by
  unfold systemStatePowerOn
  split
  · rfl
  · exact initiate_rejected (by decide) hc

theorem powerOff_rejected (hc : Gone c) : systemStatePowerOff c = c := by
  unfold systemStatePowerOff
  split
  · rfl
  · exact initiate_rejected (by decide) hc

theorem startUp_rejected (hc : Gone c) : systemStateStartUp c = c := initiate_rejected (by decide) hc

end Gone

def Runs (d d' : Chip) : Prop := d'.halted = true ∨ Gone d'.system ∨ Calls [] d d'

namespace Runs

variable {d d' d'' : Chip}

theorem refl (d : Chip) : Runs d d := .inr (.inr (.refl d))

theorem of_calls (h : Calls [] d d') : Runs d d' := .inr (.inr h)

theorem trans (h : Runs d d') (h' : Runs d' d'') : Runs d d'' := by
  obtain hhalted | hgone | hcalls := h'
  · exact .inl hhalted
  · exact .inr (.inl hgone)
  · obtain hhalted | hgone | hcalls' := h
    · exact .inl (hcalls.halted hhalted)
    · obtain ⟨overrun, out, hsystem⟩ := hcalls.system
      exact .inr (.inl (hsystem ▸ hgone.of_fields overrun out))
    · exact .inr (.inr (hcalls'.trans hcalls))

theorem foldl {α : Type} {f : Chip → α → Chip} {l : List α} (hf : ∀ d, ∀ a ∈ l, Runs d (f d a)) (d : Chip) :
    Runs d (l.foldl f d) := by
  induction l generalizing d with
  | nil => exact refl d
  | cons a l ih =>
    exact (hf d a List.mem_cons_self).trans (ih (fun d a' ha' => hf d a' (List.mem_cons_of_mem a ha')) (f d a))

end Runs

theorem systemCall_same (v : DeviceEnv) {f : SystemCtx TableStep Confirmation → SystemCtx TableStep Confirmation}
    (d : Chip) (hf : f { d.system with out := [] } = { d.system with out := [] }) :
    d.systemCall v f = { d with system := { d.system with out := [] } } := by
  rw [@systemCall_eq v f d _ [] hf, List.foldl_nil]

theorem runs_systemCall (v : DeviceEnv) {f : SystemCtx TableStep Confirmation → SystemCtx TableStep Confirmation}
    (hf : ∀ c, Gone (f c) ∨ f c = c) (d : Chip) : Runs d (d.systemCall v f) := by
  obtain hgone | hsame := hf { d.system with out := [] }
  · refine .inr (.inl ?_)
    rw [systemCall_system]
    exact hgone.of_fields (f { d.system with out := [] }).overrun []
  · rw [systemCall_same v d hsame]
    exact .of_calls ⟨⟨_, _, rfl⟩, rfl, ⟨[], (List.append_nil _).symm, rfl⟩, le_rfl, id, id⟩

theorem runs_powerEntry (v : DeviceEnv) (d : Chip) (o : Entry Client) : Runs d (d.performPowerEntry v o) := by
  unfold Chip.performPowerEntry
  split
  · exact .refl d
  · split
    · exact .of_calls (calls_send d (m := .headset .shutdownPrepare) rfl)
    · exact runs_systemCall v (fun _ => gone_shutdown) d
    · exact runs_systemCall v (fun _ => .inl gone_emergency) d
    · exact runs_systemCall v (fun _ => gone_sleep) d
    · exact .inl rfl
    · exact .inl rfl
    · exact .of_calls (calls_playPrompt _ _ d)
    all_goals exact .refl d

theorem runs_powerCall (v : DeviceEnv) (c : Call Client) (d : Chip) : Runs d (d.powerCall v c) := by
  have hset : Calls [] d { d with power := { powerStep { d.power with log := [] } (v.power, c) with log := [] } } :=
    .of_fields rfl rfl rfl rfl id
  exact (Runs.of_calls hset).trans (Runs.foldl (fun d o _ => runs_powerEntry v d o) _)

theorem runs_act (v : DeviceEnv) (d : Chip) {a : Act} (hon : a ≠ .systemPowerOn) (hoff : a ≠ .systemPowerOff) :
    Runs d (d.performAct v a) := by
  unfold Chip.performAct
  split
  · exact .refl d
  · split
    all_goals first
      | exact .of_calls (.of_fields rfl rfl rfl rfl id)
      | exact runs_powerCall v _ d
      | exact absurd rfl hon
      | exact absurd rfl hoff
      | exact .inl rfl
      | skip
    · exact .of_calls (calls_send d (m := .headset (.internal _)) rfl)
    · exact .of_calls (calls_topologyCall d (keeps_start d.topology))
    · exact .of_calls (calls_topologyCall d (keeps_stop d.topology))
    · exact .of_calls (calls_topologyCall d (keeps_prohibit d.topology _))

theorem runs_acts (v : DeviceEnv) {acts : List Act} (hacts : ∀ a ∈ acts, a ≠ .systemPowerOn ∧ a ≠ .systemPowerOff)
    (d : Chip) : Runs d (acts.foldl (Chip.performAct v) d) :=
  Runs.foldl (fun d a ha => runs_act v d (hacts a ha).1 (hacts a ha).2) d

theorem postable_quiet {m : HeadsetMessage} (hm : postable m = true) : changeOf (.headset m) = none := by
  cases m with
  | systemStateChange => exact absurd hm nofun
  | _ => rfl

section Walk

variable {P : Chip → Prop} {ok : HeadsetMessage → Prop} (hcalls : ∀ d d', Calls [] d d' → P d → P d')
  (hcall : ∀ v f d, Handler ok f → P d → P (d.headsetCallInner v f))
include hcalls hcall

theorem walk_headsetCall (v : DeviceEnv) {f : Ambient → SmTaskData → SmTaskData} (hf : Handler ok f) {d : Chip}
    (hd : P d) : P (d.headsetCall v f) := by
  have hinner := hcall v f d hf hd
  unfold Chip.headsetCall
  dsimp only
  split
  · exact wiredControllerEnable_rule v (fun d _ hd => hcalls d _ (.of_fields rfl rfl rfl rfl id) hd) hinner
      (hcall v _ _ .wiredConnected hinner) (hcall v _ _ .wiredDisconnected hinner)
  · exact hinner

theorem walk_wiredControllerMessage (v : DeviceEnv) (m : WiredMessage) {d : Chip} (hd : P d) :
    P (d.wiredControllerMessage v m) := by
  have hconnected : P (d.headsetCall v headsetSmWiredAudioConnected) := walk_headsetCall hcalls hcall v .wiredConnected hd
  have hdisconnected : P (d.headsetCall v headsetSmWiredAudioDisconnected) :=
    walk_headsetCall hcalls hcall v .wiredDisconnected hd
  unfold Chip.wiredControllerMessage
  split
  · exact hd
  · cases m with
    | connectInd => exact hconnected
    | usbEnumerated | usbDeconfigured | disconnectInd =>
      dsimp only
      split
      · assumption
      · exact hd

theorem walk_moduleStep (v : DeviceEnv) (ev : Firmware.Event) {d : Chip} (hd : P d) : P (d.moduleStep v ev) := by
  have hstart : P (d.moduleEvent v ev) := hcalls d _ (.of_fields rfl rfl rfl rfl id) hd
  unfold Chip.moduleStep
  dsimp only
  generalize d.moduleEvent v ev = d' at hstart ⊢
  generalize Chip.brOnlineChanges d.helmet d'.helmet = changes
  induction changes generalizing d' with
  | nil => exact hstart
  | cons online changes ih => exact ih _ (walk_headsetCall hcalls hcall v (.brOnlineChanged online) hstart)

theorem walk_deviceStep (hpower : ∀ v c d, P d → P (d.powerCall v c)) {d : Chip} (hd : P d) (v : DeviceEnv) (ev : DeviceEvent)
    (hdeliver : d.halted = false → ev = .deliver → P (d.deliver v))
    (hstart : d.halted = false → ev = .startUp → P (d.systemCall v systemStateStartUp))
    (htimeout : 0 < d.topology.stopTimers → ev = .stopTimeout → P (d.topologyCall fun t =>
      stereoTopologyHandleStopTimeout { t with stopTimers := t.stopTimers - 1 })) : P (deviceStep d (v, ev)) := by
  have hkeeps : ∀ {d'}, Calls [] d d' → P d' := fun hc => hcalls d _ hc hd
  unfold deviceStep
  split
  · exact hd
  · rename_i hgoes
    have hrun : d.halted = false := Bool.eq_false_iff.mpr hgoes
    cases ev with
    | post m =>
      dsimp only
      split
      · rename_i hm
        have hsent := calls_send d (m := .headset m) rfl
        rw [postable_quiet hm] at hsent
        exact hkeeps hsent
      · exact hd
    | deliver => exact hdeliver hrun rfl
    | timer t => exact walk_headsetCall hcalls hcall v (.timer t) hd
    | wired m => exact walk_wiredControllerMessage hcalls hcall v m hd
    | goalComplete allow => exact hkeeps (calls_topologyCall d (keeps_goal d.topology allow))
    | stopFinished => exact hkeeps (calls_topologyCall d (keeps_stopFinished d.topology))
    | stopTimeout =>
      dsimp only
      split
      · exact htimeout ‹_› rfl
      · exact hd
    | promptPlayed =>
      dsimp only
      split
      · have hplayed : Calls [] d { d with prompts := d.prompts - 1 } := .of_fields rfl rfl rfl rfl id
        exact hkeeps (hplayed.trans (calls_send _ (m := .transition .promptPlaybackCompleted) rfl))
      · exact hd
    | startUp => exact hstart hrun rfl
    | powerCall c =>
      dsimp only
      split
      · exact hpower v c d hd
      · exact hd
    | module m =>
      dsimp only
      split
      · exact walk_moduleStep hcalls hcall v m hd
      · exact hd

end Walk

end SmartHelmet.Device
