import SmartHelmet.DeviceModel
import SmartHelmet.HeadsetOutput

/-!
What the calls of one component leave alone. The headset and the module are changed by the
headset's handlers and by the module's own messages only, so an invariant about them is proved
once for a handler and once for a message of the module.
-/

namespace SmartHelmet.Device

open Headset Power

structure Aside (d d' : Chip) : Prop where
  headset : d'.headset = d.headset
  helmet : d'.helmet = d.helmet
  halted : d.halted = true → d'.halted = true

namespace Aside

variable {d d' d'' : Chip}

theorem refl (d : Chip) : Aside d d := ⟨rfl, rfl, id⟩

theorem trans (h : Aside d d') (h' : Aside d' d'') : Aside d d'' :=
  ⟨h'.headset.trans h.headset, h'.helmet.trans h.helmet, fun hd => h'.halted (h.halted hd)⟩

theorem foldl {α : Type} {f : Chip → α → Chip} (hf : ∀ d a, Aside d (f d a)) (l : List α) (d : Chip) :
    Aside d (l.foldl f d) := by
  induction l generalizing d with
  | nil => exact refl d
  | cons a l ih => exact (hf d a).trans (ih (f d a))

end Aside

theorem aside_topologyOut (d : Chip) (o : TopologyOut) : Aside d (d.performTopologyOut o) := by
  cases o with
  | stopCfm task success =>
    cases task with
    | none => exact .refl d
    | some r => cases r <;> exact ⟨rfl, rfl, id⟩
  | setEvent ev => exact .refl d
  | resetEvents => exact .refl d

theorem aside_topologyCall (f : StereoTopology → StereoTopology) (d : Chip) : Aside d (d.topologyCall f) := by
  have hset : Aside d { d with topology := { f { d.topology with out := [] } with out := [] } } := ⟨rfl, rfl, id⟩
  exact hset.trans (Aside.foldl aside_topologyOut _ _)

theorem aside_playPrompt (task : Client) (m : ClientMessage) (d : Chip) : Aside d (d.playPrompt task m) := by
  unfold Chip.playPrompt
  split
  · exact ⟨rfl, rfl, id⟩
  · exact .refl d

theorem aside_playPrompts (d : Chip) (o : Entry Client) : Aside d (d.playPrompts o) := by
  cases o with
  | send task m => exact aside_playPrompt task m d
  | _ => exact .refl d

theorem aside_systemOut (v : DeviceEnv) (d : Chip) (o : SystemOut TableStep) : Aside d (d.performSystemOut v o) := by
  unfold Chip.performSystemOut
  split
  · exact .refl d
  · split
    · exact ⟨rfl, rfl, id⟩
    · exact Aside.foldl aside_playPrompts _ d
    · exact aside_topologyCall _ d
    · exact aside_topologyCall _ d
    · exact ⟨rfl, rfl, fun _ => rfl⟩
    · split
      · exact ⟨rfl, rfl, fun _ => rfl⟩
      · exact .refl d
    all_goals exact .refl d

theorem aside_systemCall (v : DeviceEnv)
    (f : SystemCtx TableStep Confirmation → SystemCtx TableStep Confirmation) (d : Chip) :
    Aside d (d.systemCall v f) := by
  have hset : Aside d { d with system := { f { d.system with out := [] } with out := [] } } := ⟨rfl, rfl, id⟩
  exact hset.trans (Aside.foldl (aside_systemOut v) _ _)

theorem aside_powerEntry (v : DeviceEnv) (d : Chip) (o : Entry Client) : Aside d (d.performPowerEntry v o) := by
  unfold Chip.performPowerEntry
  split
  · exact .refl d
  · split
    · exact ⟨rfl, rfl, id⟩
    · exact aside_systemCall v _ d
    · exact aside_systemCall v _ d
    · exact aside_systemCall v _ d
    · exact ⟨rfl, rfl, fun _ => rfl⟩
    · exact ⟨rfl, rfl, fun _ => rfl⟩
    · exact aside_playPrompt _ _ d
    all_goals exact .refl d

theorem aside_powerCall (v : DeviceEnv) (c : Call Client) (d : Chip) : Aside d (d.powerCall v c) := by
  have hset : Aside d { d with power := { powerStep { d.power with log := [] } (v.power, c) with log := [] } } :=
    ⟨rfl, rfl, id⟩
  exact hset.trans (Aside.foldl (aside_powerEntry v) _ _)

def moduleEventOf (a : Act) : Option Firmware.Event :=
  match a with
  | .limbo (.uiRefresh s) | .uiRefresh s => some (.uiRefresh s.code)
  | .modulePowerOn => some .powerOn
  | .limbo .powerSave | .modulePowerOff | .modulePowerSave => some .powerOff
  | _ => none

theorem performAct_module (v : DeviceEnv) (d : Chip) (a : Act) (ev : Firmware.Event) (ha : moduleEventOf a = some ev)
    (hrun : d.halted = false) : d.performAct v a = d.moduleEvent v ev := by
  unfold Chip.performAct
  rw [if_neg (by rw [hrun]; exact Bool.false_ne_true)]
  unfold moduleEventOf at ha
  split at ha
  · cases ha
    rfl
  · cases ha
    rfl
  · cases ha
    rfl
  · cases ha
    rfl
  · cases ha
    rfl
  · cases ha
    rfl
  · exact absurd ha (by simp)

theorem performAct_aside (v : DeviceEnv) (d : Chip) (a : Act) (ha : moduleEventOf a = none) :
    Aside d (d.performAct v a) := by
  unfold Chip.performAct
  split
  · exact .refl d
  · split
    · exact absurd ha (by simp [moduleEventOf])
    · exact absurd ha (by simp [moduleEventOf])
    · exact absurd ha (by simp [moduleEventOf])
    · exact absurd ha (by simp [moduleEventOf])
    · exact absurd ha (by simp [moduleEventOf])
    · exact absurd ha (by simp [moduleEventOf])
    · exact aside_powerCall v _ d
    · exact aside_powerCall v _ d
    · exact aside_powerCall v _ d
    · exact ⟨rfl, rfl, id⟩
    · exact aside_systemCall v _ d
    · exact aside_systemCall v _ d
    · exact aside_topologyCall _ d
    · exact aside_topologyCall _ d
    · exact aside_topologyCall _ d
    · exact ⟨rfl, rfl, id⟩
    · exact ⟨rfl, rfl, fun _ => rfl⟩
    · exact ⟨rfl, rfl, fun _ => rfl⟩
    · exact .refl d

theorem performAct_halted (v : DeviceEnv) (d : Chip) (a : Act) (hd : d.halted = true) : d.performAct v a = d :=
  if_pos hd

theorem performAct_headset (v : DeviceEnv) (d : Chip) (a : Act) : (d.performAct v a).headset = d.headset := by
  by_cases hd : d.halted = true
  · rw [performAct_halted v d a hd]
  · cases ha : moduleEventOf a with
    | none => exact (performAct_aside v d a ha).headset
    | some ev => rw [performAct_module v d a ev ha (Bool.eq_false_iff.mpr hd)]; rfl

theorem performActs_halted (v : DeviceEnv) (acts : List Act) (d : Chip) (hd : d.halted = true) :
    acts.foldl (Chip.performAct v) d = d := by
  induction acts with
  | nil => rfl
  | cons a acts ih => rw [List.foldl_cons, performAct_halted v d a hd, ih]

theorem performActs_headset (v : DeviceEnv) (acts : List Act) (d : Chip) :
    (acts.foldl (Chip.performAct v) d).headset = d.headset := by
  induction acts generalizing d with
  | nil => rfl
  | cons a acts ih => rw [List.foldl_cons, ih, performAct_headset]

theorem performActs_stops (v : DeviceEnv) {acts : List Act} {a : Act} (ha : a = .panic ∨ a = .reboot)
    (hmem : a ∈ acts) (d : Chip) : (acts.foldl (Chip.performAct v) d).halted = true := by
  obtain ⟨before, after, rfl⟩ := List.append_of_mem hmem
  rw [List.foldl_append, List.foldl_cons]
  generalize before.foldl (Chip.performAct v) d = d
  have hstop : (d.performAct v a).halted = true := by
    by_cases hd : d.halted = true
    · rw [performAct_halted v d a hd]
      exact hd
    · unfold Chip.performAct
      rw [if_neg hd]
      obtain rfl | rfl := ha <;> rfl
  rw [performActs_halted v after _ hstop]
  exact hstop

/-- The functions of the headset that the device calls, for the messages that are `ok`. -/
inductive Handler (ok : HeadsetMessage → Prop) : (Ambient → SmTaskData → SmTaskData) → Prop where
  | message (m : HeadsetMessage) (hm : ok m) : Handler ok fun e h => headsetSmHandleMessage e m h
  | timer (t : HeadsetTimer) : Handler ok fun e h => headsetSmHandleTimer e t h
  | stopCfm : Handler ok headetSmHandleTopologyStopCfm
  | wiredConnected : Handler ok headsetSmWiredAudioConnected
  | wiredDisconnected : Handler ok headsetSmWiredAudioDisconnected
  | brOnlineChanged (online : Bool) :
      Handler ok fun e h => headsetSmOnWisunBrOnlineChanged { e with brOnline := online } online h

def Act.spoken (a : Act) : Prop :=
  a = .systemPowerOn ∨ a = .systemPowerOff ∨ a = .send .powerOff ∨ a = .wiredController true

theorem spoken_special {m : HeadsetMessage} {h : SmTaskData} {a : Act} (ha : special m h a) : Act.spoken a := by
  unfold special at ha
  split at ha
  · exact .inl ha.2
  · exact .inr (.inr (.inl ha))
  · exact .inr (.inl ha.2.2.2)
  · exact .inr (.inr (.inr ha.2))
  · exact absurd ha id

theorem handler_moves {ok : HeadsetMessage → Prop} {f : Ambient → SmTaskData → SmTaskData} (hf : Handler ok f) (e : Ambient) (h : SmTaskData) :
    ∃ (E : HeadsetState → HeadsetState → Prop) (S : SmTaskData → Act → Prop) (e' : Ambient),
      Moves E S e' h (f e h) ∧ ∀ h a, S h a → Act.spoken a := by
  cases hf with
  | message m hm => exact ⟨_, _, e, moves_message e h m, fun _ _ ha => spoken_special ha⟩
  | timer t =>
    exact ⟨fun _ _ => False, _, e, moves_timer e h t, fun _ _ ha => .inr (.inr (.inl ha.2.2.2.2))⟩
  | stopCfm => exact ⟨_, _, e, moves_stopCfm e h, fun _ _ ha => spoken_special (m := .topologyStopCfm) ha⟩
  | wiredConnected => exact ⟨_, fun _ _ => False, e, moves_wiredConnected e h, fun _ _ ha => absurd ha id⟩
  | wiredDisconnected => exact ⟨_, fun _ _ => False, e, moves_wiredDisconnected e h, fun _ _ ha => absurd ha id⟩
  | brOnlineChanged online =>
    exact ⟨fun _ _ => False, fun _ _ => False, { e with brOnline := online },
      moves_brOnlineChanged { e with brOnline := online } h online, fun _ _ ha => absurd ha id⟩

theorem wiredControllerEnable_rule {P : Chip → Prop} (v : DeviceEnv) {d : Chip}
    (hwired : ∀ (d : Chip) (w : WiredController), P d → P { d with wired := w }) (hd : P d)
    (hconnected : P (d.headsetCallInner v headsetSmWiredAudioConnected))
    (hdisconnected : P (d.headsetCallInner v headsetSmWiredAudioDisconnected)) : P (d.wiredControllerEnable v) := by
  unfold Chip.wiredControllerEnable
  split
  · exact hd
  · exact hwired _ _ (by split; exacts [hd, by split; exacts [hconnected, hdisconnected]])

section Rule

variable {P : Chip → Prop} {ok : HeadsetMessage → Prop} (haside : ∀ d d', Aside d d' → P d → P d')
  (hcall : ∀ v f d, Handler ok f → P d → P (d.headsetCallInner v f))
include haside hcall

theorem rule_wiredControllerEnable (v : DeviceEnv) (d : Chip) (hd : P d) : P (d.wiredControllerEnable v) :=
  wiredControllerEnable_rule v (fun d _ hd => haside d _ ⟨rfl, rfl, id⟩ hd) hd
    (hcall v _ d .wiredConnected hd) (hcall v _ d .wiredDisconnected hd)

theorem rule_headsetCall (v : DeviceEnv) {f : Ambient → SmTaskData → SmTaskData} (hf : Handler ok f) (d : Chip)
    (hd : P d) : P (d.headsetCall v f) := by
  unfold Chip.headsetCall
  dsimp only
  split
  · exact rule_wiredControllerEnable haside hcall v _ (hcall v f d hf hd)
  · exact hcall v f d hf hd

theorem rule_transitionMessage (v : DeviceEnv) (c : Confirmation) (d : Chip) (hd : P d) :
    P (d.transitionMessage v c) := by
  unfold Chip.transitionMessage
  dsimp only
  split
  · exact hd
  · exact haside d _ ⟨rfl, rfl, id⟩ hd
  · rename_i handler _
    have hhandled : P (d.asyncHandler v handler) := by
      unfold Chip.asyncHandler
      split
      · exact rule_headsetCall haside hcall v .stopCfm d hd
      · exact hd
    split
    · exact hhandled
    · exact haside _ _ (aside_systemCall v _ _) hhandled

theorem rule_wiredControllerMessage (v : DeviceEnv) (m : WiredMessage) (d : Chip) (hd : P d) :
    P (d.wiredControllerMessage v m) := by
  have hconnected : P (d.headsetCall v headsetSmWiredAudioConnected) :=
    rule_headsetCall haside hcall v .wiredConnected d hd
  have hdisconnected : P (d.headsetCall v headsetSmWiredAudioDisconnected) :=
    rule_headsetCall haside hcall v .wiredDisconnected d hd
  unfold Chip.wiredControllerMessage
  split
  · exact hd
  · cases m with
    | connectInd => exact hconnected
    | usbEnumerated => exact (apply_ite P _ _ _).mpr (by split <;> assumption)
    | usbDeconfigured => exact (apply_ite P _ _ _).mpr (by split <;> assumption)
    | disconnectInd => exact (apply_ite P _ _ _).mpr (by split <;> assumption)

theorem rule_moduleStep (hmodule : ∀ v ev d, inner ev = true → P d → P (d.moduleEvent v ev)) (v : DeviceEnv)
    (ev : Firmware.Event) (hev : inner ev = true) (d : Chip) (hd : P d) : P (d.moduleStep v ev) := by
  have hstart := hmodule v ev d hev hd
  unfold Chip.moduleStep
  dsimp only
  generalize d.moduleEvent v ev = d' at hstart ⊢
  generalize Chip.brOnlineChanges d.helmet d'.helmet = changes
  induction changes generalizing d' with
  | nil => exact hstart
  | cons online changes ih => exact ih _ (rule_headsetCall haside hcall v (.brOnlineChanged online) d' hstart)

/-- What every handler and every message of the module keeps, and what does not depend on the
other components, every step of the device keeps. -/
theorem deviceStep_rule (hmodule : ∀ v ev d, inner ev = true → P d → P (d.moduleEvent v ev)) (d : Chip)
    (ev : DeviceEnv × DeviceEvent) (hok : ev.2 = .deliver → ∀ m queue, d.queue = .headset m :: queue → ok m) (hd : P d) :
    P (deviceStep d ev) := by
  obtain ⟨v, ev⟩ := ev
  unfold deviceStep
  split
  · exact hd
  · cases ev with
    | post m => exact (apply_ite P _ _ _).mpr (by split; exacts [haside d _ ⟨rfl, rfl, id⟩ hd, hd])
    | deliver =>
      change P (d.deliver v)
      unfold Chip.deliver
      split
      · exact hd
      · exact rule_headsetCall haside hcall v (.message _ (hok rfl _ _ ‹_›)) _ (haside d _ ⟨rfl, rfl, id⟩ hd)
      · exact rule_transitionMessage haside hcall v _ _ (haside d _ ⟨rfl, rfl, id⟩ hd)
    | timer t => exact rule_headsetCall haside hcall v (.timer t) d hd
    | wired m => exact rule_wiredControllerMessage haside hcall v m d hd
    | goalComplete allow => exact haside d _ (aside_topologyCall _ d) hd
    | stopFinished => exact haside _ _ (aside_topologyCall _ d) hd
    | stopTimeout =>
      exact (apply_ite P _ _ _).mpr (by split; exacts [haside _ _ (aside_topologyCall _ d) hd, hd])
    | promptPlayed => exact (apply_ite P _ _ _).mpr (by split; exacts [haside d _ ⟨rfl, rfl, id⟩ hd, hd])
    | startUp => exact haside _ _ (aside_systemCall v _ d) hd
    | powerCall c => exact (apply_ite P _ _ _).mpr (by split; exacts [haside _ _ (aside_powerCall v c d) hd, hd])
    | module m =>
      change P (if inner m then d.moduleStep v m else d)
      split
      · rename_i hinner
        exact rule_moduleStep haside hcall hmodule v m hinner d hd
      · exact hd

end Rule

theorem deviceRun_concat (b : PowerBuild) (v : DeviceEnv) (autoPowerOn : Bool) (evs : List (DeviceEnv × DeviceEvent))
    (ev : DeviceEnv × DeviceEvent) :
    deviceRun b v autoPowerOn (evs ++ [ev]) = deviceStep (deviceRun b v autoPowerOn evs) ev := by
  simp only [deviceRun, List.foldl_append, List.foldl_cons, List.foldl_nil]

end SmartHelmet.Device
