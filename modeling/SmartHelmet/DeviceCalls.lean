import SmartHelmet.ChangeFeed
import SmartHelmet.DeviceFrames

namespace SmartHelmet.Device

open Headset Power

def changeOf : DeviceMessage → Option (SystemState × SystemState)
  | .headset (.systemStateChange old new) => some (old, new)
  | _ => none

/-- The changes of the system state that the headset has not seen yet. -/
def feed (queue : List DeviceMessage) : List (SystemState × SystemState) := queue.filterMap changeOf

def isStopCfm : DeviceMessage → Bool
  | .transition .topologyStopCfm => true
  | _ => false

def owesStopCfm (t : StereoTopology) : Bool := decide (t.state = .stopping ∧ t.appTask = some .transition)

def stopTokens (d : Chip) : ℕ := d.queue.countP isStopCfm + (owesStopCfm d.topology).toNat

def StopTimed (t : StereoTopology) : Prop := 0 < t.stopTimers → t.state = .stopping

structure Calls (changes : List (SystemState × SystemState)) (d d' : Chip) : Prop where
  system : ∃ overrun out, d'.system = { d.system with overrun := overrun, out := out }
  headset : d'.headset = d.headset
  queue : ∃ new, d'.queue = d.queue ++ new ∧ feed new = changes
  tokens : stopTokens d' ≤ stopTokens d
  timed : StopTimed d.topology → StopTimed d'.topology
  halted : d.halted = true → d'.halted = true

namespace Calls

variable {changes changes' : List (SystemState × SystemState)} {d d' d'' : Chip}

theorem refl (d : Chip) : Calls [] d d := ⟨⟨_, _, rfl⟩, rfl, ⟨[], (List.append_nil _).symm, rfl⟩, le_rfl, id, id⟩

theorem trans (h : Calls changes d d') (h' : Calls changes' d' d'') : Calls (changes ++ changes') d d'' := by
  obtain ⟨overrun, out, hsystem⟩ := h.system
  obtain ⟨overrun', out', hsystem'⟩ := h'.system
  obtain ⟨new, hqueue, hnew⟩ := h.queue
  obtain ⟨new', hqueue', hnew'⟩ := h'.queue
  refine ⟨⟨overrun', out', ?_⟩, h'.headset.trans h.headset, ⟨new ++ new', ?_, ?_⟩, h'.tokens.trans h.tokens,
    fun ht => h'.timed (h.timed ht), fun hd => h'.halted (h.halted hd)⟩
  · rw [hsystem', hsystem]
  · rw [hqueue', hqueue, List.append_assoc]
  · rw [← hnew, ← hnew']
    exact List.filterMap_append

theorem of_fields (hsystem : d'.system = d.system) (hheadset : d'.headset = d.headset) (hqueue : d'.queue = d.queue)
    (htopology : d'.topology = d.topology) (hhalted : d.halted = true → d'.halted = true) : Calls [] d d' := by
  refine ⟨⟨_, _, hsystem⟩, hheadset, ⟨[], by rw [hqueue, List.append_nil], rfl⟩, ?_, ?_, hhalted⟩
  · unfold stopTokens
    rw [hqueue, htopology]
  · rw [htopology]
    exact id

theorem foldl {α : Type} {f : Chip → α → Chip} (hf : ∀ d a, Calls [] d (f d a)) (l : List α) (d : Chip) :
    Calls [] d (l.foldl f d) := by
  induction l generalizing d with
  | nil => exact refl d
  | cons a l ih => exact (hf d a).trans (ih (f d a))

theorem feed_eq (h : Calls changes d d') : feed d'.queue = feed d.queue ++ changes := by
  obtain ⟨new, hqueue, hnew⟩ := h.queue
  rw [hqueue, ← hnew]
  exact List.filterMap_append

end Calls

theorem filterMap_cons_toList {α β : Type} (f : α → Option β) (a : α) (l : List α) :
    (a :: l).filterMap f = (f a).toList ++ l.filterMap f := by
  cases hf : f a with
  | none => rw [List.filterMap_cons_none hf, Option.toList_none, List.nil_append]
  | some b => rw [List.filterMap_cons_some hf, Option.toList_some, List.singleton_append]

theorem calls_send (d : Chip) {m : DeviceMessage} (hm : isStopCfm m = false) :
    Calls (changeOf m).toList d (d.send m) := by
  refine ⟨⟨_, _, rfl⟩, rfl, ⟨[m], rfl, ?_⟩, ?_, id, id⟩
  · exact (filterMap_cons_toList changeOf m []).trans (List.append_nil _)
  · change (d.queue ++ [m]).countP isStopCfm + _ ≤ _
    rw [List.countP_append, List.countP_singleton, hm, if_neg Bool.false_ne_true]
    exact le_rfl

section Topology

def topologyMessage : TopologyOut → Option DeviceMessage
  | .stopCfm (some .transition) _ => some (.transition .topologyStopCfm)
  | .stopCfm (some .headset) _ => some (.headset .topologyStopCfm)
  | _ => none

theorem topologyCall_eq (f : StereoTopology → StereoTopology) (d : Chip) :
    d.topologyCall f = { d with
      topology := { f { d.topology with out := [] } with out := [] }
      queue := d.queue ++ (f { d.topology with out := [] }).out.reverse.filterMap topologyMessage } := by
  have hone : ∀ (d : Chip) (o : TopologyOut),
      d.performTopologyOut o = { d with queue := d.queue ++ (topologyMessage o).toList } := by
    have hquiet : ∀ d : Chip, d = { d with queue := d.queue ++ [] } := by
      intro d
      rw [List.append_nil]
    intro d o
    cases o with
    | stopCfm task success =>
      cases task with
      | none => exact hquiet d
      | some r => cases r <;> rfl
    | setEvent ev => exact hquiet d
    | resetEvents => exact hquiet d
  have hfold : ∀ (outs : List TopologyOut) (d : Chip),
      outs.foldl Chip.performTopologyOut d = { d with queue := d.queue ++ outs.filterMap topologyMessage } := by
    intro outs
    induction outs with
    | nil =>
      intro d
      rw [List.foldl_nil, List.filterMap_nil, List.append_nil]
    | cons o outs ih =>
      intro d
      rw [List.foldl_cons, ih, hone, filterMap_cons_toList, ← List.append_assoc]
  unfold Chip.topologyCall
  dsimp only
  rw [hfold]

structure Keeps (t t' : StereoTopology) : Prop where
  tokens : (t'.out.filterMap topologyMessage).countP isStopCfm + (owesStopCfm t').toNat ≤ (owesStopCfm t).toNat
  timed : StopTimed t → StopTimed t'

theorem feed_topologyMessages (outs : List TopologyOut) : feed (outs.filterMap topologyMessage) = [] := by
  unfold feed
  rw [List.filterMap_filterMap, List.filterMap_eq_nil_iff]
  intro o _
  cases o with
  | stopCfm task success =>
    cases task with
    | none => rfl
    | some r => cases r <;> rfl
  | setEvent | resetEvents => rfl

theorem calls_topologyCall {f : StereoTopology → StereoTopology} (d : Chip)
    (hf : Keeps d.topology (f { d.topology with out := [] })) : Calls [] d (d.topologyCall f) := by
  rw [topologyCall_eq]
  generalize f { d.topology with out := [] } = t at hf ⊢
  refine ⟨⟨_, _, rfl⟩, rfl, ⟨_, rfl, feed_topologyMessages _⟩, ?_, hf.timed, id⟩
  unfold stopTokens
  dsimp only
  rw [List.countP_append, List.filterMap_reverse, List.countP_reverse, Nat.add_assoc]
  exact Nat.add_le_add_left hf.tokens _

variable (t : StereoTopology)

theorem keeps_start : Keeps t (stereoTopologyStart { t with out := [] }) := by
  obtain ⟨state, appTask, prohibit, shutdown, stopTimers, out⟩ := t
  cases state with
  | stopped => exact ⟨Nat.zero_le _, fun ht hpos => absurd (ht hpos) TopologyState.noConfusion⟩
  | starting | started | stopping => exact ⟨(Nat.zero_add _).le, id⟩

theorem keeps_stop : Keeps t (stereoTopologyStop .headset { t with out := [] }) := by
  obtain ⟨state, appTask, prohibit, shutdown, stopTimers, out⟩ := t
  cases state with
  | stopped => exact ⟨Nat.zero_le _, fun _ hpos => absurd hpos (lt_irrefl 0)⟩
  | starting => exact ⟨Nat.zero_le _, id⟩
  | started => exact ⟨Nat.zero_le _, fun _ _ => rfl⟩
  | stopping => exact ⟨Nat.zero_le _, id⟩

theorem keeps_prohibit (on : Bool) : Keeps t (stereoTopologyProhibitHandsetConnection on { t with out := [] }) := by
  cases on with
  | false => exact ⟨(Nat.zero_add _).le, id⟩
  | true => exact ⟨(Nat.zero_add _).le, id⟩

theorem keeps_goal (allow : Bool) : Keeps t (stereoTopologyGoalProcComplete allow { t with out := [] }) := by
  obtain ⟨state, appTask, prohibit, shutdown, stopTimers, out⟩ := t
  cases state with
  | starting =>
    cases allow with
    | true => exact ⟨Nat.zero_le _, fun ht hpos => absurd (ht hpos) TopologyState.noConfusion⟩
    | false => exact ⟨(Nat.zero_add _).le, id⟩
  | stopped | started | stopping => cases allow <;> exact ⟨(Nat.zero_add _).le, id⟩

theorem keeps_confirmed (success : Bool) (hstate : t.state = .stopping) (timers : ℕ) :
    Keeps t (StereoTopology.enterStopped (StereoTopology.sendStopCfm success { t with stopTimers := timers, out := [] })) := by
  obtain ⟨state, appTask, prohibit, shutdown, stopTimers, out⟩ := t
  cases hstate
  refine ⟨?_, fun _ hpos => absurd hpos (lt_irrefl 0)⟩
  cases appTask with
  | none => exact Nat.zero_le _
  | some r => cases r <;> exact le_rfl

theorem keeps_stopFinished : Keeps t (stereoTopologyHandleStopCompletion { t with out := [] }) := by
  by_cases hstate : t.state = .stopping
  · have heq : stereoTopologyHandleStopCompletion { t with out := [] } =
        StereoTopology.enterStopped (StereoTopology.sendStopCfm true { t with stopTimers := t.stopTimers, out := [] }) :=
      if_pos hstate
    rw [heq]
    exact keeps_confirmed t true hstate t.stopTimers
  · have heq : stereoTopologyHandleStopCompletion { t with out := [] } = { t with out := [] } := if_neg hstate
    rw [heq]
    exact ⟨(Nat.zero_add _).le, id⟩

end Topology

theorem calls_playPrompt (task : Client) (m : ClientMessage) (d : Chip) : Calls [] d (d.playPrompt task m) := by
  unfold Chip.playPrompt
  split
  · exact .of_fields rfl rfl rfl rfl id
  · exact .refl d

theorem calls_playPrompts (d : Chip) (o : Entry Client) : Calls [] d (d.playPrompts o) := by
  cases o with
  | send task m => exact calls_playPrompt task m d
  | _ => exact .refl d

section System

def plainOut : SystemOut TableStep → Bool
  | .ran .topologyStop | .ran .finalPowerOffSleep | .ran .finalEmergencyShutdown => false
  | _ => true

def changedOf : SystemOut TableStep → Option (SystemState × SystemState)
  | .changed old new => some (old, new)
  | .ran _ => none

theorem triggerPowerOn_halted (d : Chip) : d.triggerPowerOn.halted = d.halted := by
  unfold Chip.triggerPowerOn
  generalize (appPowerOn { d.power with log := [] }).log.reverse = entries
  induction entries generalizing d with
  | nil => rfl
  | cons o entries ih =>
    rw [List.foldl_cons, ih]
    cases o with
    | send task m => exact (apply_ite Chip.halted _ _ _).trans (ite_self _)
    | _ => rfl

theorem calls_systemOut (v : DeviceEnv) (d : Chip) {o : SystemOut TableStep} (ho : plainOut o = true)
    (hd : d.halted = false) :
    Calls (changedOf o).toList d (d.performSystemOut v o) ∧ (d.performSystemOut v o).halted = false := by
  unfold Chip.performSystemOut
  rw [if_neg (by rw [hd]; exact Bool.false_ne_true)]
  cases o with
  | changed old new => exact ⟨calls_send d (m := .headset (.systemStateChange old new)) rfl, hd⟩
  | ran a =>
    cases a with
    | triggerPowerOn => exact ⟨Calls.foldl calls_playPrompts _ d, (triggerPowerOn_halted d).trans hd⟩
    | topologyStart =>
      refine ⟨calls_topologyCall d (keeps_start d.topology), ?_⟩
      rw [topologyCall_eq]
      exact hd
    | topologyStop | finalPowerOffSleep | finalEmergencyShutdown => exact absurd ho Bool.false_ne_true
    | usbAudioEnable | enableUpgrade | usbAudioDisable | disableUpgrade | topologyStopCfm => exact ⟨.refl d, hd⟩

theorem calls_systemOuts (v : DeviceEnv) {outs : List (SystemOut TableStep)} (houts : ∀ o ∈ outs, plainOut o = true)
    (d : Chip) (hd : d.halted = false) :
    Calls (outs.filterMap changedOf) d (outs.foldl (Chip.performSystemOut v) d) ∧
      (outs.foldl (Chip.performSystemOut v) d).halted = false := by
  induction outs generalizing d with
  | nil => exact ⟨.refl d, hd⟩
  | cons o outs ih =>
    obtain ⟨hone, hone'⟩ := calls_systemOut v d (houts o List.mem_cons_self) hd
    obtain ⟨hrest, hrest'⟩ := ih (fun o' ho' => houts o' (List.mem_cons_of_mem o ho')) _ hone'
    rw [filterMap_cons_toList]
    exact ⟨hone.trans hrest, hrest'⟩

theorem systemCall_eq (v : DeviceEnv) {f : SystemCtx TableStep Confirmation → SystemCtx TableStep Confirmation}
    (d : Chip) {c : SystemCtx TableStep Confirmation} {outs : List (SystemOut TableStep)}
    (hf : f { d.system with out := [] } = { c with out := outs.reverse }) :
    d.systemCall v f = outs.foldl (Chip.performSystemOut v) { d with system := { c with out := [] } } := by
  unfold Chip.systemCall
  rw [hf]
  dsimp only
  rw [List.reverse_reverse]

theorem systemOut_system (v : DeviceEnv) (d : Chip) (o : SystemOut TableStep) :
    (d.performSystemOut v o).system = d.system := by
  have hprompts : d.triggerPowerOn.system = d.system := by
    unfold Chip.triggerPowerOn
    generalize (appPowerOn { d.power with log := [] }).log.reverse = entries
    induction entries generalizing d with
    | nil => rfl
    | cons o entries ih =>
      rw [List.foldl_cons, ih]
      cases o with
      | send task m => exact (apply_ite Chip.system _ _ _).trans (ite_self _)
      | _ => rfl
  unfold Chip.performSystemOut
  split
  · rfl
  · split
    · rfl
    · exact hprompts
    · rw [topologyCall_eq]
    · rw [topologyCall_eq]
    · rfl
    · split <;> rfl
    all_goals rfl

theorem systemCall_system (v : DeviceEnv) (f : SystemCtx TableStep Confirmation → SystemCtx TableStep Confirmation)
    (d : Chip) : (d.systemCall v f).system = { f { d.system with out := [] } with out := [] } := by
  have hfold : ∀ (outs : List (SystemOut TableStep)) (d : Chip),
      (outs.foldl (Chip.performSystemOut v) d).system = d.system := by
    intro outs
    induction outs with
    | nil => exact fun _ => rfl
    | cons o outs ih =>
      intro d
      rw [List.foldl_cons, ih, systemOut_system]
  unfold Chip.systemCall
  exact hfold _ _

end System

end SmartHelmet.Device
