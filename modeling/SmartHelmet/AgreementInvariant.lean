import SmartHelmet.ModulePower
import SmartHelmet.SystemFollow

/-!
The headset's state agrees with the system state. The headset hears of the changes of the
system state with a delay, so it agrees with the state before the changes still queued. The
agreement is lost by three deliveries only, which the code does not guard against.
-/

namespace SmartHelmet.Device

open Headset Power

/-- What the headset may be in once it has heard of a system state. -/
def follows (seen : SystemState) (s : HeadsetState) : Bool :=
  match seen with
  | .initialisation | .initialised | .startingUp => decide (s = .null ∨ s = .terminating)
  | .limbo => decide (s = .limbo ∨ s = .terminating)
  | .poweringOn => decide (s = .poweringOn ∨ s = .pairing ∨ s = .idle ∨ s = .busy ∨ s = .terminating)
  | .active => decide (s = .pairing ∨ s = .idle ∨ s = .busy ∨ s = .terminating)
  | .poweringOff => decide (s = .poweringOff ∨ s = .limbo ∨ s = .terminating)
  | .poweredOff | .goingToSleep | .sleeping | .shuttingDown | .shuttingDownPromptly => true

def legal (old new : SystemState) : Prop :=
  (old, new) ∈ [(.initialisation, .initialised), (.initialised, .startingUp), (.startingUp, .limbo),
    (.limbo, .poweringOn), (.poweringOn, .active), (.active, .poweringOff), (SystemState.poweringOff, SystemState.limbo)]

instance (old new : SystemState) : Decidable (legal old new) := List.instDecidableMemOfLawfulBEq _ _

abbrev settledDown : SystemState × SystemState := (.poweringOff, .limbo)

def rank : SystemState → ℕ
  | .initialisation => 0
  | .initialised => 1
  | .startingUp => 2
  | .limbo => 3
  | .poweringOn => 4
  | .active => 5
  | .poweringOff => 6
  | .poweredOff | .goingToSleep | .sleeping | .shuttingDown | .shuttingDownPromptly => 7

theorem rank_chain {s last : SystemState} {changes : List (SystemState × SystemState)}
    (hchain : ChangeFeed.Chain legal s changes last) (hnot : settledDown ∉ changes) : rank s ≤ rank last := by
  induction hchain with
  | nil => exact le_rfl
  | @cons s m _ _ hstep _ ih =>
    have hrest := ih fun hmem => hnot (List.mem_cons_of_mem _ hmem)
    have hup : (s, m) ≠ settledDown → rank s ≤ rank m := by
      revert hstep
      cases s <;> cases m <;> decide
    exact (hup fun heq => hnot (heq ▸ List.mem_cons_self)).trans hrest

/-- The deliveries that the code does not guard: a power-off while the system is still powering
on; the power-on key while it is still powering off, with the headset in limbo already; and a
request to pair outside the powered states, while a paused stream is up. -/
def racy (d : Chip) (ev : DeviceEnv × DeviceEvent) : Bool :=
  match ev.2, d.queue with
  | .deliver, .headset (.internal .powerOff) :: _ =>
    decide (d.system.state = .poweringOn ∧ d.headset.state ∉ [HeadsetState.null, .factoryReset, .limbo])
  | .deliver, .headset (.ui .powerOn) :: _ => decide (d.system.state = .poweringOff ∧ d.headset.state = .limbo)
  | .deliver, .headset (.internal .pairHandset) :: _ =>
    decide (isA2dpStreamingAndAvrcpPaused (d.ambientOf ev.1) = true ∧
      d.headset.state ∈ [HeadsetState.null, .limbo, .terminating, .poweringOff])
  | _, _ => false

def raceFree (d : Chip) : List (DeviceEnv × DeviceEvent) → Bool
  | [] => true
  | ev :: evs => !racy d ev && raceFree (deviceStep d ev) evs

abbrev Follow (d : Chip) (now : SystemState) : Prop :=
  ChangeFeed.Agrees legal (fun seen s => follows seen s = true) d.headset.state (feed d.queue) now

structure Told (now : SystemState) (d : Chip) : Prop where
  agrees : Follow d now
  late : settledDown ∉ (feed d.queue).tail
  left : (feed d.queue).head? = some settledDown → d.headset.state = .limbo ∨ d.headset.state = .terminating
  settled : d.queue.Pairwise fun m m' => isStopCfm m = true → changeOf m' = none
  timed : StopTimed d.topology
  calm : d.headset.panicked = false
  kept : d.headset.state ≠ .factoryReset

structure Waits (table : List (TransitionStep TableStep Confirmation)) (final : SystemState)
    (c : SystemCtx TableStep Confirmation) : Prop where
  transition : c.transition = table
  index : c.index = 0
  completion : c.stateOnCompletition = final

/-- What the transition waits for; `tokens` are the confirmations that it can still get. -/
def Phase (b : PowerBuild) (c : SystemCtx TableStep Confirmation) (tokens : ℕ) : Prop :=
  match c.state with
  | .poweringOn => b.prompts = true ∧ Waits (powerOnTable b) .active c ∧ tokens = 0
  | .poweringOff => Waits (powerOffTable b) .limbo c ∧ tokens ≤ 1
  | .initialised | .limbo | .active => c.transition.length ≤ c.index ∧ tokens = 0
  | _ => False

structure Live (b : PowerBuild) (d : Chip) : Prop where
  tables : d.system.tables = Device.tables b
  limbo : d.system.isLimboRemoved = false
  phase : Phase b d.system (stopTokens d)
  told : Told d.system.state d

def Track (b : PowerBuild) (d : Chip) : Prop := d.halted = true ∨ Gone d.system ∨ Live b d

section Frames

variable {b : PowerBuild} {now new : SystemState} {d d' : Chip}

theorem settled_append {queue added : List DeviceMessage}
    (hs : queue.Pairwise fun m m' => isStopCfm m = true → changeOf m' = none) (hadded : feed added = []) :
    (queue ++ added).Pairwise fun m m' => isStopCfm m = true → changeOf m' = none := by
  have hnone : ∀ m ∈ added, changeOf m = none := List.filterMap_eq_nil_iff.mp hadded
  rw [List.pairwise_append]
  refine ⟨hs, ?_, fun m _ m' hm' _ => hnone m' hm'⟩
  exact List.pairwise_of_forall_mem_list fun _ _ m' hm' _ => hnone m' hm'

theorem settled_of_tokens (ht : stopTokens d = 0) :
    d.queue.Pairwise fun m m' => isStopCfm m = true → changeOf m' = none := by
  have hcount : d.queue.countP isStopCfm = 0 := Nat.eq_zero_of_add_eq_zero_right ht
  have hnone : ∀ m ∈ d.queue, ¬ isStopCfm m = true := List.countP_eq_zero.mp hcount
  exact List.pairwise_of_forall_mem_list fun m hm _ _ hcfm => absurd hcfm (hnone m hm)

theorem told_calls (ht : Told now d) (hc : Calls [] d d') : Told now d' := by
  have hfeed : feed d'.queue = feed d.queue := hc.feed_eq.trans (List.append_nil _)
  obtain ⟨added, hqueue, hadded⟩ := hc.queue
  constructor
  · rw [Follow, hfeed, hc.headset]
    exact ht.agrees
  · rw [hfeed]
    exact ht.late
  · rw [hfeed, hc.headset]
    exact ht.left
  · rw [hqueue]
    exact settled_append ht.settled hadded
  · exact hc.timed ht.timed
  · rw [hc.headset]
    exact ht.calm
  · rw [hc.headset]
    exact ht.kept

theorem told_changes {changes : List (SystemState × SystemState)} (ht : Told now d) (hc : Calls changes d d')
    (hchain : ChangeFeed.Chain legal now changes new) (hother : settledDown ∉ changes) (htokens : stopTokens d = 0) :
    Told new d' := by
  have hfeed := hc.feed_eq
  constructor
  · rw [Follow, hfeed, hc.headset]
    exact ht.agrees.send hchain
  · rw [hfeed]
    cases hq : feed d.queue with
    | nil => exact fun hmem => hother (List.mem_of_mem_tail hmem)
    | cons c rest =>
      rw [List.cons_append, List.tail_cons, List.mem_append]
      rintro (hmem | hmem)
      · exact ht.late (by rw [hq]; exact hmem)
      · exact hother hmem
  · rw [hfeed, hc.headset]
    cases hq : feed d.queue with
    | nil => exact fun hhead => absurd (List.mem_of_mem_head? hhead) hother
    | cons c rest =>
      intro hhead
      exact ht.left (by rw [hq]; exact hhead)
  · exact settled_of_tokens (Nat.eq_zero_of_le_zero (htokens ▸ hc.tokens))
  · exact hc.timed ht.timed
  · rw [hc.headset]
    exact ht.calm
  · rw [hc.headset]
    exact ht.kept

theorem told_settledDown (ht : Told .poweringOff d) (hc : Calls [settledDown] d d') (hseen : feed d.queue = [])
    (hleft : d.headset.state = .limbo ∨ d.headset.state = .terminating) (htokens : stopTokens d = 0) :
    Told .limbo d' := by
  have hfeed : feed d'.queue = [settledDown] := by rw [hc.feed_eq, hseen, List.nil_append]
  constructor
  · rw [Follow, hc.feed_eq, hc.headset]
    exact ht.agrees.send (.cons (by decide) (.nil _))
  · rw [hfeed]
    exact List.not_mem_nil
  · rw [hc.headset]
    exact fun _ => hleft
  · exact settled_of_tokens (Nat.eq_zero_of_le_zero (htokens ▸ hc.tokens))
  · exact hc.timed ht.timed
  · rw [hc.headset]
    exact ht.calm
  · rw [hc.headset]
    exact ht.kept

theorem Phase.mono {c : SystemCtx TableStep Confirmation} {tokens tokens' : ℕ} (hp : Phase b c tokens)
    (htokens : tokens' ≤ tokens) (overrun : Bool) (out : List (SystemOut TableStep)) :
    Phase b { c with overrun := overrun, out := out } tokens' := by
  unfold Phase at hp ⊢
  dsimp only
  split at hp
  · exact ⟨hp.1, ⟨hp.2.1.transition, hp.2.1.index, hp.2.1.completion⟩, Nat.eq_zero_of_le_zero (hp.2.2 ▸ htokens)⟩
  · exact ⟨⟨hp.1.transition, hp.1.index, hp.1.completion⟩, htokens.trans hp.2⟩
  all_goals first
    | exact ⟨hp.1, Nat.eq_zero_of_le_zero (hp.2 ▸ htokens)⟩
    | exact hp

theorem Told.system (ht : Told now d) (c : SystemCtx TableStep Confirmation) : Told now { d with system := c } :=
  ⟨ht.agrees, ht.late, ht.left, ht.settled, ht.timed, ht.calm, ht.kept⟩

theorem live_calls (hd : Live b d) (hc : Calls [] d d') : Live b d' := by
  obtain ⟨overrun, out, hsystem⟩ := hc.system
  refine ⟨?_, ?_, ?_, ?_⟩
  · rw [hsystem]
    exact hd.tables
  · rw [hsystem]
    exact hd.limbo
  · rw [hsystem]
    exact hd.phase.mono hc.tokens overrun out
  · have hstate : d'.system.state = d.system.state := by rw [hsystem]
    rw [hstate]
    exact told_calls hd.told hc

theorem track_runs (hd : Track b d) (hr : Runs d d') : Track b d' := by
  obtain hhalted | hgone | hcalls := hr
  · exact .inl hhalted
  · exact .inr (.inl hgone)
  · obtain hhalted | hgone | hlive := hd
    · exact .inl (hcalls.halted hhalted)
    · obtain ⟨overrun, out, hsystem⟩ := hcalls.system
      exact .inr (.inl (hsystem ▸ hgone.of_fields overrun out))
    · exact .inr (.inr (live_calls hlive hcalls))

end Frames

section System

variable {b : PowerBuild} {d : Chip} (v : DeviceEnv)

theorem tokens_of_phase {c : SystemCtx TableStep Confirmation} {tokens : ℕ} (hp : Phase b c tokens)
    (hstate : c.state ≠ .poweringOff) : tokens = 0 := by
  unfold Phase at hp
  split at hp
  · exact hp.2.2
  · exact absurd ‹_› hstate
  all_goals first
    | exact hp.2
    | exact absurd hp id

theorem initiate_accepted {start : List SystemState} {transitional final : SystemState}
    {table : List (TransitionStep TableStep Confirmation)} {c : SystemCtx TableStep Confirmation} (hstart : c.state ∈ start) :
    systemStateInitiateTransiton start transitional final table c = walkSteps table { c with
      state := transitional
      transition := table
      index := 0
      stateOnCompletition := final
      out := .changed c.state transitional :: c.out } := by
  have hfirst : nextIndex (2 ^ 32 - 1) = 0 := by decide
  unfold systemStateInitiateTransiton systemStateDoTransition systemStateSetupCurrentTransition
  rw [if_pos hstart, hfirst, List.drop_zero]
  rfl

theorem startUp_eq (c : SystemCtx TableStep Confirmation) (hstate : c.state = .initialised) (hlimbo : c.isLimboRemoved = false)
    (htables : c.tables = tables b) : systemStateStartUp { c with out := [] } = { c with
      state := .limbo
      transition := []
      index := 0
      stateOnCompletition := .limbo
      out := [.changed .initialised .startingUp, .changed .startingUp .limbo].reverse } := by
  obtain ⟨state, isLimboRemoved, transition, index, completion, tables', overrun, out⟩ := c
  cases hstate
  cases hlimbo
  cases htables
  exact initiate_accepted List.mem_cons_self

theorem powerOff_eq (c : SystemCtx TableStep Confirmation) (hstate : c.state = .poweringOn ∨ c.state = .active)
    (hlimbo : c.isLimboRemoved = false) (htables : c.tables = tables b) :
    systemStatePowerOff { c with out := [] } = { c with
      state := .poweringOff
      transition := powerOffTable b
      index := 0
      stateOnCompletition := .limbo
      out := [.changed c.state .poweringOff, .ran .topologyStop].reverse } := by
  obtain ⟨state, isLimboRemoved, transition, index, completion, tables', overrun, out⟩ := c
  cases hlimbo
  cases htables
  refine (if_neg Bool.false_ne_true).trans (initiate_accepted ?_)
  rw [List.mem_cons, List.mem_singleton]
  exact hstate

theorem powerOn_eq (hprompts : b.prompts = true) (c : SystemCtx TableStep Confirmation) (hstate : c.state = .limbo)
    (hlimbo : c.isLimboRemoved = false) (htables : c.tables = tables b) :
    systemStatePowerOn { c with out := [] } = { c with
      state := .poweringOn
      transition := powerOnTable b
      index := 0
      stateOnCompletition := .active
      out := [.changed .limbo .poweringOn, .ran .triggerPowerOn].reverse } := by
  obtain ⟨state, isLimboRemoved, transition, index, completion, tables', overrun, out⟩ := c
  obtain ⟨prompts, usb⟩ := b
  cases hstate
  cases hlimbo
  cases htables
  cases hprompts
  exact (if_neg Bool.false_ne_true).trans (initiate_accepted (List.mem_cons_of_mem _ List.mem_cons_self))

def powerOnRest (b : PowerBuild) : List (SystemOut TableStep) :=
  [.ran .topologyStart] ++ (if b.usb then [.ran .usbAudioEnable] else []) ++
    [.ran .enableUpgrade, .changed .poweringOn .active]

theorem powerOn_eq_quiet (hprompts : b.prompts = false) (c : SystemCtx TableStep Confirmation) (hstate : c.state = .limbo)
    (hlimbo : c.isLimboRemoved = false) (htables : c.tables = tables b) :
    systemStatePowerOn { c with out := [] } = { c with
      state := .active
      transition := powerOnTable b
      index := (powerOnTable b).length
      stateOnCompletition := .active
      out := (.changed .limbo .poweringOn :: .ran .triggerPowerOn :: powerOnRest b).reverse } := by
  obtain ⟨state, isLimboRemoved, transition, index, completion, tables', overrun, out⟩ := c
  obtain ⟨prompts, usb⟩ := b
  cases hstate
  cases hlimbo
  cases htables
  cases hprompts
  refine (if_neg Bool.false_ne_true).trans ((initiate_accepted (List.mem_cons_of_mem _ List.mem_cons_self)).trans ?_)
  cases usb <;> simp [powerOnTable, powerOnRest, walkSteps, nextIndex, SystemCtx.note, systemStateSetState]

theorem poweredOn_eq (hprompts : b.prompts = true) (c : SystemCtx TableStep Confirmation) (hstate : c.state = .poweringOn)
    (hwaits : Waits (powerOnTable b) .active c) :
    systemStateDoTransition (powerOnTable b) { c with out := [] } = { c with
      state := .active
      index := (powerOnTable b).length
      out := (powerOnRest b).reverse } := by
  obtain ⟨state, isLimboRemoved, transition, index, completion, tables', overrun, out⟩ := c
  obtain ⟨htransition, hindex, hcompletion⟩ := hwaits
  obtain ⟨prompts, usb⟩ := b
  cases hstate
  cases htransition
  cases hindex
  cases hcompletion
  cases hprompts
  cases usb <;>
    simp [systemStateDoTransition, powerOnTable, powerOnRest, walkSteps, nextIndex, SystemCtx.note, systemStateSetState]

def powerOffRest (b : PowerBuild) : List (SystemOut TableStep) :=
  (if b.usb then [.ran .usbAudioDisable] else []) ++ [.ran .disableUpgrade, .changed .poweringOff .limbo]

theorem poweredOff_eq (c : SystemCtx TableStep Confirmation) (hstate : c.state = .poweringOff)
    (hwaits : Waits (powerOffTable b) .limbo c) :
    systemStateDoTransition (powerOffTable b) { c with out := [] } = { c with
      state := .limbo
      index := (powerOffTable b).length
      out := (powerOffRest b).reverse } := by
  obtain ⟨state, isLimboRemoved, transition, index, completion, tables', overrun, out⟩ := c
  obtain ⟨htransition, hindex, hcompletion⟩ := hwaits
  obtain ⟨prompts, usb⟩ := b
  cases hstate
  cases htransition
  cases hindex
  cases hcompletion
  cases usb <;>
    simp [systemStateDoTransition, powerOffTable, powerOffRest, walkSteps, nextIndex, SystemCtx.note, systemStateSetState]

theorem plain_powerOnRest (b : PowerBuild) : ∀ o ∈ powerOnRest b, plainOut o = true := by
  unfold powerOnRest
  cases b.usb <;> simp [plainOut]

theorem changed_powerOnRest (b : PowerBuild) : (powerOnRest b).filterMap changedOf = [(.poweringOn, .active)] := by
  unfold powerOnRest
  cases b.usb <;> rfl

theorem plain_powerOffRest (b : PowerBuild) : ∀ o ∈ powerOffRest b, plainOut o = true := by
  unfold powerOffRest
  cases b.usb <;> simp [plainOut]

theorem changed_powerOffRest (b : PowerBuild) : (powerOffRest b).filterMap changedOf = [settledDown] := by
  unfold powerOffRest
  cases b.usb <;> rfl

theorem live_transition {f : SystemCtx TableStep Confirmation → SystemCtx TableStep Confirmation}
    (c : SystemCtx TableStep Confirmation) (outs : List (SystemOut TableStep))
    (hf : f { d.system with out := [] } = { c with out := outs.reverse }) (houts : ∀ o ∈ outs, plainOut o = true)
    (hrun : d.halted = false) (htables : c.tables = tables b) (hlimbo : c.isLimboRemoved = false)
    (htokens : stopTokens d = 0) (hphase : Phase b c 0)
    (htold : ∀ d', Calls (outs.filterMap changedOf) { d with system := { c with out := [] } } d' → Told c.state d') :
    Live b (d.systemCall v f) := by
  have hcalls : Calls (outs.filterMap changedOf) { d with system := { c with out := [] } } (d.systemCall v f) := by
    rw [systemCall_eq v d hf]
    exact (calls_systemOuts v houts { d with system := { c with out := [] } } hrun).1
  have htokens' : stopTokens (d.systemCall v f) ≤ 0 := hcalls.tokens.trans htokens.le
  have hafter := htold _ hcalls
  obtain ⟨overrun, out, hsystem⟩ := hcalls.system
  refine ⟨?_, ?_, ?_, ?_⟩
  · rw [hsystem]
    exact htables
  · rw [hsystem]
    exact hlimbo
  · rw [hsystem]
    exact hphase.mono htokens' overrun out
  · have hstate : (d.systemCall v f).system.state = c.state := by rw [hsystem]
    rw [hstate]
    exact hafter

theorem track_same {f : SystemCtx TableStep Confirmation → SystemCtx TableStep Confirmation} (hd : Live b d)
    (hf : f { d.system with out := [] } = { d.system with out := [] }) : Track b (d.systemCall v f) := by
  rw [systemCall_same v d hf]
  exact .inr (.inr (live_calls hd ⟨⟨_, _, rfl⟩, rfl, ⟨[], (List.append_nil _).symm, rfl⟩, le_rfl, id, id⟩))

theorem chain_startUp : ChangeFeed.Chain legal .initialised
    [(.initialised, .startingUp), (.startingUp, .limbo)] .limbo := .cons (by decide) (.cons (by decide) (.nil _))

theorem chain_powerOn : ChangeFeed.Chain legal .limbo [(.limbo, .poweringOn)] .poweringOn := .cons (by decide) (.nil _)

theorem chain_active : ChangeFeed.Chain legal .poweringOn [(.poweringOn, .active)] .active := .cons (by decide) (.nil _)

theorem chain_powerOff : ChangeFeed.Chain legal .active [(.active, .poweringOff)] .poweringOff :=
  .cons (by decide) (.nil _)

theorem track_startUp (hd : Live b d) (hrun : d.halted = false) : Track b (d.systemCall v systemStateStartUp) := by
  by_cases hstate : d.system.state = .initialised
  · have htokens : stopTokens d = 0 := tokens_of_phase hd.phase (by rw [hstate]; exact SystemState.noConfusion)
    refine .inr (.inr (live_transition v
      { d.system with state := .limbo, transition := [], index := 0, stateOnCompletition := .limbo }
      [.changed .initialised .startingUp, .changed .startingUp .limbo]
      (startUp_eq d.system hstate hd.limbo hd.tables) (by simp [plainOut]) hrun hd.tables hd.limbo htokens
      ⟨Nat.zero_le _, rfl⟩ ?_))
    intro d' hcalls
    exact told_changes (hd.told.system _) hcalls (hstate ▸ chain_startUp) (by decide) htokens
  · exact track_same v hd (if_neg fun hmem => hstate (List.mem_singleton.mp hmem))

theorem track_powerOn (hd : Live b d) (hrun : d.halted = false) (hoff : d.system.state ≠ .poweringOff) :
    Track b (d.systemCall v systemStatePowerOn) := by
  by_cases hstate : d.system.state = .limbo
  · have htokens : stopTokens d = 0 := tokens_of_phase hd.phase hoff
    refine .inr (.inr ?_)
    cases hprompts : b.prompts with
    | true =>
      refine live_transition v
        { d.system with
          state := .poweringOn, transition := powerOnTable b, index := 0, stateOnCompletition := .active }
        [.changed .limbo .poweringOn, .ran .triggerPowerOn]
        (powerOn_eq hprompts d.system hstate hd.limbo hd.tables) (by simp [plainOut]) hrun hd.tables hd.limbo htokens
        ⟨hprompts, ⟨rfl, rfl, rfl⟩, rfl⟩ ?_
      intro d' hcalls
      exact told_changes (hd.told.system _) hcalls (hstate ▸ chain_powerOn) (by decide) htokens
    | false =>
      refine live_transition v
        { d.system with
          state := .active
          transition := powerOnTable b
          index := (powerOnTable b).length
          stateOnCompletition := .active }
        (.changed .limbo .poweringOn :: .ran .triggerPowerOn :: powerOnRest b)
        (powerOn_eq_quiet hprompts d.system hstate hd.limbo hd.tables) ?_ hrun hd.tables hd.limbo htokens
        ⟨le_rfl, rfl⟩ ?_
      · exact List.forall_mem_cons.mpr ⟨rfl, List.forall_mem_cons.mpr ⟨rfl, plain_powerOnRest b⟩⟩
      · intro d' hcalls
        have hchanges : (SystemOut.changed .limbo .poweringOn :: .ran .triggerPowerOn :: powerOnRest b).filterMap changedOf =
            [(.limbo, .poweringOn), (.poweringOn, .active)] := by
          simp only [List.filterMap_cons, changedOf, changed_powerOnRest]
        rw [hchanges] at hcalls
        exact told_changes (hd.told.system _) hcalls (hstate ▸ chain_powerOn.append chain_active) (by decide) htokens
  · refine track_same v hd ((if_neg (by rw [hd.limbo]; exact Bool.false_ne_true)).trans (if_neg fun hmem => ?_))
    obtain hmem | hmem := List.mem_cons.mp hmem
    · exact hoff hmem
    · exact hstate (List.mem_singleton.mp hmem)

theorem stop_confirms (t : StereoTopology) :
    let t' := stereoTopologyStop .transition { t with out := [] }
    (t'.out.reverse.filterMap topologyMessage).countP isStopCfm + (owesStopCfm t').toNat ≤
        (if t.state = .starting then 0 else 1) ∧ (StopTimed t → StopTimed t') := by
  obtain ⟨state, appTask, prohibit, shutdown, stopTimers, out⟩ := t
  cases state with
  | stopped => exact ⟨le_rfl, fun _ hpos => absurd hpos (lt_irrefl 0)⟩
  | starting => exact ⟨Nat.zero_le _, id⟩
  | started => exact ⟨le_rfl, fun _ _ => rfl⟩
  | stopping => exact ⟨le_rfl, id⟩

theorem stop_feed (r : Requester) (d : Chip) : feed (d.topologyCall (stereoTopologyStop r)).queue = feed d.queue := by
  rw [topologyCall_eq]
  refine List.filterMap_append.trans ?_
  have hnone : ∀ outs : List TopologyOut, (outs.filterMap topologyMessage).filterMap changeOf = [] := feed_topologyMessages
  rw [hnone, List.append_nil]
  rfl

theorem stop_tokens (htokens : stopTokens d = 0) :
    stopTokens (d.topologyCall (stereoTopologyStop .transition)) ≤ if d.topology.state = .starting then 0 else 1 := by
  have hqueue : d.queue.countP isStopCfm = 0 := Nat.eq_zero_of_add_eq_zero_right htokens
  rw [topologyCall_eq]
  unfold stopTokens
  dsimp only
  rw [List.countP_append, hqueue, Nat.zero_add]
  exact (stop_confirms d.topology).1

theorem stop_timed (htimed : StopTimed d.topology) : StopTimed (d.topologyCall (stereoTopologyStop .transition)).topology := by
  rw [topologyCall_eq]
  exact (stop_confirms d.topology).2 htimed

theorem told_stop {now : SystemState} (ht : Told now d) : Told now (d.topologyCall (stereoTopologyStop .transition)) := by
  have hfeed := stop_feed .transition d
  have htimed := stop_timed ht.timed
  rw [topologyCall_eq] at hfeed htimed ⊢
  refine ⟨?_, ?_, ?_, settled_append ht.settled (feed_topologyMessages _), htimed, ht.calm, ht.kept⟩
  · rw [Follow, hfeed]
    exact ht.agrees
  · rw [hfeed]
    exact ht.late
  · rw [hfeed]
    exact ht.left

def stopping (b : PowerBuild) (c : SystemCtx TableStep Confirmation) : SystemCtx TableStep Confirmation :=
  { c with state := .poweringOff, transition := powerOffTable b, index := 0, stateOnCompletition := .limbo, out := [] }

theorem powerOff_call (hstate : d.system.state = .poweringOn ∨ d.system.state = .active)
    (hlimbo : d.system.isLimboRemoved = false) (htables : d.system.tables = tables b) (hrun : d.halted = false) :
    ∃ d', Calls [(d.system.state, .poweringOff)] { d with system := stopping b d.system } d' ∧
      d'.system = stopping b d.system ∧ d'.topology = d.topology ∧
      d.systemCall v systemStatePowerOff = d'.topologyCall (stereoTopologyStop .transition) := by
  obtain ⟨hcalls, hrun'⟩ := calls_systemOut v { d with system := stopping b d.system }
    (o := .changed d.system.state .poweringOff) rfl hrun
  refine ⟨_, hcalls, systemOut_system v _ _, ?_, ?_⟩
  · exact (congrArg Chip.topology (if_neg (by rw [hrun]; exact Bool.false_ne_true))).trans rfl
  · refine (systemCall_eq v d (c := stopping b d.system) (powerOff_eq d.system hstate hlimbo htables)).trans ?_
    exact if_neg (Bool.eq_false_iff.mp hrun')

theorem track_powerOff (hd : Live b d) (hrun : d.halted = false) (hon : d.system.state ≠ .poweringOn) :
    Track b (d.systemCall v systemStatePowerOff) := by
  by_cases hstate : d.system.state = .active
  · have htokens : stopTokens d = 0 := tokens_of_phase hd.phase (by rw [hstate]; exact SystemState.noConfusion)
    obtain ⟨d', hcalls, hsystem, -, hcall⟩ := powerOff_call v (.inr hstate) hd.limbo hd.tables hrun
    rw [hstate] at hcalls
    have htold : Told .poweringOff d' :=
      told_changes (hd.told.system _) hcalls (hstate ▸ chain_powerOff) (by decide) htokens
    have htokens' : stopTokens d' = 0 := Nat.eq_zero_of_le_zero (hcalls.tokens.trans htokens.le)
    have hone : stopTokens (d'.topologyCall (stereoTopologyStop .transition)) ≤ 1 :=
      (stop_tokens htokens').trans (by split <;> decide)
    have hsystem' : (d'.topologyCall (stereoTopologyStop .transition)).system = stopping b d.system := by
      rw [topologyCall_eq]
      exact hsystem
    rw [hcall]
    refine .inr (.inr ⟨?_, ?_, ?_, ?_⟩)
    · rw [hsystem']
      exact hd.tables
    · rw [hsystem']
      exact hd.limbo
    · rw [hsystem']
      exact ⟨⟨rfl, rfl, rfl⟩, hone⟩
    · rw [hsystem']
      exact told_stop htold
  · refine track_same v hd ((if_neg (by rw [hd.limbo]; exact Bool.false_ne_true)).trans (if_neg fun hmem => ?_))
    obtain hmem | hmem := List.mem_cons.mp hmem
    · exact hon hmem
    · exact hstate (List.mem_singleton.mp hmem)

theorem receive_accepted {c : SystemCtx TableStep Confirmation} {tokens : ℕ} (hp : Phase b c tokens) {m : Confirmation}
    {handler : Option TableStep} (haccepted : systemStateReceive m c = .accepted handler) :
    (c.state = .poweringOn ∧ b.prompts = true ∧ Waits (powerOnTable b) .active c ∧ handler = none) ∨
    (c.state = .poweringOff ∧ Waits (powerOffTable b) .limbo c ∧ m = .topologyStopCfm ∧
      handler = some .topologyStopCfm) := by
  obtain ⟨s, hs, hid, hhandler⟩ := receive_awaited haccepted
  have hrest : ¬ c.transition.length ≤ c.index := by
    intro hlength
    rw [List.getElem?_eq_none hlength] at hs
    exact absurd hs nofun
  unfold Phase at hp
  split at hp
  · obtain ⟨hprompts, hwaits, -⟩ := hp
    rw [hwaits.transition, hwaits.index] at hs
    cases hs
    exact .inl ⟨‹_›, hprompts, hwaits, hhandler⟩
  · obtain ⟨hwaits, -⟩ := hp
    rw [hwaits.transition, hwaits.index] at hs
    cases hs
    exact .inr ⟨‹_›, hwaits, (Option.some.inj hid).symm, hhandler⟩
  all_goals first
    | exact absurd hp.1 hrest
    | exact absurd hp not_false

end System

end SmartHelmet.Device
