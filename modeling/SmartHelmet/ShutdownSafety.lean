import SmartHelmet.OffStates
import SmartHelmet.SystemAgreement

namespace SmartHelmet.Device

open Headset Power

section Source

variable {c : SystemCtx TableStep Confirmation} {b : PowerBuild}

theorem walkSteps_keeps (table : List (TransitionStep TableStep Confirmation)) (c : SystemCtx TableStep Confirmation) :
    (walkSteps table c).transition = c.transition ∧ (walkSteps table c).tables = c.tables ∧
      (walkSteps table c).isLimboRemoved = c.isLimboRemoved := by
  induction table generalizing c with
  | nil => exact ⟨rfl, rfl, rfl⟩
  | cons s rest ih =>
    unfold walkSteps
    split
    · exact ⟨rfl, rfl, rfl⟩
    · exact ih _

theorem doTransition_keeps (table : List (TransitionStep TableStep Confirmation)) (c : SystemCtx TableStep Confirmation) :
    (systemStateDoTransition table c).transition = c.transition ∧ (systemStateDoTransition table c).tables = c.tables ∧
      (systemStateDoTransition table c).isLimboRemoved = c.isLimboRemoved :=
  walkSteps_keeps (table.drop (nextIndex c.index)) { c with index := nextIndex c.index }

structure Elsewhere (b : PowerBuild) (c c' : SystemCtx TableStep Confirmation) : Prop where
  tables : c'.tables = c.tables
  limbo : c'.isLimboRemoved = c.isLimboRemoved
  state : c'.state ≠ .limbo
  transition : c'.transition ≠ (Device.tables b).shutdown

theorem elsewhere_initiate {start : List SystemState} {transitional final : SystemState}
    {table : List (TransitionStep TableStep Confirmation)} (htransitional : transitional ≠ .limbo)
    (hfinal : final ≠ .limbo) (htable : table ≠ (tables b).shutdown) :
    systemStateInitiateTransiton start transitional final table c = c ∨
      Elsewhere b c (systemStateInitiateTransiton start transitional final table c) := by
  by_cases hstart : c.state ∈ start
  · right
    rw [initiate_accepted hstart]
    generalize hfirst : ({ c with
      state := transitional
      transition := table
      index := 0
      stateOnCompletition := final
      out := .changed c.state transitional :: c.out } : SystemCtx TableStep Confirmation) = c'
    obtain ⟨htransition, htables, hlimbo⟩ := walkSteps_keeps table c'
    refine ⟨?_, ?_, ?_, ?_⟩
    · rw [htables, ← hfirst]
    · rw [hlimbo, ← hfirst]
    · obtain hs | hs := (walkSteps_state table c').2
      · rw [hs, ← hfirst]
        exact htransitional
      · rw [hs, ← hfirst]
        exact hfinal
    · rw [htransition, ← hfirst]
      exact htable
  · exact .inl (if_neg hstart)

theorem powerOn_ne_shutdown (b : PowerBuild) : powerOnTable b ≠ (tables b).shutdown := by
  simp [powerOnTable, tables]

theorem powerOff_ne_shutdown (b : PowerBuild) : powerOffTable b ≠ (tables b).shutdown := by
  simp [powerOffTable, tables]

theorem elsewhere_powerOn (htables : c.tables = tables b) :
    systemStatePowerOn c = c ∨ Elsewhere b c (systemStatePowerOn c) := by
  unfold systemStatePowerOn
  split
  · exact .inl rfl
  · refine elsewhere_initiate SystemState.noConfusion SystemState.noConfusion ?_
    rw [htables]
    exact powerOn_ne_shutdown b

theorem elsewhere_powerOff (htables : c.tables = tables b) (hlimbo : c.isLimboRemoved = false) :
    systemStatePowerOff { c with out := [] } = { c with out := [] } ∨
      Elsewhere b { c with out := [] } (systemStatePowerOff { c with out := [] }) := by
  by_cases hstate : c.state = .poweringOn ∨ c.state = .active
  · right
    rw [powerOff_eq c hstate hlimbo htables]
    exact ⟨rfl, rfl, SystemState.noConfusion, powerOff_ne_shutdown b⟩
  · refine .inl ((if_neg (by rw [hlimbo]; exact Bool.false_ne_true)).trans (if_neg fun hmem => hstate ?_))
    rw [List.mem_cons, List.mem_singleton] at hmem
    exact hmem

theorem elsewhere_sleep (htables : c.tables = tables b) :
    systemStateSleep c = c ∨ Elsewhere b c (systemStateSleep c) := by
  refine elsewhere_initiate SystemState.noConfusion SystemState.noConfusion ?_
  rw [htables]
  exact (List.cons_ne_nil _ _).symm

theorem elsewhere_emergency (htables : c.tables = tables b) : Elsewhere b c (systemStateEmergencyShutdown c) := by
  have hgone : Gone (systemStateEmergencyShutdown c) := gone_emergency
  obtain ⟨htransition, htables', hlimbo⟩ := doTransition_keeps c.tables.emergencyShutdown
    (systemStateSetupCurrentTransition c.tables.emergencyShutdown .poweredOff
      (systemStateSetState .shuttingDownPromptly c))
  refine ⟨htables', hlimbo, fun hs => ?_, fun hs => ?_⟩
  · have hending := hgone.state
    rw [hs] at hending
    exact absurd hending (by decide)
  · have htable : c.tables.emergencyShutdown = (tables b).shutdown := htransition.symm.trans hs
    rw [htables] at htable
    simp [tables] at htable

def downed (b : PowerBuild) (c : SystemCtx TableStep Confirmation) : SystemCtx TableStep Confirmation :=
  { c with
    state := .poweredOff
    transition := (tables b).shutdown
    index := 1
    stateOnCompletition := .poweredOff
    out := [] }

theorem shutdown_eq (hstate : c.state = .limbo) (hlimbo : c.isLimboRemoved = false) (htables : c.tables = tables b) :
    systemStateShutdown { c with out := [] } = { downed b c with
      out := [.changed .limbo .shuttingDown, .ran .finalPowerOffSleep, .changed .shuttingDown .poweredOff].reverse } := by
  obtain ⟨state, isLimboRemoved, transition, index, completion, tables', overrun, out⟩ := c
  cases hstate
  cases hlimbo
  cases htables
  exact initiate_accepted List.mem_cons_self

end Source

section Calls

variable {b : PowerBuild} {d₀ d d' : Chip} (v : DeviceEnv)

/-- On the way from `d₀` the system has got to limbo by no other way than staying there, and has
shut down, if at all, from there, which has halted the chip. -/
structure Shuts (b : PowerBuild) (d₀ d : Chip) : Prop where
  tables : d.system.tables = Device.tables b
  limboKept : d.system.isLimboRemoved = false
  limbo : d.system.state = .limbo → d₀.system.state = .limbo
  shut : d.system.transition = (Device.tables b).shutdown → d₀.system.state = .limbo ∧ d.halted = true

theorem Shuts.calls {changes : List (SystemState × SystemState)} (hd : Shuts b d₀ d) (hc : Calls changes d d') :
    Shuts b d₀ d' := by
  obtain ⟨overrun, out, hsystem⟩ := hc.system
  constructor
  · rw [hsystem]
    exact hd.tables
  · rw [hsystem]
    exact hd.limboKept
  · rw [hsystem]
    exact hd.limbo
  · rw [hsystem]
    exact fun hshut => ⟨(hd.shut hshut).1, hc.halted (hd.shut hshut).2⟩

theorem Shuts.halt (hd : Shuts b d₀ d) : Shuts b d₀ d.halt :=
  ⟨hd.tables, hd.limboKept, hd.limbo, fun hshut => ⟨(hd.shut hshut).1, rfl⟩⟩

theorem shuts_systemCall {f : SystemCtx TableStep Confirmation → SystemCtx TableStep Confirmation} (hd : Shuts b d₀ d)
    (hf : f { d.system with out := [] } = { d.system with out := [] } ∨
      Elsewhere b { d.system with out := [] } (f { d.system with out := [] })) :
    Shuts b d₀ (d.systemCall v f) := by
  have hhalted := (aside_systemCall v f d).halted
  have hsystem := systemCall_system v f d
  obtain hsame | helse := hf
  · rw [systemCall_same v d hsame]
    exact ⟨hd.tables, hd.limboKept, hd.limbo, hd.shut⟩
  · constructor
    · rw [hsystem]
      exact helse.tables.trans hd.tables
    · rw [hsystem]
      exact helse.limbo.trans hd.limboKept
    · rw [hsystem]
      exact fun hs => absurd hs helse.state
    · rw [hsystem]
      exact fun hs => absurd hs helse.transition

theorem shuts_shutdown (hd : Shuts b d₀ d) : Shuts b d₀ (d.systemCall v systemStateShutdown) := by
  by_cases hstate : d.system.state = .limbo
  · have heq := shutdown_eq hstate hd.limboKept hd.tables
    have hhalted : (d.systemCall v systemStateShutdown).halted = true := by
      rw [systemCall_eq v d (c := downed b d.system) heq]
      have hstep : ∀ d : Chip, (d.performSystemOut v (.ran .finalPowerOffSleep)).halted = true := by
        intro d
        unfold Chip.performSystemOut
        split
        · assumption
        · rfl
      simp only [List.foldl_cons, List.foldl_nil]
      exact (aside_systemOut v _ _).halted (hstep _)
    have hsystem := systemCall_system v systemStateShutdown d
    rw [heq] at hsystem
    constructor
    · rw [hsystem]
      exact hd.tables
    · rw [hsystem]
      exact hd.limboKept
    · rw [hsystem]
      exact fun hs => SystemState.noConfusion hs
    · exact fun _ => ⟨hd.limbo hstate, hhalted⟩
  · refine shuts_systemCall v hd (.inl (if_neg fun hmem => hstate ?_))
    rw [if_neg (by rw [hd.limboKept]; exact Bool.false_ne_true), List.mem_singleton] at hmem
    exact hmem

theorem shuts_powerEntry (hd : Shuts b d₀ d) (o : Entry Client) : Shuts b d₀ (d.performPowerEntry v o) := by
  unfold Chip.performPowerEntry
  split
  · exact hd
  · split
    · exact hd.calls (calls_send d (m := .headset .shutdownPrepare) rfl)
    · exact shuts_shutdown v hd
    · exact shuts_systemCall v hd (.inr (elsewhere_emergency (c := { d.system with out := [] }) hd.tables))
    · exact shuts_systemCall v hd (elsewhere_sleep (c := { d.system with out := [] }) hd.tables)
    · exact hd.halt
    · exact hd.halt
    · exact hd.calls (calls_playPrompt _ _ d)
    all_goals exact hd

theorem shuts_powerCall (c : Call Client) (hd : Shuts b d₀ d) : Shuts b d₀ (d.powerCall v c) := by
  have hset : Shuts b d₀ { d with power := { powerStep { d.power with log := [] } (v.power, c) with log := [] } } :=
    ⟨hd.tables, hd.limboKept, hd.limbo, hd.shut⟩
  unfold Chip.powerCall
  dsimp only
  generalize (powerStep { d.power with log := [] } (v.power, c)).log.reverse = entries
  generalize ({ d with power := { powerStep { d.power with log := [] } (v.power, c) with log := [] } } : Chip) = d' at hset ⊢
  induction entries generalizing d' with
  | nil => exact hset
  | cons o entries ih => exact ih _ (shuts_powerEntry v hset o)

theorem shuts_act (hd : Shuts b d₀ d) (a : Act) : Shuts b d₀ (d.performAct v a) := by
  have haside : ∀ d', Calls [] d d' → Shuts b d₀ d' := fun _ hc => hd.calls hc
  unfold Chip.performAct
  split
  · exact hd
  · split
    all_goals first
      | exact haside _ (.of_fields rfl rfl rfl rfl id)
      | exact shuts_powerCall v _ hd
      | exact hd.halt
      | skip
    · exact hd.calls (calls_send d (m := .headset (.internal _)) rfl)
    · exact shuts_systemCall v hd (elsewhere_powerOn (c := { d.system with out := [] }) hd.tables)
    · exact shuts_systemCall v hd (elsewhere_powerOff hd.tables hd.limboKept)
    · exact hd.calls (calls_topologyCall d (keeps_start d.topology))
    · exact hd.calls (calls_topologyCall d (keeps_stop d.topology))
    · exact hd.calls (calls_topologyCall d (keeps_prohibit d.topology _))

theorem shuts_headsetCallInner (f : Ambient → SmTaskData → SmTaskData) (hd : Shuts b d₀ d) :
    Shuts b d₀ (d.headsetCallInner v f) := by
  have hset : Shuts b d₀ { d with headset := { f (d.ambientOf v) { d.headset with out := [] } with out := [] } } :=
    ⟨hd.tables, hd.limboKept, hd.limbo, hd.shut⟩
  unfold Chip.headsetCallInner
  dsimp only
  generalize (f (d.ambientOf v) { d.headset with out := [] }).out.reverse = acts
  generalize ({ d with headset := { f (d.ambientOf v) { d.headset with out := [] } with out := [] } } : Chip) = d' at hset ⊢
  induction acts generalizing d' with
  | nil => exact hset
  | cons a acts ih => exact ih _ (shuts_act v hset a)

end Calls

section Steps

variable {b : PowerBuild} {ready : Bool} {d₀ d : Chip} (v : DeviceEnv)

structure Cut (b : PowerBuild) (d₀ d : Chip) : Prop where
  tables : d.system.tables = Device.tables b
  limboKept : d.system.isLimboRemoved = false
  shut : d.system.transition = (Device.tables b).shutdown → d₀.system.state = .limbo ∧ d.halted = true

theorem Shuts.cut (hd : Shuts b d₀ d) : Cut b d₀ d := ⟨hd.tables, hd.limboKept, hd.shut⟩

theorem shuts_headsetCall {f : Ambient → SmTaskData → SmTaskData} (hf : Handler (fun _ => True) f) (hd : Shuts b d₀ d) :
    Shuts b d₀ (d.headsetCall v f) :=
  walk_headsetCall (fun _ _ hc hd => hd.calls hc)
    (fun v f _ (_ : Handler (fun _ => True) f) hd => shuts_headsetCallInner v f hd) v hf hd

theorem cut_transitionMessage (hd : Shuts b d₀ d) (m : Confirmation) : Cut b d₀ (d.transitionMessage v m) := by
  unfold Chip.transitionMessage
  dsimp only
  split
  · exact hd.cut
  · exact ⟨hd.tables, hd.limboKept, hd.shut⟩
  · rename_i handler _
    have hhandled : Shuts b d₀ (d.asyncHandler v handler) := by
      unfold Chip.asyncHandler
      split
      · exact shuts_headsetCall v .stopCfm hd
      · exact hd
    generalize d.asyncHandler v handler = d' at hhandled ⊢
    split
    · exact hhandled.cut
    · rename_i hgoes
      have hsystem := systemCall_system v (systemStateDoTransition d.system.transition) d'
      obtain ⟨htransition, htables, hlimbo⟩ :=
        doTransition_keeps d.system.transition { d'.system with out := [] }
      constructor
      · rw [hsystem]
        exact htables.trans hhandled.tables
      · rw [hsystem]
        exact hlimbo.trans hhandled.limboKept
      · rw [hsystem]
        exact fun hshut => absurd (hhandled.shut (htransition.symm.trans hshut)).2 hgoes

theorem cut_startUp (hd : Shuts b d d) : Cut b d (d.systemCall v systemStateStartUp) := by
  by_cases hstate : d.system.state = .initialised
  · have hsystem := systemCall_system v systemStateStartUp d
    rw [startUp_eq d.system hstate hd.limboKept hd.tables] at hsystem
    constructor
    · rw [hsystem]
      exact hd.tables
    · rw [hsystem]
      exact hd.limboKept
    · rw [hsystem]
      exact fun hshut => absurd hshut (List.cons_ne_nil _ _).symm
  · have hsame : systemStateStartUp { d.system with out := [] } = { d.system with out := [] } :=
      if_neg fun hmem => hstate (List.mem_singleton.mp hmem)
    rw [systemCall_same v d hsame]
    exact ⟨hd.tables, hd.limboKept, hd.shut⟩

theorem cut_deviceStep (hd : Shuts b d d) (ev : DeviceEnv × DeviceEvent) : Cut b d (deviceStep d ev) := by
  obtain ⟨v, ev⟩ := ev
  have hcalls : ∀ d₁ d₂, Calls [] d₁ d₂ → Shuts b d d₁ → Shuts b d d₂ := fun _ _ hc hd => hd.calls hc
  have hcall : ∀ v f d₁, Handler (fun _ => True) f → Shuts b d d₁ → Shuts b d (d₁.headsetCallInner v f) :=
    fun v f _ _ hd => shuts_headsetCallInner v f hd
  by_cases hhalted : d.halted = true
  · have hsame : deviceStep d (v, ev) = d := if_pos hhalted
    rw [hsame]
    exact hd.cut
  · by_cases hstart : ev = .startUp
    · rw [hstart]
      have hstep : deviceStep d (v, .startUp) = d.systemCall v systemStateStartUp := if_neg hhalted
      rw [hstep]
      exact cut_startUp v hd
    · by_cases hdue : ev = .deliver ∧ ∃ m queue, d.queue = .transition m :: queue
      · obtain ⟨rfl, m, queue, hq⟩ := hdue
        have hstep : deviceStep d (v, .deliver) = Chip.transitionMessage v m { d with queue := queue } := by
          refine (if_neg hhalted).trans ?_
          change d.deliver v = _
          unfold Chip.deliver
          rw [hq]
        rw [hstep]
        exact cut_transitionMessage (d := { d with queue := queue }) v ⟨hd.tables, hd.limboKept, hd.limbo, hd.shut⟩ m
      · refine (walk_deviceStep hcalls hcall (fun v c _ hd => shuts_powerCall v c hd) hd v ev ?_ ?_ ?_).cut
        · rintro - rfl
          unfold Chip.deliver
          split
          · exact hd
          · rename_i m queue _
            exact shuts_headsetCall (d := { d with queue := queue }) v (.message m trivial)
              ⟨hd.tables, hd.limboKept, hd.limbo, hd.shut⟩
          · rename_i m queue hq
            exact absurd ⟨rfl, m, queue, hq⟩ hdue
        · exact fun _ heq => absurd heq hstart
        · intro _ _
          rw [topologyCall_eq]
          exact ⟨hd.tables, hd.limboKept, hd.limbo, hd.shut⟩

theorem off_in_limbo (ht : Told .limbo d) : d.headset.state.on = false := by
  obtain ⟨seen, hchain, hfollows⟩ := ht.agrees
  have hlate := ht.late
  have hleft := ht.left
  generalize feed d.queue = changes at hchain hlate hleft
  have hoff : rank seen ≤ rank .limbo → d.headset.state.on = false := by
    intro hrank
    revert hfollows hrank
    cases seen <;> cases d.headset.state <;> decide
  by_cases hmem : settledDown ∈ changes
  · cases changes with
    | nil => exact absurd hmem List.not_mem_nil
    | cons c rest =>
      obtain rfl | hrest := List.mem_cons.mp hmem
      · obtain hs | hs := hleft rfl <;> rw [hs] <;> rfl
      · exact absurd hrest hlate
  · exact hoff (rank_chain hchain hmem)

theorem dark_change (ht : Told .limbo d) {old new : SystemState} {queue : List DeviceMessage}
    (hq : d.queue = .headset (.systemStateChange old new) :: queue) : lights (.systemStateChange old new) = false := by
  obtain ⟨seen, hchain, -⟩ := ht.agrees
  have hlate := ht.late
  have hfeed : feed d.queue = (old, new) :: feed queue := by
    rw [hq]
    rfl
  rw [hfeed] at hchain hlate
  cases hchain with
  | cons hstep hrest =>
    have hrank : rank new ≤ rank .limbo := rank_chain hrest hlate
    revert hrank
    cases old <;> cases new <;> decide

theorem unlit_limboStep {ev : DeviceEnv × DeviceEvent} (ht : Told .limbo d) (hd : Powered ready d)
    (hrun : ¬ d.halted = true) (hnot : racy d ev = false) : Unlit ready (deviceStep d ev) := by
  have hoff := off_in_limbo ht
  have hunlit : Unlit ready d := ⟨hoff, hoff ▸ hd.follows⟩
  by_cases hpair : ev.2 = .deliver ∧ ∃ queue, d.queue = .headset (.internal .pairHandset) :: queue
  · obtain ⟨v, ev⟩ := ev
    obtain ⟨rfl, queue, hq⟩ := hpair
    have hresting : d.headset.state ∈ [HeadsetState.null, .limbo, .terminating, .poweringOff] := by
      have hkept := hd.kept
      revert hoff hkept
      cases d.headset.state <;> decide
    have hpaused : isA2dpStreamingAndAvrcpPaused (d.ambientOf v) = false := by
      unfold racy at hnot
      rw [hq] at hnot
      exact Bool.eq_false_iff.mpr fun hpaused => of_decide_eq_false hnot ⟨hpaused, hresting⟩
    have hidle : d.headset.state ≠ .idle := by
      intro hs
      rw [hs] at hoff
      exact absurd hoff (by decide)
    have hstep : deviceStep d (v, .deliver) = d.deliver v := if_neg hrun
    rw [hstep, pairHandset_ignored v hq hidle hpaused]
    exact hunlit
  · refine unlit_deviceStep hunlit fun hev m queue hq => ?_
    cases m with
    | systemStateChange old new => exact dark_change ht hq
    | internal m =>
      cases m with
      | pairHandset => exact absurd ⟨hev, queue, hq⟩ hpair
      | _ => rfl
    | _ => rfl

structure Sparing (b : PowerBuild) (ready : Bool) (d : Chip) : Prop where
  track : Track b d
  powered : d.halted = true ∨ Powered ready d
  tables : d.system.tables = Device.tables b
  limboKept : d.system.isLimboRemoved = false
  spared : d.system.transition = (Device.tables b).shutdown → d.halted = true ∧ d.helmet.powered = false

theorem sparing_deviceStep (hd : Sparing b ready d) {ev : DeviceEnv × DeviceEvent} (hnot : racy d ev = false) :
    Sparing b ready (deviceStep d ev) := by
  by_cases hhalted : d.halted = true
  · have hsame : deviceStep d ev = d := if_pos hhalted
    rw [hsame]
    exact hd
  · have hcut := cut_deviceStep ⟨hd.tables, hd.limboKept, id, fun hshut => absurd (hd.spared hshut).1 hhalted⟩ ev
    refine ⟨track_deviceStep hd.track hnot, powered_deviceStep ev hd.powered, hcut.tables, hcut.limboKept, fun hshut => ?_⟩
    obtain ⟨hlimbo, hstop⟩ := hcut.shut hshut
    have hlive : Live b d := by
      obtain hgone | hlive := hd.track.resolve_left hhalted
      · have hending := hgone.state
        rw [hlimbo] at hending
        exact absurd hending (by decide)
      · exact hlive
    have hunlit := unlit_limboStep (hlimbo ▸ hlive.told) (hd.powered.resolve_left hhalted) hhalted hnot
    have hpowered : (deviceStep d ev).helmet.powered = (ready && false) := congrArg Prod.snd hunlit.2
    exact ⟨hstop, hpowered.trans (Bool.and_false ready)⟩

theorem sparing_run {evs : List (DeviceEnv × DeviceEvent)} (hd : Sparing b ready d) (hfree : raceFree d evs = true) :
    Sparing b ready (evs.foldl deviceStep d) := by
  induction evs generalizing d with
  | nil => exact hd
  | cons ev evs ih =>
    obtain ⟨hnot, hrest⟩ := Bool.and_eq_true_iff.mp hfree
    exact ih (sparing_deviceStep hd (Bool.not_eq_true' _ ▸ hnot)) hrest

end Steps

section Runs

/-- In every run without a racy delivery, a shutdown of the system, whoever has asked for it,
halts the chip with the module switched off. -/
theorem shutdown_spares_module (b : PowerBuild) (v : DeviceEnv) (autoPowerOn : Bool)
    (evs : List (DeviceEnv × DeviceEvent)) (hfree : raceFree (chipBoot b v autoPowerOn) evs = true)
    (hshut : (deviceRun b v autoPowerOn evs).system.transition = (tables b).shutdown) :
    (deviceRun b v autoPowerOn evs).halted = true ∧ (deviceRun b v autoPowerOn evs).helmet.powered = false := by
  have hboot : Sparing b v.module.i2cInit (chipBoot b v autoPowerOn) :=
    ⟨.inr (.inr (live_chipBoot v b autoPowerOn)), .inr (powered_chipBoot b v autoPowerOn), rfl, rfl,
      fun hshut => absurd hshut (List.cons_ne_nil _ _).symm⟩
  exact (sparing_run hboot hfree).spared hshut

def retired : List DeviceEvent :=
  stopped ++ [.deliver, .deliver, .powerCall .offRequest, .powerCall (.shutdownPrepareResponse .topology),
    .powerCall (.shutdownPrepareResponse .audioCuration), .powerCall (.shutdownPrepareResponse .prompts), .deliver]

theorem shutdown_spares_example :
    (deviceRun ⟨true, false⟩ plainDevice false (plainly retired)).halted = true ∧
      (deviceRun ⟨true, false⟩ plainDevice false (plainly retired)).helmet.powered = false :=
  shutdown_spares_module ⟨true, false⟩ plainDevice false (plainly retired) (by decide) (by decide)

end Runs

end SmartHelmet.Device
