import SmartHelmet.SystemAgreement

namespace SmartHelmet.Device

open Headset Power

def Resting (b : PowerBuild) (c : SystemCtx TableStep Confirmation) : Prop :=
  (c.state = .poweringOff ∧ Waits (powerOffTable b) .limbo c) ∨
    (c.state = .limbo ∧ c.transition.length ≤ c.index)

/-- The system rests in the context `c`; only the `changes` are still queued and, when the
confirmation is `lost`, none will come. -/
structure Down (lost : Prop) (changes : List (SystemState × SystemState)) (c : SystemCtx TableStep Confirmation)
    (d : Chip) : Prop where
  system : ∃ overrun out, d.system = { c with overrun := overrun, out := out }
  timed : StopTimed d.topology
  lost : lost → stopTokens d = 0
  fed : ∀ change ∈ feed d.queue, change ∈ changes

def Sunk (lost : Prop) (changes : List (SystemState × SystemState)) (c : SystemCtx TableStep Confirmation) (d : Chip) :
    Prop := d.halted = true ∨ Gone d.system ∨ Down lost changes c d

section Sinking

variable {b : PowerBuild} {lost : Prop} {changes : List (SystemState × SystemState)}
  {c : SystemCtx TableStep Confirmation} {d d' : Chip}

theorem sunk_runs (hd : Sunk lost changes c d) (hr : Runs d d') : Sunk lost changes c d' := by
  obtain hhalted | hgone | hcalls := hr
  · exact .inl hhalted
  · exact .inr (.inl hgone)
  · obtain ⟨overrun, out, hsystem⟩ := hcalls.system
    obtain hhalted | hgone | hdown := hd
    · exact .inl (hcalls.halted hhalted)
    · exact .inr (.inl (hsystem ▸ hgone.of_fields overrun out))
    · obtain ⟨overrun', out', hsystem'⟩ := hdown.system
      refine .inr (.inr ⟨⟨overrun, out, ?_⟩, hcalls.timed hdown.timed, fun hlost => ?_, ?_⟩)
      · rw [hsystem, hsystem']
      · exact Nat.eq_zero_of_le_zero (hdown.lost hlost ▸ hcalls.tokens)
      · rw [hcalls.feed_eq, List.append_nil]
        exact hdown.fed

theorem sunk_headset (hd : Sunk lost changes c d) (h : SmTaskData) : Sunk lost changes c { d with headset := h } :=
  hd.imp_right fun hrest => hrest.imp_right fun hdown => ⟨hdown.system, hdown.timed, hdown.lost, hdown.fed⟩

theorem sunk_pop (hd : Sunk lost changes c d) {m : DeviceMessage} {queue : List DeviceMessage}
    (hq : d.queue = m :: queue) : Sunk lost changes c { d with queue := queue } := by
  obtain hhalted | hgone | hdown := hd
  · exact .inl hhalted
  · exact .inr (.inl hgone)
  · have hsub : queue.Sublist d.queue := hq ▸ List.sublist_cons_self m queue
    refine .inr (.inr ⟨hdown.system, hdown.timed, fun hlost => Nat.eq_zero_of_le_zero ?_, ?_⟩)
    · rw [← hdown.lost hlost]
      exact Nat.add_le_add_right hsub.countP_le _
    · exact fun change hmem => hdown.fed change ((hsub.filterMap changeOf).subset hmem)

theorem resting_rejects (hc : Resting b c) (overrun : Bool) (out : List (SystemOut TableStep)) :
    systemStatePowerOff { c with overrun := overrun, out := out } = { c with overrun := overrun, out := out } := by
  have hstate : c.state ∉ [SystemState.poweringOn, .active] := by
    obtain ⟨hstate, -⟩ | ⟨hstate, -⟩ := hc <;> rw [hstate] <;> decide
  unfold systemStatePowerOff
  split
  · rfl
  · exact if_neg hstate

theorem runs_same (v : DeviceEnv) {f : SystemCtx TableStep Confirmation → SystemCtx TableStep Confirmation}
    (hf : f { d.system with out := [] } = { d.system with out := [] }) : Runs d (d.systemCall v f) := by
  rw [systemCall_same v d hf]
  exact .of_calls ⟨⟨_, _, rfl⟩, rfl, ⟨[], (List.append_nil _).symm, rfl⟩, le_rfl, id, id⟩

theorem sunk_act (hc : Resting b c) (v : DeviceEnv) {a : Act} (ha : a ≠ .systemPowerOn) (hd : Sunk lost changes c d) :
    Sunk lost changes c (d.performAct v a) := by
  by_cases hhalted : d.halted = true
  · rw [performAct_halted v d a hhalted]
    exact .inl hhalted
  · by_cases hoff : a = .systemPowerOff
    · have hact : d.performAct v a = d.systemCall v systemStatePowerOff := by
        rw [hoff]
        exact if_neg hhalted
      rw [hact]
      refine sunk_runs hd ?_
      obtain hhalted' | hgone | hdown := hd
      · exact absurd hhalted' hhalted
      · exact runs_same v (powerOff_rejected (hgone.of_fields d.system.overrun []))
      · obtain ⟨overrun, out, hsystem⟩ := hdown.system
        refine runs_same v ?_
        rw [hsystem]
        exact resting_rejects hc overrun []
    · exact sunk_runs hd (runs_act v d ha hoff)

theorem keyless_acts {f : Ambient → SmTaskData → SmTaskData} (hf : Handler (· ≠ .ui .powerOn) f) (e : Ambient)
    (h : SmTaskData) : ∀ a ∈ (f e { h with out := [] }).out, a ≠ .systemPowerOn := by
  have hrule : ∀ (E : HeadsetState → HeadsetState → Prop) (S : SmTaskData → Act → Prop) (e' : Ambient),
      Moves E S e' { h with out := [] } (f e { h with out := [] }) → (∀ h a, S h a → a ≠ .systemPowerOn) →
        ∀ a ∈ (f e { h with out := [] }).out, a ≠ .systemPowerOn := by
    intro E S e' hm hS a ha
    obtain ⟨new, hout, hnew⟩ := emits_moves e' _ hm
    rw [hout, List.append_nil] at ha
    obtain hroutine | ⟨h', hs⟩ := hnew a ha
    · rintro rfl
      exact absurd hroutine nofun
    · exact hS h' a hs
  cases hf with
  | message m hm =>
    refine hrule _ _ e (moves_message e _ m) fun h' a hs => ?_
    unfold special at hs
    split at hs
    · exact absurd rfl hm
    · rw [hs]
      exact nofun
    · rw [hs.2.2.2]
      exact nofun
    · rw [hs.2]
      exact nofun
    · exact absurd hs not_false
  | timer t =>
    refine hrule (fun _ _ => False) _ e (moves_timer e _ t) fun h' a hs => ?_
    rw [hs.2.2.2.2]
    exact nofun
  | stopCfm =>
    refine hrule _ _ e (moves_stopCfm e _) fun h' a hs => ?_
    rw [hs.2]
    exact nofun
  | wiredConnected => exact hrule _ (fun _ _ => False) e (moves_wiredConnected e _) fun _ _ hs => absurd hs not_false
  | wiredDisconnected => exact hrule _ (fun _ _ => False) e (moves_wiredDisconnected e _) fun _ _ hs => absurd hs not_false
  | brOnlineChanged online =>
    exact hrule (fun _ _ => False) (fun _ _ => False) { e with brOnline := online } (moves_brOnlineChanged _ _ online)
      fun _ _ hs => absurd hs not_false

theorem sunk_call (hc : Resting b c) (v : DeviceEnv) {f : Ambient → SmTaskData → SmTaskData}
    (hf : Handler (· ≠ .ui .powerOn) f) (hd : Sunk lost changes c d) : Sunk lost changes c (d.headsetCallInner v f) := by
  have hacts := keyless_acts hf (d.ambientOf v) d.headset
  unfold Chip.headsetCallInner
  dsimp only
  generalize f (d.ambientOf v) { d.headset with out := [] } = h at hacts ⊢
  have hstart := sunk_headset hd { h with out := [] }
  generalize ({ d with headset := { h with out := [] } } : Chip) = d' at hstart ⊢
  replace hacts : ∀ a ∈ h.out.reverse, a ≠ .systemPowerOn := fun a ha => hacts a (List.mem_reverse.mp ha)
  generalize h.out.reverse = acts at hacts ⊢
  induction acts generalizing d' with
  | nil => exact hstart
  | cons a acts ih =>
    exact ih _ (sunk_act hc v (hacts a List.mem_cons_self) hstart) fun a' ha' => hacts a' (List.mem_cons_of_mem a ha')

theorem headsetCall_known (v : DeviceEnv) (d : Chip) {f : Ambient → SmTaskData → SmTaskData} {h : SmTaskData}
    (hf : f (d.ambientOf v) { d.headset with out := [] } = h) (hno : h.out.head? ≠ some (.wiredController true)) :
    d.headsetCall v f = h.out.reverse.foldl (Chip.performAct v) { d with headset := { h with out := [] } } := by
  subst hf
  exact if_neg hno

theorem sunk_powerOnKey (v : DeviceEnv) (hstate : d.headset.state ≠ .limbo) (hd : Sunk lost changes c d) :
    Sunk lost changes c (d.headsetMessage v (.ui .powerOn)) := by
  have hidle : headsetSmHandleMessage (d.ambientOf v) (.ui .powerOn) { d.headset with out := [] } =
      { d.headset with out := [] } := if_neg hstate
  have hcall : d.headsetMessage v (.ui .powerOn) = { d with headset := { d.headset with out := [] } } :=
    headsetCall_known v d (f := fun e h => headsetSmHandleMessage e (.ui .powerOn) h) hidle nofun
  rw [hcall]
  exact sunk_headset hd _

theorem down_poweredOff (v : DeviceEnv) (hstate : c.state = .poweringOff) (hwaits : Waits (powerOffTable b) .limbo c)
    (hsettled : settledDown ∈ changes) (hnone : ¬ lost) (hgoes : d.halted = false) (hd : Down lost changes c d) :
    Down lost changes { c with state := .limbo, index := (powerOffTable b).length }
      (d.systemCall v (systemStateDoTransition (powerOffTable b))) := by
  obtain ⟨overrun, out, hsystem⟩ := hd.system
  have hend : systemStateDoTransition (powerOffTable b) { d.system with out := [] } =
      { { c with state := .limbo, index := (powerOffTable b).length, overrun := overrun } with
        out := (powerOffRest b).reverse } := by
    rw [hsystem]
    exact poweredOff_eq { c with overrun := overrun } hstate ⟨hwaits.transition, hwaits.index, hwaits.completion⟩
  have hcalls := (calls_systemOuts v (plain_powerOffRest b) { d with system :=
    { c with state := .limbo, index := (powerOffTable b).length, overrun := overrun, out := [] } } hgoes).1
  rw [← systemCall_eq v d hend, changed_powerOffRest] at hcalls
  obtain ⟨overrun', out', hsystem'⟩ := hcalls.system
  refine ⟨⟨overrun', out', hsystem'⟩, hcalls.timed hd.timed, fun hlost => absurd hlost hnone, ?_⟩
  rw [hcalls.feed_eq]
  intro change hmem
  obtain hmem | hmem := List.mem_append.mp hmem
  · exact hd.fed change hmem
  · rw [List.mem_singleton.mp hmem]
    exact hsettled

theorem sunk_transitionMessage (hc : Resting b c) (v : DeviceEnv) {m : Confirmation} {queue : List DeviceMessage}
    (hq : d.queue = .transition m :: queue) (hsettled : settledDown ∈ changes) (hd : Down lost changes c d) :
    ∃ c', Resting b c' ∧ (lost → c' = c) ∧ Sunk lost changes c' (Chip.transitionMessage v m { d with queue := queue }) := by
  have hpop : Sunk lost changes c { d with queue := queue } := sunk_pop (.inr (.inr hd)) hq
  obtain ⟨overrun, out, hsystem⟩ := hd.system
  unfold Chip.transitionMessage
  dsimp only
  split
  · exact ⟨c, hc, fun _ => rfl, hpop⟩
  · exact ⟨c, hc, fun _ => rfl, sunk_runs hpop
      (.of_calls ⟨⟨_, _, rfl⟩, rfl, ⟨[], (List.append_nil _).symm, rfl⟩, le_rfl, id, id⟩)⟩
  · rename_i handler haccepted
    obtain ⟨s, hs, hid, hhandler⟩ := receive_awaited haccepted
    rw [hsystem] at hs
    obtain ⟨hstate, hwaits⟩ | ⟨hstate, hthrough⟩ := hc
    · have hs' : (powerOffTable b)[0]? = some s := by
        rw [← hwaits.transition, ← hwaits.index]
        exact hs
      cases hs'
      cases hid
      obtain rfl : handler = some .topologyStopCfm := hhandler
      have hnone : ¬ lost := by
        intro hlost
        have hpos : 0 < d.queue.countP isStopCfm := List.countP_pos_iff.mpr ⟨_, hq ▸ List.mem_cons_self, rfl⟩
        have htokens := hd.lost hlost
        unfold stopTokens at htokens
        omega
      have htable : d.system.transition = powerOffTable b := by
        rw [hsystem]
        exact hwaits.transition
      have hhandled : Sunk lost changes c
          (Chip.headsetCall v headetSmHandleTopologyStopCfm { d with queue := queue }) :=
        walk_headsetCall (fun _ _ hc hd => sunk_runs hd (.of_calls hc))
          (fun v _ _ hf hd => sunk_call (.inl ⟨hstate, hwaits⟩) v hf hd) v .stopCfm hpop
      rw [htable, asyncHandler_stopCfm]
      generalize Chip.headsetCall v headetSmHandleTopologyStopCfm { d with queue := queue } = d' at hhandled ⊢
      refine ⟨{ c with state := .limbo, index := (powerOffTable b).length }, .inr ⟨rfl, ?_⟩, fun hlost => absurd hlost hnone, ?_⟩
      · rw [hwaits.transition]
      · by_cases hgoes : d'.halted = true
        · rw [if_pos hgoes]
          exact .inl hgoes
        · rw [if_neg hgoes]
          obtain hhalted | hgone | hdown := hhandled
          · exact absurd hhalted hgoes
          · exact .inr (.inl (gone_goesOn v hgone _))
          · exact .inr (.inr (down_poweredOff v hstate hwaits hsettled hnone (Bool.eq_false_iff.mpr hgoes) hdown))
    · rw [List.getElem?_eq_none (by exact hthrough)] at hs
      exact absurd hs (Option.some_ne_none s).symm

theorem sunk_deviceStep (hc : Resting b c) (hsettled : settledDown ∈ changes) (hd : Down lost changes c d)
    (ev : DeviceEnv × DeviceEvent)
    (hkey : ∀ queue, ev.2 = .deliver → d.queue = .headset (.ui .powerOn) :: queue → d.headset.state ≠ .limbo) :
    ∃ c', Resting b c' ∧ (lost → c' = c) ∧ Sunk lost changes c' (deviceStep d ev) := by
  obtain ⟨v, ev⟩ := ev
  have hsunk : Sunk lost changes c d := .inr (.inr hd)
  have hcalls : ∀ d d', Calls [] d d' → Sunk lost changes c d → Sunk lost changes c d' :=
    fun _ _ hc hd => sunk_runs hd (.of_calls hc)
  have hcall : ∀ v f d, Handler (· ≠ .ui .powerOn) f → Sunk lost changes c d →
      Sunk lost changes c (d.headsetCallInner v f) := fun v _ _ hf hd => sunk_call hc v hf hd
  by_cases hev : ev = .deliver ∧ d.halted = false
  · obtain ⟨rfl, hrun⟩ := hev
    rw [show deviceStep d (v, .deliver) = d.deliver v from if_neg (Bool.eq_false_iff.mp hrun)]
    unfold Chip.deliver
    cases hq : d.queue with
    | nil => exact ⟨c, hc, fun _ => rfl, hsunk⟩
    | cons m queue =>
      cases m with
      | transition m => exact sunk_transitionMessage hc v hq hsettled hd
      | headset m =>
        refine ⟨c, hc, fun _ => rfl, ?_⟩
        by_cases hm : m = .ui .powerOn
        · subst hm
          exact sunk_powerOnKey v (hkey queue rfl hq) (sunk_pop hsunk hq)
        · exact walk_headsetCall hcalls hcall v (.message m hm) (sunk_pop hsunk hq)
  · refine ⟨c, hc, fun _ => rfl, walk_deviceStep hcalls hcall (fun v c d hd => sunk_runs hd (runs_powerCall v c d))
      hsunk v ev ?_ ?_ ?_⟩
    · exact fun hrun hdeliver => absurd ⟨hdeliver, hrun⟩ hev
    · intro _ _
      obtain ⟨overrun, out, hsystem⟩ := hd.system
      refine sunk_runs hsunk (runs_same v (if_neg fun hmem => ?_))
      have hinit : c.state = .initialised := by
        rw [hsystem] at hmem
        exact List.mem_singleton.mp hmem
      obtain ⟨hstate, -⟩ | ⟨hstate, -⟩ := hc <;> exact absurd (hstate.symm.trans hinit) nofun
    · intro hpending _
      exact sunk_runs hsunk (.of_calls (calls_topologyCall d
        (keeps_confirmed d.topology false (hd.timed hpending) (d.topology.stopTimers - 1))))

theorem down_powerOff (v : DeviceEnv) (hstate : d.system.state = .poweringOn ∨ d.system.state = .active)
    (hlimbo : d.system.isLimboRemoved = false) (htables : d.system.tables = tables b) (hrun : d.halted = false)
    (htimed : StopTimed d.topology) (htokens : stopTokens d = 0) :
    Down (d.topology.state = .starting) (settledDown :: (feed d.queue ++ [(d.system.state, .poweringOff)]))
      (stopping b d.system) (d.systemCall v systemStatePowerOff) := by
  obtain ⟨d', hcalls, hsystem, htopology, hcall⟩ := powerOff_call v hstate hlimbo htables hrun
  have htokens' : stopTokens d' = 0 := Nat.eq_zero_of_le_zero (hcalls.tokens.trans htokens.le)
  have hstop := stop_tokens htokens'
  rw [hcall]
  refine ⟨⟨d.system.overrun, [], ?_⟩, stop_timed (hcalls.timed htimed), fun hstarting => ?_, ?_⟩
  · rw [topologyCall_eq]
    exact hsystem
  · rw [htopology, if_pos hstarting] at hstop
    exact Nat.eq_zero_of_le_zero hstop
  · rw [stop_feed, hcalls.feed_eq]
    exact fun change hmem => List.mem_cons_of_mem _ hmem

end Sinking

section Message

variable {b : PowerBuild} {d : Chip} (v : DeviceEnv)

theorem step_powerOffMessage {queue : List DeviceMessage} (hrun : d.halted = false)
    (hq : d.queue = .headset (.internal .powerOff) :: queue)
    (hstate : d.headset.state ∉ [HeadsetState.null, .factoryReset, .limbo]) :
    deviceStep d (v, .deliver) =
      Chip.systemCall v systemStatePowerOff { d with queue := queue, headset := { d.headset with out := [] } } := by
  have hgoes : ¬ d.halted = true := Bool.eq_false_iff.mp hrun
  have hhandler := handleInternalPowerOff_eq { d.headset with out := [] } hstate
  have hno : (SmTaskData.act .systemPowerOff { d.headset with out := [] }).out.head? ≠ some (.wiredController true) :=
    fun hhead => Act.noConfusion (Option.some.inj hhead)
  have hcall := headsetCall_known v { d with queue := queue }
    (f := fun e h => headsetSmHandleMessage e (.internal .powerOff) h) hhandler hno
  have hstep : deviceStep d (v, .deliver) = d.deliver v := if_neg hgoes
  rw [hstep]
  unfold Chip.deliver
  rw [hq]
  exact hcall.trans (if_neg hgoes)

theorem down_powerOffMessage {queue : List DeviceMessage} (hd : Live b d) (hrun : d.halted = false)
    (hq : d.queue = .headset (.internal .powerOff) :: queue)
    (hup : d.headset.state ∉ [HeadsetState.null, .factoryReset, .limbo])
    (hstate : d.system.state = .poweringOn ∨ d.system.state = .active) :
    Down (d.topology.state = .starting) (settledDown :: (feed queue ++ [(d.system.state, .poweringOff)]))
        (stopping b d.system) (deviceStep d (v, .deliver)) ∧
      (deviceStep d (v, .deliver)).headset = { d.headset with out := [] } := by
  have hpop := live_pop hd hq rfl
  have htokens : stopTokens { d with queue := queue } = 0 :=
    tokens_of_phase hpop.phase (by obtain hs | hs := hstate <;> rw [hs] <;> exact SystemState.noConfusion)
  rw [step_powerOffMessage v hrun hq hup]
  refine ⟨?_, (aside_systemCall v _ _).headset⟩
  exact down_powerOff (d := { d with queue := queue, headset := { d.headset with out := [] } }) v hstate hd.limbo hd.tables hrun
    hd.told.timed htokens

theorem raceFree_append (d : Chip) (evs later : List (DeviceEnv × DeviceEvent)) :
    raceFree d (evs ++ later) = (raceFree d evs && raceFree (evs.foldl deviceStep d) later) := by
  induction evs generalizing d with
  | nil => rfl
  | cons ev evs ih =>
    rw [List.cons_append, raceFree, raceFree, ih, List.foldl_cons, Bool.and_assoc]

end Message

section Lost

variable {b : PowerBuild} {changes : List (SystemState × SystemState)} {c : SystemCtx TableStep Confirmation}

theorem lost_run (hc : Resting b c) (hoff : c.state = .poweringOff) (hsettled : settledDown ∈ changes)
    {later : List (DeviceEnv × DeviceEvent)} {d : Chip} (hd : Sunk True changes c d) (hfree : raceFree d later = true) :
    Sunk True changes c (later.foldl deviceStep d) := by
  induction later generalizing d with
  | nil => exact hd
  | cons ev later ih =>
    obtain ⟨hnot, hrest⟩ := Bool.and_eq_true_iff.mp hfree
    refine ih ?_ hrest
    obtain hhalted | hgone | hdown := hd
    · exact (gone_deviceStep (.inl hhalted) ev).imp_right .inl
    · exact (gone_deviceStep (.inr hgone) ev).imp_right .inl
    · have hkey : ∀ queue, ev.2 = .deliver → d.queue = .headset (.ui .powerOn) :: queue → d.headset.state ≠ .limbo := by
        intro queue hev hq hlimbo
        obtain ⟨overrun, out, hsystem⟩ := hdown.system
        have hstate : d.system.state = .poweringOff := by
          rw [hsystem]
          exact hoff
        unfold racy at hnot
        rw [hev, hq] at hnot
        simp [hstate, hlimbo] at hnot
      obtain ⟨c', -, hsame, hsunk⟩ := sunk_deviceStep hc hsettled hdown ev hkey
      exact hsame trivial ▸ hsunk

variable (b) (v : DeviceEnv) (autoPowerOn : Bool) (evs : List (DeviceEnv × DeviceEvent)) (v' : DeviceEnv)
  (later : List (DeviceEnv × DeviceEvent))

/-- A power-off that arrives in the active state while the topology is still starting is never
finished: in every run without a racy delivery the system stays in the powering off, up to a
shutdown, because nobody confirms the stop that the transition waits for. -/
theorem early_stop_never_confirmed
    (hfree : raceFree (chipBoot b v autoPowerOn) (evs ++ (v', .deliver) :: later) = true)
    (hactive : (deviceRun b v autoPowerOn evs).system.state = .active)
    (hstarting : (deviceRun b v autoPowerOn evs).topology.state = .starting)
    (hup : (deviceRun b v autoPowerOn evs).headset.state ∉ [HeadsetState.null, .factoryReset, .limbo])
    (hhead : (deviceRun b v autoPowerOn evs).queue.head? = some (.headset (.internal .powerOff))) :
    (deviceRun b v autoPowerOn (evs ++ (v', .deliver) :: later)).halted = true ∨
      (deviceRun b v autoPowerOn (evs ++ (v', .deliver) :: later)).system.state ∈ .poweringOff :: ending := by
  obtain ⟨hbefore, hafter⟩ := Bool.and_eq_true_iff.mp (raceFree_append _ _ _ ▸ hfree)
  obtain ⟨-, hrest⟩ := Bool.and_eq_true_iff.mp hafter
  have htrack := track_run (.inr (.inr (live_chipBoot v b autoPowerOn))) hbefore
  have hrun : deviceRun b v autoPowerOn (evs ++ (v', .deliver) :: later) =
      later.foldl deviceStep (deviceStep (deviceRun b v autoPowerOn evs) (v', .deliver)) := List.foldl_append
  rw [hrun]
  change Track b (deviceRun b v autoPowerOn evs) at htrack
  change raceFree (deviceStep (deviceRun b v autoPowerOn evs) (v', .deliver)) later = true at hrest
  generalize deviceRun b v autoPowerOn evs = d at hactive hstarting hup hhead htrack hrest ⊢
  obtain ⟨queue, hq⟩ : ∃ queue, d.queue = .headset (.internal .powerOff) :: queue := List.head?_eq_some_iff.mp hhead
  have hsunk : Sunk True (settledDown :: (feed queue ++ [(d.system.state, .poweringOff)])) (stopping b d.system)
      (deviceStep d (v', .deliver)) := by
    obtain hhalted | hgone | hlive := htrack
    · exact (gone_deviceStep (.inl hhalted) _).imp_right .inl
    · exact (gone_deviceStep (.inr hgone) _).imp_right .inl
    · by_cases hhalted : d.halted = true
      · exact (gone_deviceStep (.inl hhalted) _).imp_right .inl
      · obtain ⟨hdown, -⟩ := down_powerOffMessage v' hlive (Bool.eq_false_iff.mpr hhalted) hq hup (.inr hactive)
        exact .inr (.inr ⟨hdown.system, hdown.timed, fun _ => hdown.lost hstarting, hdown.fed⟩)
  obtain hhalted | hgone | hdown :=
    lost_run (b := b) (.inl ⟨rfl, rfl, rfl, rfl⟩) rfl List.mem_cons_self hsunk hrest
  · exact .inl hhalted
  · exact .inr (List.mem_cons_of_mem _ hgone.state)
  · obtain ⟨overrun, out, hsystem⟩ := hdown.system
    refine .inr (List.mem_cons.mpr (.inl ?_))
    rw [hsystem]
    rfl

def hasty : List DeviceEvent := poweredUp ++ [.post (.ui .powerOff), .deliver]

theorem early_stop_example :
    (deviceRun ⟨true, false⟩ plainDevice false (plainly hasty ++ (plainDevice, .deliver) ::
        plainly [.goalComplete true, .deliver, .deliver, .stopFinished])).halted = true ∨
      (deviceRun ⟨true, false⟩ plainDevice false (plainly hasty ++ (plainDevice, .deliver) ::
        plainly [.goalComplete true, .deliver, .deliver, .stopFinished])).system.state ∈ .poweringOff :: ending :=
  early_stop_never_confirmed ⟨true, false⟩ plainDevice false (plainly hasty) plainDevice
    (plainly [.goalComplete true, .deliver, .deliver, .stopFinished]) (by decide) (by decide) (by decide) (by decide)
    (by decide)

end Lost

section Stuck

def aloft : List HeadsetState := [.poweringOn, .pairing, .idle, .busy, .terminating]

def Aloft (d : Chip) : Prop := d.halted = true ∨ d.headset.panicked = false ∧ d.headset.state ∈ aloft

def missed : List (SystemState × SystemState) := [settledDown, (.poweringOn, .poweringOff)]

def harmless (m : HeadsetMessage) : Prop := ∀ old new, m = .systemStateChange old new → (old, new) ∈ missed

def Stays (E : HeadsetState → HeadsetState → Prop) : Prop := ∀ s s', E s s' → s ∈ aloft → s' ∈ aloft ∨ s' = .factoryReset

theorem stays_edge (e : Ambient) {m : HeadsetMessage} (hm : harmless m) : Stays (edge e m) := by
  intro s s' hedge hs
  unfold edge at hedge
  split at hedge
  · rename_i old new
    have hmissed := hm old new rfl
    simp only [missed, List.mem_cons, Prod.mk.injEq, List.not_mem_nil, or_false] at hmissed
    obtain ⟨rfl, rfl⟩ | ⟨rfl, rfl⟩ := hmissed <;> simp at hedge
  · rw [hedge.2]
    decide
  · rw [hedge.1] at hs
    exact absurd hs (by decide)
  · rw [hedge.2.2]
    decide
  · obtain hs' | hs' := of_decide_eq_true hedge.2 <;> rw [hs'] <;> decide
  · rw [hedge.2.1] at hs
    exact absurd hs (by decide)
  · rw [hedge.2]
    decide
  · rw [hedge.2]
    decide
  · exact .inr hedge.2
  · exact absurd hedge not_false

theorem stays_handler {f : Ambient → SmTaskData → SmTaskData} (hf : Handler harmless f) (e : Ambient) (h : SmTaskData) :
    ∃ (E : HeadsetState → HeadsetState → Prop) (S : SmTaskData → Act → Prop) (e' : Ambient),
      Moves E S e' h (f e h) ∧ Stays E := by
  cases hf with
  | message m hm => exact ⟨_, _, e, moves_message e h m, stays_edge e hm⟩
  | timer t => exact ⟨fun _ _ => False, _, e, moves_timer e h t, fun _ _ hedge => absurd hedge not_false⟩
  | stopCfm => exact ⟨_, _, e, moves_stopCfm e h, stays_edge e (m := .topologyStopCfm) nofun⟩
  | wiredConnected =>
    refine ⟨_, fun _ _ => False, e, moves_wiredConnected e h, fun s s' hedge _ => ?_⟩
    rw [hedge.2]
    decide
  | wiredDisconnected =>
    refine ⟨_, fun _ _ => False, e, moves_wiredDisconnected e h, fun s s' hedge _ => ?_⟩
    rw [hedge.2]
    decide
  | brOnlineChanged online =>
    exact ⟨fun _ _ => False, fun _ _ => False, { e with brOnline := online },
      moves_brOnlineChanged { e with brOnline := online } h online, fun _ _ hedge => absurd hedge not_false⟩

theorem aloft_call (v : DeviceEnv) {f : Ambient → SmTaskData → SmTaskData} (hf : Handler harmless f) {d : Chip}
    (hd : Aloft d) : Aloft (d.headsetCallInner v f) := by
  obtain hhalted | ⟨hcalm, hstate⟩ := hd
  · refine .inl ?_
    unfold Chip.headsetCallInner
    dsimp only
    rw [performActs_halted v _ _ (by exact hhalted)]
    exact hhalted
  · have hkept : d.headset.state ≠ .factoryReset := by
      intro hreset
      rw [hreset] at hstate
      exact absurd hstate (by decide)
    obtain hhalted | ⟨hcalm', hkept', -⟩ := headsetCallInner_calm v hf hcalm hkept
    · exact .inl hhalted
    · obtain ⟨E, S, e', hmoves, hstays⟩ := stays_handler hf (d.ambientOf v) { d.headset with out := [] }
      refine .inr ?_
      rw [headsetCallInner_headset]
      refine ⟨hcalm', ?_⟩
      have hpath := moves_path e' _ hmoves
      have hend : ∀ s', Relation.ReflTransGen (fun s s' => E s s' ∧ s ≠ .factoryReset) d.headset.state s' →
          s' ∈ aloft ∨ s' = .factoryReset := by
        intro s' hpath
        induction hpath with
        | refl => exact .inl hstate
        | tail _ hstep ih => exact hstays _ _ hstep.1 (ih.resolve_right hstep.2)
      exact (hend _ hpath).resolve_right hkept'

def Stuck (b : PowerBuild) (d : Chip) : Prop :=
  (d.halted = true ∨ Gone d.system) ∨ ∃ c, Resting b c ∧ Down False missed c d ∧ Aloft d

theorem stuck_deviceStep {b : PowerBuild} {d : Chip} (hd : Stuck b d) (ev : DeviceEnv × DeviceEvent) :
    Stuck b (deviceStep d ev) := by
  obtain hgone | ⟨c, hc, hdown, haloft⟩ := hd
  · exact .inl (gone_deviceStep hgone ev)
  · by_cases hhalted : d.halted = true
    · exact .inl (gone_deviceStep (.inl hhalted) ev)
    · have hstate := (haloft.resolve_left hhalted).2
      have hkey : ∀ queue, ev.2 = .deliver → d.queue = .headset (.ui .powerOn) :: queue → d.headset.state ≠ .limbo := by
        intro _ _ _ hlimbo
        rw [hlimbo] at hstate
        exact absurd hstate (by decide)
      have hok : ∀ m queue, d.queue = .headset m :: queue → harmless m := by
        rintro m queue hq old new rfl
        refine hdown.fed (old, new) ?_
        rw [hq]
        exact List.mem_filterMap.mpr ⟨_, List.mem_cons_self, rfl⟩
      have haloft' : Aloft (deviceStep d ev) := by
        refine deviceStep_rule (fun d d' haside hd => ?_) (fun v f d hf hd => aloft_call v hf hd) (fun _ _ _ _ hd => hd) d ev
          (fun _ => hok) haloft
        unfold Aloft
        rw [haside.headset]
        exact hd.imp_left haside.halted
      obtain ⟨c', hc', -, hhalted' | hgone | hdown'⟩ := sunk_deviceStep hc List.mem_cons_self hdown ev hkey
      · exact .inl (.inl hhalted')
      · exact .inl (.inr hgone)
      · exact .inr ⟨c', hc', hdown', haloft'⟩

theorem stuck_run {b : PowerBuild} {d : Chip} (hd : Stuck b d) (later : List (DeviceEnv × DeviceEvent)) :
    Stuck b (later.foldl deviceStep d) := by
  induction later generalizing d with
  | nil => exact hd
  | cons ev later ih => exact ih (stuck_deviceStep hd ev)

variable (b : PowerBuild) (v : DeviceEnv) (autoPowerOn : Bool) (evs : List (DeviceEnv × DeviceEvent)) (v' : DeviceEnv)
  (later : List (DeviceEnv × DeviceEvent))

theorem seen_poweringOn {d : Chip} (ht : Told .poweringOn d) (hon : d.headset.state.on = true) : feed d.queue = [] := by
  obtain ⟨seen, hchain, hfollows⟩ := ht.agrees
  have hlate := ht.late
  generalize feed d.queue = changes at hchain hlate ⊢
  cases hchain with
  | nil => rfl
  | @cons _ m _ rest hstep hrest =>
    have hm : m = .active ∨ m = .poweringOff := by
      revert hfollows hon hstep
      cases seen <;> cases d.headset.state <;> cases m <;> decide
    have hrank := rank_chain hrest hlate
    obtain rfl | rfl := hm <;> exact absurd hrank (by decide)

/-- A power-off that arrives while the system is still powering on is missed by the headset: in
every continuation, up to a shutdown, the headset stays up or terminates and never gets to
limbo, while the system rests in the powering off or in limbo. -/
theorem early_power_off_missed (hfree : raceFree (chipBoot b v autoPowerOn) evs = true)
    (hstate : (deviceRun b v autoPowerOn evs).system.state = .poweringOn)
    (hon : (deviceRun b v autoPowerOn evs).headset.state.on = true)
    (hhead : (deviceRun b v autoPowerOn evs).queue.head? = some (.headset (.internal .powerOff))) :
    (deviceRun b v autoPowerOn (evs ++ (v', .deliver) :: later)).halted = true ∨
      (deviceRun b v autoPowerOn (evs ++ (v', .deliver) :: later)).system.state ∈ ending ∨
      (deviceRun b v autoPowerOn (evs ++ (v', .deliver) :: later)).system.state ∈ [.poweringOff, .limbo] ∧
        (deviceRun b v autoPowerOn (evs ++ (v', .deliver) :: later)).headset.state ∈
          [.poweringOn, .pairing, .idle, .busy, .terminating] := by
  have htrack := track_run (.inr (.inr (live_chipBoot v b autoPowerOn))) hfree
  have hrun : deviceRun b v autoPowerOn (evs ++ (v', .deliver) :: later) =
      later.foldl deviceStep (deviceStep (deviceRun b v autoPowerOn evs) (v', .deliver)) := List.foldl_append
  rw [hrun]
  change Track b (deviceRun b v autoPowerOn evs) at htrack
  generalize deviceRun b v autoPowerOn evs = d at hstate hon hhead htrack ⊢
  obtain ⟨queue, hq⟩ : ∃ queue, d.queue = .headset (.internal .powerOff) :: queue := List.head?_eq_some_iff.mp hhead
  have hstuck : Stuck b (deviceStep d (v', .deliver)) := by
    obtain hhalted | hgone | hlive := htrack
    · exact .inl (gone_deviceStep (.inl hhalted) _)
    · exact .inl (gone_deviceStep (.inr hgone) _)
    · by_cases hhalted : d.halted = true
      · exact .inl (gone_deviceStep (.inl hhalted) _)
      · have hup : d.headset.state ∉ [HeadsetState.null, .factoryReset, .limbo] := by
          revert hon
          cases d.headset.state <;> decide
        obtain ⟨hdown, hheadset⟩ := down_powerOffMessage v' hlive (Bool.eq_false_iff.mpr hhalted) hq hup (.inl hstate)
        have hseen : feed queue = [] := by
          have hfeed := seen_poweringOn (hstate ▸ hlive.told) hon
          rw [hq] at hfeed
          exact hfeed
        rw [hseen, hstate] at hdown
        refine .inr ⟨_, .inl ⟨rfl, rfl, rfl, rfl⟩, ⟨hdown.system, hdown.timed, fun hlost => absurd hlost not_false, hdown.fed⟩, .inr ?_⟩
        rw [hheadset]
        refine ⟨hlive.told.calm, ?_⟩
        revert hon
        change d.headset.state.on = true → d.headset.state ∈ aloft
        cases d.headset.state <;> decide
  obtain (hhalted | hgone) | ⟨c, hc, hdown, haloft⟩ := stuck_run hstuck later
  · exact .inl hhalted
  · exact .inr (.inl hgone.state)
  · obtain ⟨overrun, out, hsystem⟩ := hdown.system
    obtain hhalted | ⟨-, hup⟩ := haloft
    · exact .inl hhalted
    · refine .inr (.inr ⟨?_, hup⟩)
      rw [hsystem]
      obtain ⟨hs, -⟩ | ⟨hs, -⟩ := hc <;> rw [hs] <;> decide

def interrupted : List DeviceEvent :=
  startedUp ++ [.post (.ui .powerOn), .deliver, .deliver, .wired .connectInd, .post (.ui .powerOff), .deliver]

theorem early_power_off_example :
    (deviceRun ⟨true, false⟩ plainDevice false (plainly interrupted ++ (plainDevice, .deliver) ::
        plainly [.deliver, .deliver, .promptPlayed])).halted = true ∨
      (deviceRun ⟨true, false⟩ plainDevice false (plainly interrupted ++ (plainDevice, .deliver) ::
        plainly [.deliver, .deliver, .promptPlayed])).system.state ∈ ending ∨
      (deviceRun ⟨true, false⟩ plainDevice false (plainly interrupted ++ (plainDevice, .deliver) ::
          plainly [.deliver, .deliver, .promptPlayed])).system.state ∈ [.poweringOff, .limbo] ∧
        (deviceRun ⟨true, false⟩ plainDevice false (plainly interrupted ++ (plainDevice, .deliver) ::
          plainly [.deliver, .deliver, .promptPlayed])).headset.state ∈ [.poweringOn, .pairing, .idle, .busy, .terminating] :=
  early_power_off_missed ⟨true, false⟩ plainDevice false (plainly interrupted) plainDevice
    (plainly [.deliver, .deliver, .promptPlayed]) (by decide) (by decide) (by decide) (by decide)

end Stuck

end SmartHelmet.Device
