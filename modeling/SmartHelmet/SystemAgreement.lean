import SmartHelmet.AgreementInvariant

namespace SmartHelmet.Device

open Headset Power

section Edges

def Safe (E : HeadsetState → HeadsetState → Prop) : Prop :=
  ∀ s s', E s s' → s ≠ .factoryReset →
    (∀ seen, follows seen s = true → follows seen s' = true ∨ s' = .factoryReset) ∧
      (s = .limbo ∨ s = .terminating → s' = .limbo ∨ s' = .terminating ∨ s' = .factoryReset)

variable {E : HeadsetState → HeadsetState → Prop}

theorem safe_false : Safe fun _ _ => False := fun _ _ h => absurd h not_false

theorem safe_pair {s s' : HeadsetState} (hfollows : ∀ seen, (!follows seen s || follows seen s') = true)
    (hleft : s ≠ .limbo ∧ s ≠ .terminating) :
    (∀ seen, follows seen s = true → follows seen s' = true ∨ s' = .factoryReset) ∧
      (s = .limbo ∨ s = .terminating → s' = .limbo ∨ s' = .terminating ∨ s' = .factoryReset) := by
  refine ⟨fun seen h => .inl ?_, fun h => absurd h (not_or.mpr hleft)⟩
  have hcheck := hfollows seen
  rw [h] at hcheck
  exact hcheck

theorem safe_connected : Safe connectedEdge := by
  rintro s s' ⟨rfl | rfl | rfl, rfl⟩ -
  · exact safe_pair (by intro seen; cases seen <;> rfl) (by decide)
  · exact safe_pair (by intro seen; cases seen <;> rfl) (by decide)
  · exact safe_pair (by intro seen; cases seen <;> rfl) (by decide)

theorem safe_disconnected : Safe disconnectedEdge := by
  rintro s s' ⟨rfl, rfl⟩ -
  exact safe_pair (by intro seen; cases seen <;> rfl) (by decide)

theorem safe_pairing : Safe fun s s' => s.on = true ∧ s' = .pairing := by
  rintro s s' ⟨hon, rfl⟩ -
  cases s with
  | poweringOn | pairing | idle | busy => exact safe_pair (by intro seen; cases seen <;> rfl) (by decide)
  | null | factoryReset | limbo | terminating | poweringOff => exact absurd hon (by decide)

def guarded : HeadsetMessage → Bool
  | .systemStateChange _ _ | .ui .powerOn | .internal .powerOff | .internal .pairHandset => true
  | _ => false

theorem safe_edge (e : Ambient) {m : HeadsetMessage} (hm : guarded m = false) : Safe (edge e m) := by
  cases m with
  | systemStateChange => exact absurd hm nofun
  | pairingPairCfm =>
    rintro s s' ⟨rfl, rfl⟩ -
    exact safe_pair (by intro seen; cases seen <;> rfl) (by decide)
  | topologyStopCfm =>
    rintro s s' ⟨rfl, rfl⟩ -
    exact safe_pair (by intro seen; cases seen <;> rfl) (by decide)
  | topologyHandsetDisconnected =>
    rintro s s' ⟨-, rfl, rfl⟩ -
    exact safe_pair (by intro seen; cases seen <;> rfl) (by decide)
  | audioChange =>
    rintro s s' ⟨hs, hs'⟩ -
    obtain rfl | rfl := of_decide_eq_true hs <;> obtain rfl | rfl := of_decide_eq_true hs' <;>
      exact safe_pair (by intro seen; cases seen <;> rfl) (by decide)
  | charger =>
    rintro s s' ⟨-, rfl, rfl⟩ -
    exact safe_pair (by intro seen; cases seen <;> rfl) (by decide)
  | shutdownPrepare =>
    rintro s s' ⟨-, rfl⟩ -
    refine ⟨fun seen _ => .inl ?_, fun _ => .inr (.inl rfl)⟩
    cases seen <;> rfl
  | internal m =>
    cases m with
    | factoryReset =>
      rintro s s' ⟨-, rfl⟩ -
      exact ⟨fun _ _ => .inr rfl, fun _ => .inr (.inr rfl)⟩
    | deleteHandsets => exact safe_false
    | pairHandset | powerOff => exact absurd hm nofun
  | ui | handsetConnected | handsetDisconnected | socUpdate | ancEnabled | ancDisabled | leakthrough | dfu =>
    exact safe_false

theorem safe_path (hE : Safe E) {s s' : HeadsetState}
    (hpath : Relation.ReflTransGen (fun s s' => E s s' ∧ s ≠ .factoryReset) s s') (hend : s' ≠ .factoryReset) :
    (∀ seen, follows seen s = true → follows seen s' = true) ∧
      (s = .limbo ∨ s = .terminating → s' = .limbo ∨ s' = .terminating) := by
  induction hpath with
  | refl => exact ⟨fun _ => id, id⟩
  | tail _ hstep ih =>
    obtain ⟨hfollows, hleft⟩ := ih hstep.2
    obtain ⟨hfollows', hleft'⟩ := hE _ _ hstep.1 hstep.2
    exact ⟨fun seen h => (hfollows' seen (hfollows seen h)).resolve_right hend,
      fun h => (or_assoc.mpr (hleft' (hleft h))).resolve_right hend⟩

end Edges

section Handlers

variable {b : PowerBuild} {d : Chip} (v : DeviceEnv) {f : Ambient → SmTaskData → SmTaskData}

theorem headsetCallInner_runs {ok : HeadsetMessage → Prop} (hf : Handler ok f) (hcalm : d.headset.panicked = false) (hkept : d.headset.state ≠ .factoryReset)
    (hacts : ∀ a ∈ (f (d.ambientOf v) { d.headset with out := [] }).out, a ≠ .systemPowerOn ∧ a ≠ .systemPowerOff) :
    let h := f (d.ambientOf v) { d.headset with out := [] }
    (d.headsetCallInner v f).halted = true ∨
      (h.panicked = false ∧ h.state ≠ .factoryReset ∧
        Runs { d with headset := { h with out := [] } } (d.headsetCallInner v f)) := by
  obtain hhalted | ⟨hcalm', hkept', -⟩ := headsetCallInner_calm v hf hcalm hkept
  · exact .inl hhalted
  · exact .inr ⟨hcalm', hkept', runs_acts v (fun a ha => hacts a (List.mem_reverse.mp ha)) _⟩

theorem told_headset {now : SystemState} (ht : Told now d) {h : SmTaskData}
    (hfollows : ∀ seen, follows seen d.headset.state = true → follows seen h.state = true)
    (hleft : d.headset.state = .limbo ∨ d.headset.state = .terminating → h.state = .limbo ∨ h.state = .terminating)
    (hcalm : h.panicked = false) (hkept : h.state ≠ .factoryReset) : Told now { d with headset := h } :=
  ⟨ht.agrees.move hfollows, ht.late, fun hhead => hleft (ht.left hhead), ht.settled, ht.timed, hcalm, hkept⟩

theorem live_headset (hd : Live b d) {h : SmTaskData} (ht : Told d.system.state { d with headset := h }) :
    Live b { d with headset := h } := ⟨hd.tables, hd.limbo, hd.phase, ht⟩

theorem acts_of_moves {E : HeadsetState → HeadsetState → Prop} {S : SmTaskData → Act → Prop} {e' : Ambient}
    {h h' : SmTaskData} (hm : Moves E S e' { h with out := [] } h')
    (hS : ∀ h a, S h a → a ≠ .systemPowerOn ∧ a ≠ .systemPowerOff) :
    ∀ a ∈ h'.out, a ≠ .systemPowerOn ∧ a ≠ .systemPowerOff := by
  obtain ⟨new, hout, hnew⟩ := emits_moves e' _ hm
  intro a ha
  rw [hout, List.append_nil] at ha
  obtain hroutine | ⟨h'', hs⟩ := hnew a ha
  · constructor
    · rintro rfl
      exact absurd hroutine nofun
    · rintro rfl
      exact absurd hroutine nofun
  · exact hS h'' a hs

theorem track_handler (hd : Live b d) (hf : Handler (fun _ => True) f) {E : HeadsetState → HeadsetState → Prop}
    {S : SmTaskData → Act → Prop} {u : Ambient}
    (hm : Moves E S u { d.headset with out := [] } (f (d.ambientOf v) { d.headset with out := [] })) (hE : Safe E)
    (hS : ∀ h a, S h a → a ≠ .systemPowerOn ∧ a ≠ .systemPowerOff) : Track b (d.headsetCallInner v f) := by
  obtain hhalted | ⟨hcalm, hkept, hruns⟩ :=
    headsetCallInner_runs v hf hd.told.calm hd.told.kept (acts_of_moves hm hS)
  · exact .inl hhalted
  · obtain ⟨hfollows, hleft⟩ := safe_path hE (moves_path u _ hm) hkept
    have htold := told_headset hd.told (h := { f (d.ambientOf v) { d.headset with out := [] } with out := [] })
      hfollows hleft hcalm hkept
    exact track_runs (.inr (.inr (live_headset hd htold))) hruns

theorem gone_act (hd : d.halted = true ∨ Gone d.system) (a : Act) :
    (d.performAct v a).halted = true ∨ Gone (d.performAct v a).system := by
  obtain hhalted | hgone := hd
  · rw [performAct_halted v d a hhalted]
    exact .inl hhalted
  · have hcalls : ∀ d', Runs d d' → d'.halted = true ∨ Gone d'.system := by
      rintro d' (hhalted | hgone' | hcalls)
      · exact .inl hhalted
      · exact .inr hgone'
      · obtain ⟨overrun, out, hsystem⟩ := hcalls.system
        exact .inr (hsystem ▸ hgone.of_fields overrun out)
    have hcleared : Gone { d.system with out := [] } := hgone.of_fields d.system.overrun []
    have hkeys : ∀ g : SystemCtx TableStep Confirmation → SystemCtx TableStep Confirmation,
        g { d.system with out := [] } = { d.system with out := [] } → Gone (d.systemCall v g).system := by
      intro g hg
      rw [systemCall_system, hg]
      exact hcleared
    by_cases hhalted : d.halted = true
    · rw [performAct_halted v d a hhalted]
      exact .inl hhalted
    · by_cases hon : a = .systemPowerOn
      · have hact : d.performAct v a = d.systemCall v systemStatePowerOn := by
          rw [hon]
          exact if_neg hhalted
        rw [hact]
        exact .inr (hkeys _ (powerOn_rejected hcleared))
      · by_cases hoff : a = .systemPowerOff
        · have hact : d.performAct v a = d.systemCall v systemStatePowerOff := by
            rw [hoff]
            exact if_neg hhalted
          rw [hact]
          exact .inr (hkeys _ (powerOff_rejected hcleared))
        · exact hcalls _ (runs_act v d hon hoff)

theorem gone_goesOn (hd : Gone d.system) (table : List (TransitionStep TableStep Confirmation)) :
    Gone (d.systemCall v (systemStateDoTransition table)).system := by
  rw [systemCall_system]
  have hgone := gone_doTransition (c := { d.system with out := [] }) table hd.state hd.completion
  exact hgone.of_fields (systemStateDoTransition table { d.system with out := [] }).overrun []

theorem gone_headsetCallInner (hd : d.halted = true ∨ Gone d.system) :
    (d.headsetCallInner v f).halted = true ∨ Gone (d.headsetCallInner v f).system := by
  unfold Chip.headsetCallInner
  dsimp only
  generalize f (d.ambientOf v) { d.headset with out := [] } = h
  have hstart : ({ d with headset := { h with out := [] } } : Chip).halted = true ∨
      Gone ({ d with headset := { h with out := [] } } : Chip).system := hd
  generalize ({ d with headset := { h with out := [] } } : Chip) = d' at hstart ⊢
  generalize h.out.reverse = acts
  induction acts generalizing d' with
  | nil => exact hstart
  | cons a acts ih => exact ih _ (gone_act v hstart a)

theorem track_headsetCallInner (hd : Track b d) (hlive : Live b d → Track b (d.headsetCallInner v f)) :
    Track b (d.headsetCallInner v f) := by
  obtain hhalted | hgone | hl := hd
  · exact (gone_headsetCallInner v (.inl hhalted)).imp_right .inl
  · exact (gone_headsetCallInner v (.inr hgone)).imp_right .inl
  · exact hlive hl

theorem track_wiredConnected (hd : Track b d) : Track b (d.headsetCallInner v headsetSmWiredAudioConnected) :=
  track_headsetCallInner v hd fun hl =>
    track_handler v hl .wiredConnected (S := fun _ _ => False) (moves_wiredConnected _ _) safe_connected
      fun _ _ h => absurd h not_false

theorem track_wiredDisconnected (hd : Track b d) : Track b (d.headsetCallInner v headsetSmWiredAudioDisconnected) :=
  track_headsetCallInner v hd fun hl =>
    track_handler v hl .wiredDisconnected (S := fun _ _ => False) (moves_wiredDisconnected _ _) safe_disconnected
      fun _ _ h => absurd h not_false

theorem track_fields {d' : Chip} (hd : Track b d) (hsystem : d'.system = d.system) (hheadset : d'.headset = d.headset)
    (hqueue : d'.queue = d.queue) (htopology : d'.topology = d.topology)
    (hhalted : d.halted = true → d'.halted = true) : Track b d' :=
  track_runs hd (.of_calls (.of_fields hsystem hheadset hqueue htopology hhalted))

theorem track_wiredControllerEnable (hd : Track b d) : Track b (d.wiredControllerEnable v) :=
  wiredControllerEnable_rule v (fun _ _ hd => track_fields hd rfl rfl rfl rfl id) hd (track_wiredConnected v hd)
    (track_wiredDisconnected v hd)

theorem track_headsetCall (hinner : Track b (d.headsetCallInner v f)) : Track b (d.headsetCall v f) := by
  unfold Chip.headsetCall
  dsimp only
  split
  · exact track_wiredControllerEnable v hinner
  · exact hinner

end Handlers

section Keys

variable {b : PowerBuild} {d : Chip} (v : DeviceEnv)

theorem live_pop (hd : Live b d) {m : DeviceMessage} {queue : List DeviceMessage} (hq : d.queue = m :: queue)
    (hm : changeOf m = none) : Live b { d with queue := queue } := by
  have hfeed : feed d.queue = feed queue := by
    rw [hq]
    exact List.filterMap_cons_none hm
  have htokens : stopTokens { d with queue := queue } ≤ stopTokens d := by
    unfold stopTokens
    rw [hq]
    exact Nat.add_le_add_right (List.sublist_cons_self m queue).countP_le _
  have ht := hd.told
  refine ⟨hd.tables, hd.limbo, hd.phase.mono htokens d.system.overrun d.system.out, ?_⟩
  refine ⟨?_, ?_, ?_, (List.pairwise_cons.mp (hq ▸ ht.settled)).2, ht.timed, ht.calm, ht.kept⟩
  · change ChangeFeed.Agrees _ _ _ (feed queue) _
    rw [← hfeed]
    exact ht.agrees
  · rw [← hfeed]
    exact ht.late
  · change (feed queue).head? = _ → _
    rw [← hfeed]
    exact ht.left

theorem live_cleared (hd : Live b d) : Live b { d with headset := { d.headset with out := [] } } :=
  live_headset hd (told_headset hd.told (fun _ => id) id hd.told.calm hd.told.kept)

theorem track_idle (hd : Live b d) {f : Ambient → SmTaskData → SmTaskData}
    (hf : f (d.ambientOf v) { d.headset with out := [] } = { d.headset with out := [] }) :
    Track b (d.headsetCallInner v f) := by
  unfold Chip.headsetCallInner
  dsimp only
  rw [hf]
  exact .inr (.inr (live_cleared hd))

theorem track_act {f : Ambient → SmTaskData → SmTaskData} {a : Act}
    (hf : f (d.ambientOf v) { d.headset with out := [] } = SmTaskData.act a { d.headset with out := [] })
    (hact : d.halted = false → Track b ({ d with headset := { d.headset with out := [] } }.performAct v a)) :
    Track b (d.headsetCallInner v f) := by
  unfold Chip.headsetCallInner
  dsimp only
  rw [hf]
  change Track b ({ d with headset := { d.headset with out := [] } }.performAct v a)
  by_cases hhalted : d.halted = true
  · rw [performAct_halted v _ a (by exact hhalted)]
    exact .inl hhalted
  · exact hact (Bool.eq_false_iff.mpr hhalted)

theorem track_actPowerOn (hd : Live b d) (hrun : d.halted = false) (hoff : d.system.state ≠ .poweringOff) :
    Track b (d.performAct v .systemPowerOn) := by
  have hact : d.performAct v .systemPowerOn = d.systemCall v systemStatePowerOn :=
    if_neg (by rw [hrun]; exact Bool.false_ne_true)
  rw [hact]
  exact track_powerOn v hd hrun hoff

theorem track_actPowerOff (hd : Live b d) (hrun : d.halted = false) (hon : d.system.state ≠ .poweringOn) :
    Track b (d.performAct v .systemPowerOff) := by
  have hact : d.performAct v .systemPowerOff = d.systemCall v systemStatePowerOff :=
    if_neg (by rw [hrun]; exact Bool.false_ne_true)
  rw [hact]
  exact track_powerOff v hd hrun hon

theorem track_powerOnKey (hd : Live b d) (hnot : ¬ (d.system.state = .poweringOff ∧ d.headset.state = .limbo)) :
    Track b (d.headsetCallInner v fun e h => headsetSmHandleMessage e (.ui .powerOn) h) := by
  by_cases hlimbo : d.headset.state = .limbo
  · exact track_act v (a := .systemPowerOn) (if_pos hlimbo) fun hrun =>
      track_actPowerOn v (live_cleared hd) hrun fun hoff => hnot ⟨hoff, hlimbo⟩
  · exact track_idle v hd (if_neg hlimbo)

theorem handleInternalPowerOff_eq (h : SmTaskData) (hmem : h.state ∉ [HeadsetState.null, .factoryReset, .limbo]) :
    headsetSmHandleInternalPowerOff h = h.act .systemPowerOff := by
  unfold headsetSmHandleInternalPowerOff
  split
  · rename_i hs
    exact absurd (List.mem_of_getElem? (i := 0) (by rw [hs]; rfl)) hmem
  · rename_i hs
    exact absurd (List.mem_of_getElem? (i := 1) (by rw [hs]; rfl)) hmem
  · rename_i hs
    exact absurd (List.mem_of_getElem? (i := 2) (by rw [hs]; rfl)) hmem
  all_goals rfl

theorem track_powerOffMessage (hd : Live b d)
    (hnot : ¬ (d.system.state = .poweringOn ∧ d.headset.state ∉ [HeadsetState.null, .factoryReset, .limbo])) :
    Track b (d.headsetCallInner v fun e h => headsetSmHandleMessage e (.internal .powerOff) h) := by
  by_cases hmem : d.headset.state ∈ [HeadsetState.null, .factoryReset, .limbo]
  · refine track_idle v hd ?_
    change headsetSmHandleInternalPowerOff { d.headset with out := [] } = _
    unfold headsetSmHandleInternalPowerOff
    split
    · rfl
    · rfl
    · rfl
    all_goals
      rename_i hs
      have hs' : d.headset.state = _ := hs
      rw [hs'] at hmem
      exact absurd hmem (by decide)
  · have hhandler := handleInternalPowerOff_eq { d.headset with out := [] } hmem
    exact track_act v (a := .systemPowerOff) hhandler fun hrun =>
      track_actPowerOff v (live_cleared hd) hrun fun hon => hnot ⟨hon, hmem⟩

theorem track_pairHandset (hd : Live b d)
    (hnot : ¬ (isA2dpStreamingAndAvrcpPaused (d.ambientOf v) = true ∧
      d.headset.state ∈ [HeadsetState.null, .limbo, .terminating, .poweringOff])) :
    Track b (d.headsetCallInner v fun e h => headsetSmHandleMessage e (.internal .pairHandset) h) := by
  have hkept := hd.told.kept
  by_cases hon : d.headset.state.on = true
  · refine track_handler v hd (.message (.internal .pairHandset) trivial) (S := fun _ _ => False) (u := d.ambientOf v) ?_
      safe_pairing fun _ _ h => absurd h not_false
    change Moves _ _ _ _ (headsetSmHandleInternalPairHandset (d.ambientOf v) { d.headset with out := [] })
    unfold headsetSmHandleInternalPairHandset
    split
    · have hacts := (Moves.act (E := fun s s' => s.on = true ∧ s' = .pairing) (S := fun _ _ => False) (d.ambientOf v)
        (h := { d.headset with out := [] }) .refl (.wiredMonitoring false)).act (d.ambientOf v) (.usbAudio false)
      exact moves_setState _ (hacts.tail (.pairing true)) ⟨hon, rfl⟩
    · exact .refl
  · refine track_idle v hd ?_
    have hstate : d.headset.state ∈ [HeadsetState.null, .limbo, .terminating, .poweringOff] := by
      revert hon hkept
      cases d.headset.state <;> decide
    refine if_neg ?_
    rintro (hidle | hpaused)
    · rw [show d.headset.state = .idle from hidle] at hstate
      exact absurd hstate (by decide)
    · exact hnot ⟨hpaused, hstate⟩

end Keys

section Delivery

variable {b : PowerBuild} {d : Chip} (v : DeviceEnv)

theorem follows_change (e : Ambient) {old new : SystemState} (hlegal : legal old new) {h : SmTaskData}
    (hfollows : follows old h.state = true)
    (hleft : (old, new) = settledDown → h.state = .limbo ∨ h.state = .terminating)
    (hcalm : (headsetSmHandleSystemStateChange e old new h).panicked = false) :
    follows new (headsetSmHandleSystemStateChange e old new h).state = true := by
  simp only [legal, List.mem_cons, Prod.mk.injEq, List.not_mem_nil, or_false] at hlegal
  obtain ⟨rfl, rfl⟩ | ⟨rfl, rfl⟩ | ⟨rfl, rfl⟩ | ⟨rfl, rfl⟩ | ⟨rfl, rfl⟩ | ⟨rfl, rfl⟩ | ⟨rfl, rfl⟩ := hlegal
  · exact hfollows
  · exact hfollows
  · change (headsetSmHandleSystemSartedUpToLimbo e h).panicked = false at hcalm
    change follows .limbo (headsetSmHandleSystemSartedUpToLimbo e h).state = true
    unfold headsetSmHandleSystemSartedUpToLimbo at hcalm ⊢
    split at hcalm
    · rename_i hnull
      rw [if_pos hnull, setState_state e h .limbo hcalm]
      rfl
    · exact absurd hcalm nofun
  · change (headsetSetStateFull e .poweringOn h).panicked = false at hcalm
    change follows .poweringOn (headsetSetStateFull e .poweringOn h).state = true
    rw [setState_state e h _ hcalm]
    rfl
  · change (headsetSmHandlePoweredOn e h).panicked = false at hcalm
    change follows .active (headsetSmHandlePoweredOn e h).state = true
    unfold headsetSmHandlePoweredOn at hcalm ⊢
    split at hcalm
    · rename_i hwired
      rw [if_pos hwired]
      split at hcalm
      · rename_i hstate
        rw [if_pos hstate, setState_state e h _ hcalm]
        rfl
      · rename_i hstate
        rw [if_neg hstate]
        revert hfollows hstate
        cases h.state <;> decide
    · rename_i hwired
      rw [if_neg hwired]
      split at hcalm
      · rename_i hpaired
        rw [if_pos hpaired, setState_state e h _ hcalm]
        rfl
      · rename_i hpaired
        rw [if_neg hpaired, setState_state e _ _ hcalm]
        rfl
  · change (headsetSetStateFull e .poweringOff h).panicked = false at hcalm
    change follows .poweringOff (headsetSetStateFull e .poweringOff h).state = true
    rw [setState_state e h _ hcalm]
    rfl
  · change follows .limbo h.state = true
    obtain hs | hs := hleft rfl <;> rw [hs] <;> rfl

theorem track_change (hd : Live b d) {old new : SystemState} {queue : List DeviceMessage}
    (hq : d.queue = .headset (.systemStateChange old new) :: queue) :
    Track b (Chip.headsetCallInner v (fun e h => headsetSmHandleMessage e (.systemStateChange old new) h)
      { d with queue := queue }) := by
  have ht := hd.told
  have hfeed : feed d.queue = (old, new) :: feed queue := by
    rw [hq]
    exact List.filterMap_cons_some rfl
  have hcount : d.queue.countP isStopCfm = queue.countP isStopCfm := by
    rw [hq]
    exact List.countP_cons_of_neg nofun
  have hnotLate : settledDown ∉ feed queue := by
    have hlate := ht.late
    rw [hfeed, List.tail_cons] at hlate
    exact hlate
  obtain hhalted | ⟨hcalm, hkept, hruns⟩ := headsetCallInner_runs v (d := { d with queue := queue })
    (.message (.systemStateChange old new) True.intro : Handler (fun _ => True) _) ht.calm ht.kept
    (acts_of_moves (moves_message _ _ _) fun _ _ hs => absurd hs not_false)
  · exact .inl hhalted
  · let h := headsetSmHandleSystemStateChange (d.ambientOf v) old new { d.headset with out := [] }
    have htokens : stopTokens d = queue.countP isStopCfm + (owesStopCfm d.topology).toNat :=
      congrArg (· + (owesStopCfm d.topology).toNat) hcount
    have hagrees := ht.agrees
    rw [Follow, hfeed] at hagrees
    have htold : Told d.system.state { d with queue := queue, headset := { h with out := [] } } := by
      refine ⟨?_, fun hmem => hnotLate (List.mem_of_mem_tail hmem),
        fun hhead => absurd (List.mem_of_mem_head? hhead) hnotLate, (List.pairwise_cons.mp (hq ▸ ht.settled)).2,
        ht.timed, hcalm, hkept⟩
      refine hagrees.receive fun hlegal hfollows => follows_change _ hlegal hfollows (fun hsettled => ?_) hcalm
      exact ht.left (by rw [hfeed, hsettled]; rfl)
    have hlive : Live b { d with queue := queue, headset := { h with out := [] } } :=
      ⟨hd.tables, hd.limbo, hd.phase.mono htokens.ge d.system.overrun d.system.out, htold⟩
    exact track_runs (.inr (.inr hlive)) hruns

theorem runs_enable_off (hout : d.headset.out = []) (hoff : d.headset.state = .limbo ∨ d.headset.state = .terminating) :
    Runs d (d.wiredControllerEnable v) := by
  have hclear : ({ d.headset with out := [] } : SmTaskData) = d.headset := by
    rw [← hout]
  have hnothing : ∀ f : Ambient → SmTaskData → SmTaskData, (∀ e, f e d.headset = d.headset) →
      d.headsetCallInner v f = d := by
    intro f hf
    unfold Chip.headsetCallInner
    rw [hclear, hf]
    dsimp only
    rw [hout, hclear]
    rfl
  have hconnected : ∀ e, headsetSmWiredAudioConnected e d.headset = d.headset := by
    intro e
    unfold headsetSmWiredAudioConnected
    obtain hs | hs := hoff <;> rw [hs]
  have hdisconnected : ∀ e, headsetSmWiredAudioDisconnected e d.headset = d.headset := by
    intro e
    unfold headsetSmWiredAudioDisconnected
    obtain hs | hs := hoff <;> exact if_neg (by rw [hs]; exact HeadsetState.noConfusion)
  refine .of_calls (wiredControllerEnable_rule (P := fun d' => Calls [] d d') v (fun d' w hc => ?_) (.refl d) ?_ ?_)
  · exact hc.trans (show Calls [] d' _ from .of_fields rfl rfl rfl rfl id)
  · rw [hnothing _ hconnected]
    exact .refl d
  · rw [hnothing _ hdisconnected]
    exact .refl d

theorem runs_stopCfm (hd : Live b d) (hfollows : follows .poweringOff d.headset.state = true) :
    (d.headsetCall v headetSmHandleTopologyStopCfm).halted = true ∨
      ∃ h : SmTaskData, (h.state = .limbo ∨ h.state = .terminating) ∧ h.panicked = false ∧
        Runs { d with headset := h } (d.headsetCall v headetSmHandleTopologyStopCfm) := by
  have ht := hd.told
  obtain hhalted | ⟨hcalm, hkept, hruns⟩ := headsetCallInner_runs v (.stopCfm : Handler (fun _ => True) _) ht.calm ht.kept
    (acts_of_moves (moves_stopCfm _ _) fun _ _ hs => by
      rw [hs.2]
      exact ⟨nofun, nofun⟩)
  · left
    unfold Chip.headsetCall Chip.wiredControllerEnable
    dsimp only
    split
    · rw [if_pos (.inl hhalted)]
      exact hhalted
    · exact hhalted
  · right
    let h := headetSmHandleTopologyStopCfm (d.ambientOf v) { d.headset with out := [] }
    have hcalm' : h.panicked = false := hcalm
    have hstate : h.state = .limbo ∨ h.state = .terminating := by
      by_cases hoff : d.headset.state = .poweringOff
      · have heq : h = (headsetSetStateFull (d.ambientOf v) .limbo { d.headset with out := [] }).act .powerOffRequest :=
          if_pos hoff
        rw [heq] at hcalm' ⊢
        exact .inl (setState_state (d.ambientOf v) { d.headset with out := [] } .limbo hcalm')
      · have heq : h = SmTaskData.act (.wiredController true) { d.headset with out := [] } := if_neg hoff
        rw [heq]
        change d.headset.state = .limbo ∨ d.headset.state = .terminating
        revert hfollows hoff
        cases d.headset.state <;> decide
    refine ⟨{ h with out := [] }, hstate, hcalm, ?_⟩
    unfold Chip.headsetCall
    dsimp only
    split
    · obtain hhalted | hgone | hcalls := hruns
      · left
        unfold Chip.wiredControllerEnable
        rw [if_pos (.inl hhalted)]
        exact hhalted
      · have hclosed := wiredControllerEnable_rule (P := fun d => d.halted = true ∨ Gone d.system) v
          (d := d.headsetCallInner v headetSmHandleTopologyStopCfm) (fun _ _ h => h) (.inr hgone)
          (gone_headsetCallInner v (.inr hgone)) (gone_headsetCallInner v (.inr hgone))
        exact hclosed.imp_right .inl
      · have hsame := hcalls.headset
        exact (Runs.of_calls hcalls).trans (runs_enable_off v (by rw [hsame]) (by rw [hsame]; exact hstate))
    · exact hruns

theorem live_poweredOn (hd : Live b d) (hprompts : b.prompts = true) (hstate : d.system.state = .poweringOn)
    (hwaits : Waits (powerOnTable b) .active d.system) (hrun : d.halted = false) :
    Live b (d.systemCall v (systemStateDoTransition (powerOnTable b))) := by
  have htokens : stopTokens d = 0 := tokens_of_phase hd.phase (by rw [hstate]; exact SystemState.noConfusion)
  refine live_transition v { d.system with state := .active, index := (powerOnTable b).length } (powerOnRest b)
    (poweredOn_eq hprompts d.system hstate hwaits) (plain_powerOnRest b) hrun hd.tables hd.limbo htokens ⟨?_, rfl⟩ ?_
  · rw [hwaits.transition]
  · intro d' hcalls
    rw [changed_powerOnRest] at hcalls
    exact told_changes (hd.told.system _) hcalls (hstate ▸ chain_active) (by decide) htokens

theorem live_poweredOff (hd : Live b d) (hstate : d.system.state = .poweringOff) (hseen : feed d.queue = [])
    (hleft : d.headset.state = .limbo ∨ d.headset.state = .terminating) (htokens : stopTokens d = 0)
    (hrun : d.halted = false) : Live b (d.systemCall v (systemStateDoTransition (powerOffTable b))) := by
  have hwaits : Waits (powerOffTable b) .limbo d.system := by
    have hphase := hd.phase
    unfold Phase at hphase
    rw [hstate] at hphase
    exact hphase.1
  refine live_transition v { d.system with state := .limbo, index := (powerOffTable b).length } (powerOffRest b)
    (poweredOff_eq d.system hstate hwaits) (plain_powerOffRest b) hrun hd.tables hd.limbo htokens ⟨?_, rfl⟩ ?_
  · rw [hwaits.transition]
  · intro d' hcalls
    rw [changed_powerOffRest] at hcalls
    exact told_settledDown ((hstate ▸ hd.told).system _) hcalls hseen hleft htokens

theorem asyncHandler_stopCfm (d : Chip) :
    d.asyncHandler v (some .topologyStopCfm) = d.headsetCall v headetSmHandleTopologyStopCfm := if_pos rfl

theorem stopCfm_last (hd : Live b d) (hstate : d.system.state = .poweringOff) {queue : List DeviceMessage}
    (hq : d.queue = .transition .topologyStopCfm :: queue) :
    feed queue = [] ∧ stopTokens { d with queue := queue } = 0 := by
  have hsettled : (DeviceMessage.transition .topologyStopCfm :: queue).Pairwise
      fun m m' => isStopCfm m = true → changeOf m' = none := hq ▸ hd.told.settled
  refine ⟨List.filterMap_eq_nil_iff.mpr fun m' hm' => (List.pairwise_cons.mp hsettled).1 m' hm' rfl, ?_⟩
  have hphase := hd.phase
  unfold Phase at hphase
  rw [hstate] at hphase
  have hcount : stopTokens d = stopTokens { d with queue := queue } + 1 := by
    unfold stopTokens
    rw [hq, List.countP_cons_of_pos rfl]
    exact Nat.add_right_comm _ _ _
  have hone := hphase.2
  omega

theorem track_stopConfirmed (hd : Live b d) (hstate : d.system.state = .poweringOff) {queue : List DeviceMessage}
    (hq : d.queue = .transition .topologyStopCfm :: queue) :
    Track b (if (Chip.headsetCall v headetSmHandleTopologyStopCfm { d with queue := queue }).halted = true then
        Chip.headsetCall v headetSmHandleTopologyStopCfm { d with queue := queue }
      else (Chip.headsetCall v headetSmHandleTopologyStopCfm { d with queue := queue }).systemCall v
        (systemStateDoTransition (powerOffTable b))) := by
  have hpop : Live b { d with queue := queue } := live_pop hd hq rfl
  obtain ⟨hseen, htokens⟩ := stopCfm_last hd hstate hq
  have hagrees : Follow { d with queue := queue } d.system.state := hpop.told.agrees
  rw [Follow, hseen, hstate] at hagrees
  obtain hhalted | ⟨h, hleft, hcalm, hruns⟩ := runs_stopCfm v hpop hagrees.caught_up
  · rw [if_pos hhalted]
    exact .inl hhalted
  · split
    · rename_i hhalted
      exact .inl hhalted
    · rename_i hgoes
      obtain hhalted | hgone | hcalls := hruns
      · exact absurd hhalted hgoes
      · exact .inr (.inl (gone_goesOn v hgone _))
      · have htold : Told .poweringOff { d with queue := queue, headset := h } := by
          have ht := hpop.told
          refine ⟨⟨.poweringOff, ?_, ?_⟩, ?_, ?_, ht.settled, ht.timed, hcalm, ?_⟩
          · change ChangeFeed.Chain legal _ (feed queue) _
            rw [hseen]
            exact .nil _
          · obtain hs | hs := hleft <;> rw [hs] <;> rfl
          · exact hpop.told.late
          · exact fun _ => hleft
          · obtain hs | hs := hleft <;> rw [hs] <;> exact HeadsetState.noConfusion
        have hlive : Live b { d with queue := queue, headset := h } :=
          ⟨hd.tables, hd.limbo, hpop.phase, hstate ▸ htold⟩
        have hlive' := live_calls hlive hcalls
        obtain ⟨overrun, out, hsystem⟩ := hcalls.system
        have hfeed := hcalls.feed_eq
        have hheadset := hcalls.headset
        have htokens' := hcalls.tokens
        refine .inr (.inr (live_poweredOff v hlive' ?_ ?_ ?_ ?_ (Bool.eq_false_iff.mpr hgoes)))
        · rw [hsystem]
          exact hstate
        · rw [hfeed]
          exact (List.append_nil _).trans hseen
        · rw [hheadset]
          exact hleft
        · exact Nat.eq_zero_of_le_zero (htokens'.trans htokens.le)

theorem track_transitionMessage (hd : Live b d) {m : Confirmation} {queue : List DeviceMessage}
    (hq : d.queue = .transition m :: queue) (hrun : d.halted = false) :
    Track b (Chip.transitionMessage v m { d with queue := queue }) := by
  have hpop : Live b { d with queue := queue } := live_pop hd hq rfl
  unfold Chip.transitionMessage
  dsimp only
  split
  · exact .inr (.inr hpop)
  · exact .inr (.inr (live_calls hpop ⟨⟨_, _, rfl⟩, rfl, ⟨[], (List.append_nil _).symm, rfl⟩, le_rfl, id, id⟩))
  · rename_i handler haccepted
    obtain ⟨hstate, hprompts, hwaits, rfl⟩ | ⟨hstate, hwaits, rfl, rfl⟩ := receive_accepted hd.phase haccepted
    · change Track b (if d.halted = true then _ else _)
      rw [if_neg (by rw [hrun]; exact Bool.false_ne_true), hwaits.transition]
      exact .inr (.inr (live_poweredOn v hpop hprompts hstate hwaits hrun))
    · rw [asyncHandler_stopCfm, hwaits.transition]
      exact track_stopConfirmed v hd hstate hq

end Delivery

section Gone

variable {d : Chip} (v : DeviceEnv) (hd : d.halted = true ∨ Gone d.system)
include hd

theorem gone_headsetCall (f : Ambient → SmTaskData → SmTaskData) :
    (d.headsetCall v f).halted = true ∨ Gone (d.headsetCall v f).system := by
  have hinner := gone_headsetCallInner v (f := f) hd
  unfold Chip.headsetCall
  dsimp only
  split
  · exact wiredControllerEnable_rule (P := fun d => d.halted = true ∨ Gone d.system) v (fun _ _ h => h) hinner
      (gone_headsetCallInner v hinner) (gone_headsetCallInner v hinner)
  · exact hinner

theorem gone_transitionMessage (m : Confirmation) :
    (d.transitionMessage v m).halted = true ∨ Gone (d.transitionMessage v m).system := by
  unfold Chip.transitionMessage
  dsimp only
  split
  · exact hd
  · exact hd.imp_right fun hgone => hgone.of_fields true d.system.out
  · rename_i handler _
    have hhandled : (d.asyncHandler v handler).halted = true ∨ Gone (d.asyncHandler v handler).system := by
      unfold Chip.asyncHandler
      split
      · exact gone_headsetCall v hd _
      · exact hd
    split
    · exact hhandled
    · rename_i hgoes
      exact .inr (gone_goesOn v (hhandled.resolve_left hgoes) _)

theorem gone_deliver : (d.deliver v).halted = true ∨ Gone (d.deliver v).system := by
  have hpopped : ∀ queue, ({ d with queue := queue } : Chip).halted = true ∨
      Gone ({ d with queue := queue } : Chip).system := fun _ => hd
  unfold Chip.deliver
  split
  · exact hd
  · rename_i m queue _
    exact gone_headsetCall v (hpopped queue) fun e h => headsetSmHandleMessage e m h
  · rename_i m queue _
    exact gone_transitionMessage v (hpopped queue) m

theorem gone_deviceStep (ev : DeviceEnv × DeviceEvent) :
    (deviceStep d ev).halted = true ∨ Gone (deviceStep d ev).system := by
  obtain ⟨v, ev⟩ := ev
  have hruns : ∀ d d', Runs d d' → d.halted = true ∨ Gone d.system → d'.halted = true ∨ Gone d'.system := by
    rintro d d' (hhalted | hgone | hcalls) hd
    · exact .inl hhalted
    · exact .inr hgone
    · obtain ⟨overrun, out, hsystem⟩ := hcalls.system
      exact hd.imp hcalls.halted fun hgone => hsystem ▸ hgone.of_fields overrun out
  refine walk_deviceStep (P := fun d => d.halted = true ∨ Gone d.system) (fun d d' hc => hruns d d' (.of_calls hc))
    (fun v _ _ (_ : Handler (fun _ => False) _) hd => gone_headsetCallInner v hd)
    (fun v c d => hruns d _ (runs_powerCall v c d)) hd v ev ?_ ?_ ?_
  · exact fun _ _ => gone_deliver v hd
  · intro hrun _
    have hgone := hd.resolve_left (Bool.eq_false_iff.mp hrun)
    have hcleared := hgone.of_fields d.system.overrun []
    refine .inr ?_
    rw [systemCall_system, startUp_rejected (c := { d.system with out := [] }) hcleared]
    exact hcleared
  · intro _ _
    rw [topologyCall_eq]
    exact hd

end Gone

section Steps

variable {b : PowerBuild} {d : Chip} (v : DeviceEnv)

theorem special_quiet {m : HeadsetMessage} (hm : guarded m = false) {h : SmTaskData} {a : Act} (hs : special m h a) :
    a ≠ .systemPowerOn ∧ a ≠ .systemPowerOff := by
  unfold special at hs
  split at hs
  · exact absurd hm nofun
  · rw [hs]
    exact ⟨nofun, nofun⟩
  · exact absurd hm nofun
  · rw [hs.2]
    exact ⟨nofun, nofun⟩
  · exact absurd hs not_false

theorem changeOf_of_unguarded {m : HeadsetMessage} (hm : guarded m = false) : changeOf (.headset m) = none := by
  cases m with
  | systemStateChange => exact absurd hm nofun
  | _ => rfl

theorem track_deliver (hd : Live b d) (hrun : d.halted = false) (hnot : racy d (v, .deliver) = false) :
    Track b (d.deliver v) := by
  unfold Chip.deliver
  cases hq : d.queue with
  | nil => exact .inr (.inr hd)
  | cons m queue =>
    cases m with
    | transition c => exact track_transitionMessage v hd hq hrun
    | headset m =>
      refine track_headsetCall v ?_
      unfold racy at hnot
      rw [hq] at hnot
      by_cases hm : guarded m = false
      · exact track_handler v (live_pop hd hq (changeOf_of_unguarded hm)) (.message m trivial) (moves_message _ _ m)
          (safe_edge _ hm) fun _ _ hs => special_quiet hm hs
      · cases m with
        | systemStateChange old new => exact track_change v hd hq
        | ui u =>
          cases u with
          | powerOn => exact track_powerOnKey v (live_pop hd hq rfl) (of_decide_eq_false hnot)
          | _ => exact absurd rfl hm
        | internal m =>
          cases m with
          | powerOff => exact track_powerOffMessage v (live_pop hd hq rfl) (of_decide_eq_false hnot)
          | pairHandset => exact track_pairHandset v (live_pop hd hq rfl) (of_decide_eq_false hnot)
          | deleteHandsets | factoryReset => exact absurd rfl hm
        | _ => exact absurd rfl hm

theorem track_call {f : Ambient → SmTaskData → SmTaskData} (hf : Handler (fun m => guarded m = false) f)
    (hd : Track b d) : Track b (d.headsetCallInner v f) := by
  refine track_headsetCallInner v hd fun hl => ?_
  cases hf with
  | message m hm =>
    exact track_handler v hl (.message m trivial) (moves_message _ _ m) (safe_edge _ hm) fun _ _ hs => special_quiet hm hs
  | timer t =>
    refine track_handler v hl (.timer t) (moves_timer _ _ t) safe_false fun _ _ hs => ?_
    rw [hs.2.2.2.2]
    exact ⟨nofun, nofun⟩
  | stopCfm =>
    exact track_handler v hl .stopCfm (moves_stopCfm _ _) (safe_edge _ (m := .topologyStopCfm) rfl)
      fun _ _ hs => special_quiet (m := .topologyStopCfm) rfl hs
  | wiredConnected => exact track_wiredConnected v (.inr (.inr hl))
  | wiredDisconnected => exact track_wiredDisconnected v (.inr (.inr hl))
  | brOnlineChanged online =>
    exact track_handler v hl (.brOnlineChanged online) (S := fun _ _ => False) (moves_brOnlineChanged _ _ online)
      safe_false fun _ _ hs => absurd hs not_false

theorem track_deviceStep (hd : Track b d) {ev : DeviceEnv × DeviceEvent} (hnot : racy d ev = false) :
    Track b (deviceStep d ev) := by
  obtain hhalted | hgone | hlive := hd
  · exact (gone_deviceStep (.inl hhalted) ev).imp_right .inl
  · exact (gone_deviceStep (.inr hgone) ev).imp_right .inl
  · obtain ⟨v, ev⟩ := ev
    refine walk_deviceStep (fun _ _ hc hd => track_runs hd (.of_calls hc)) (fun v _ _ hf hd => track_call v hf hd)
      (fun v c d hd => track_runs hd (runs_powerCall v c d)) (.inr (.inr hlive)) v ev ?_ ?_ ?_
    · rintro hrun rfl
      exact track_deliver v hlive hrun hnot
    · exact fun hrun _ => track_startUp v hlive hrun
    · intro hpending _
      exact track_runs (.inr (.inr hlive)) (.of_calls (calls_topologyCall d
        (keeps_confirmed d.topology false (hlive.told.timed hpending) (d.topology.stopTimers - 1))))

theorem live_chipBoot (b : PowerBuild) (autoPowerOn : Bool) : Live b (chipBoot b v autoPowerOn) := by
  refine ⟨rfl, rfl, ⟨le_rfl, rfl⟩, ?_⟩
  refine ⟨⟨.initialisation, .cons (by decide) (.nil _), rfl⟩, List.not_mem_nil, fun hhead => absurd (Option.some.inj hhead) (by decide),
    List.pairwise_singleton _ _, fun hpos => absurd hpos (lt_irrefl 0), rfl, HeadsetState.noConfusion⟩

theorem track_run {evs : List (DeviceEnv × DeviceEvent)} (hd : Track b d) (hfree : raceFree d evs = true) :
    Track b (evs.foldl deviceStep d) := by
  induction evs generalizing d with
  | nil => exact hd
  | cons ev evs ih =>
    obtain ⟨hnot, hrest⟩ := Bool.and_eq_true_iff.mp hfree
    exact ih (track_deviceStep hd (Bool.not_eq_true' _ ▸ hnot)) hrest

end Steps

section Runs

variable (b : PowerBuild) (v : DeviceEnv) (autoPowerOn : Bool) (evs : List (DeviceEnv × DeviceEvent))

/-- In every run without a racy delivery, up to a shutdown, the headset is in a state that
agrees with the system state it has heard of, and the changes still queued lead from there to
the present one. -/
theorem headset_follows_system (hfree : raceFree (chipBoot b v autoPowerOn) evs = true)
    (hrun : (deviceRun b v autoPowerOn evs).halted = false)
    (hliving : (deviceRun b v autoPowerOn evs).system.state ∉ ending) :
    ∃ seen, ChangeFeed.Chain legal seen (feed (deviceRun b v autoPowerOn evs).queue)
        (deviceRun b v autoPowerOn evs).system.state ∧
      follows seen (deviceRun b v autoPowerOn evs).headset.state = true := by
  obtain hhalted | hgone | hlive := track_run (.inr (.inr (live_chipBoot v b autoPowerOn))) hfree
  · exact absurd (hrun.symm.trans hhalted) nofun
  · exact absurd hgone.state hliving
  · exact hlive.told.agrees

theorem headset_follows_example :
    ∃ seen, ChangeFeed.Chain legal seen (feed (deviceRun ⟨true, false⟩ plainDevice false (plainly stopped)).queue)
        (deviceRun ⟨true, false⟩ plainDevice false (plainly stopped)).system.state ∧
      follows seen (deviceRun ⟨true, false⟩ plainDevice false (plainly stopped)).headset.state = true :=
  headset_follows_system ⟨true, false⟩ plainDevice false (plainly stopped) (by decide) (by decide) (by decide)

/-- In the same runs a confirmation of the topology that reaches the transition is the one that
the transition waits for: none is stray, and none comes twice. -/
theorem stop_confirmation_awaited (hfree : raceFree (chipBoot b v autoPowerOn) evs = true)
    (hrun : (deviceRun b v autoPowerOn evs).halted = false)
    (hliving : (deviceRun b v autoPowerOn evs).system.state ∉ ending)
    (hcfm : .transition .topologyStopCfm ∈ (deviceRun b v autoPowerOn evs).queue) :
    (deviceRun b v autoPowerOn evs).queue.countP isStopCfm = 1 ∧
      systemStateReceive .topologyStopCfm (deviceRun b v autoPowerOn evs).system =
        .accepted (some .topologyStopCfm) := by
  obtain hhalted | hgone | hlive := track_run (.inr (.inr (live_chipBoot v b autoPowerOn))) hfree
  · exact absurd (hrun.symm.trans hhalted) nofun
  · exact absurd hgone.state hliving
  · change Live b (deviceRun b v autoPowerOn evs) at hlive
    generalize deviceRun b v autoPowerOn evs = d at hlive hcfm ⊢
    have hpos : 0 < d.queue.countP isStopCfm := List.countP_pos_iff.mpr ⟨_, hcfm, rfl⟩
    have htokens : d.queue.countP isStopCfm ≤ stopTokens d := Nat.le_add_right _ _
    have hphase := hlive.phase
    unfold Phase at hphase
    split at hphase
    · omega
    · obtain ⟨⟨htransition, hindex, -⟩, hone⟩ := hphase
      refine ⟨by omega, ?_⟩
      unfold systemStateReceive
      rw [htransition, hindex]
      rfl
    all_goals first
      | omega
      | exact absurd hphase not_false

theorem stop_confirmation_example :
    systemStateReceive .topologyStopCfm (deviceRun ⟨true, false⟩ plainDevice false (plainly stopped)).system =
      .accepted (some .topologyStopCfm) :=
  (stop_confirmation_awaited ⟨true, false⟩ plainDevice false (plainly stopped) (by decide) (by decide) (by decide)
    (List.mem_of_getElem? (i := 0) rfl)).2

end Runs

end SmartHelmet.Device
