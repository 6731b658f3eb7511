import SmartHelmet.DeviceFrames
import SmartHelmet.SessionSteps

namespace SmartHelmet.Device

open Headset Power

section Headset

structure Tells (powered : Bool) (h : SmTaskData) : Prop where
  panic : h.panicked = true → .panic ∈ h.out
  reboot : h.state = .factoryReset → .reboot ∈ h.out
  power : h.panicked = false → h.out.foldr (fun a p => powerAfter p a) powered = h.state.on

theorem foldr_agrees {s : HeadsetState} {acts : List Act} (hacts : ∀ a ∈ acts, a.agrees s) :
    acts.foldr (fun a p => powerAfter p a) s.on = s.on := by
  induction acts with
  | nil => rfl
  | cons a acts ih =>
    rw [List.foldr_cons, ih fun a' ha' => hacts a' (List.mem_cons_of_mem a ha')]
    exact hacts a List.mem_cons_self

theorem Act.spoken_agrees {a : Act} (ha : Act.spoken a) (s : HeadsetState) : a.agrees s := by
  obtain rfl | rfl | rfl | rfl := ha <;> rfl

variable {E : HeadsetState → HeadsetState → Prop} {S : SmTaskData → Act → Prop} {e : Ambient} {powered : Bool}

theorem tells_setState {h : SmTaskData} (ht : Tells powered h) (new : HeadsetState) :
    Tells powered (headsetSetStateFull e new h) := by
  cases hpanic : h.panicked with
  | true =>
    obtain ⟨hset, hkeep⟩ := setState_panicked e h new hpanic
    obtain ⟨left, hleft, -⟩ := emits_exitState e h
    rw [hset]
    refine ⟨fun _ => ?_, fun hstate => ?_, fun hnot => ?_⟩
    · rw [hleft]
      exact List.mem_append_right left (ht.panic hpanic)
    · rw [hleft]
      exact List.mem_append_right left (ht.reboot ((congrArg Sm.state (exitState_limbo e h)).symm.trans hstate))
    · exact absurd (hnot.symm.trans hkeep) Bool.false_ne_true
  | false =>
    by_cases hstate : h.state = .factoryReset
    · rw [setState_factoryReset e h new hstate]
      exact ⟨fun _ => List.mem_cons_self, fun _ => List.mem_cons_of_mem _ (ht.reboot hstate), nofun⟩
    · obtain ⟨hnew, post, pre, hout, hpost, -⟩ := setState_out e h hstate hpanic new
      refine ⟨setState_panics e h hstate hpanic new, fun hreset => ?_, fun _ => ?_⟩
      · rw [hnew.symm.trans hreset]
        exact setState_reboots e h hstate hpanic
      · rw [hnew, hout, List.foldr_append, List.foldr_cons]
        exact foldr_agrees fun a ha => (hpost a ha).2

theorem tells_move (hS : ∀ h a, S h a → Act.spoken a) {h h' : SmTaskData} (hm : Move E S e h h')
    (ht : Tells powered h) : Tells powered h' := by
  obtain ⟨hstate, hpanic, new, hout, hnew⟩ | ⟨new, -, rfl⟩ | rfl := move_cases e h hm
  · constructor
    · intro h1
      rw [hout]
      exact List.mem_append_right new (ht.panic (hpanic.symm.trans h1))
    · intro h1
      rw [hout]
      exact List.mem_append_right new (ht.reboot (hstate.symm.trans h1))
    · intro h1
      rw [hout, List.foldr_append, ht.power (hpanic.symm.trans h1), hstate]
      apply foldr_agrees
      intro a ha
      obtain hproper | hspoken := hnew a ha
      · exact hproper.2
      · exact Act.spoken_agrees (hS h a hspoken) _
  · exact tells_setState ht new
  · exact ⟨fun _ => List.mem_cons_self, fun h1 => List.mem_cons_of_mem _ (ht.reboot h1), nofun⟩

theorem tells_moves (hS : ∀ h a, S h a → Act.spoken a) {h h' : SmTaskData} (hm : Moves E S e h h')
    (ht : Tells powered h) : Tells powered h' := by
  induction hm with
  | refl => exact ht
  | tail _ hlast ih => exact tells_move hS hlast ih

end Headset

section Module

open Firmware

def moduleFlags (s : Session) : Bool × Bool := (s.ready, s.powered)

theorem moduleFlags_report (s : Session) : moduleFlags s.report = moduleFlags s := by
  unfold moduleFlags Session.report Session.latch
  dsimp only
  split_ifs <;> rfl

theorem moduleFlags_reported {s s' : Session} (hs : Reported s s') : moduleFlags s' = moduleFlags s := by
  have hreports : ∀ k (s : Session), moduleFlags (Session.report^[k] s) = moduleFlags s := by
    intro k s
    induction k with
    | zero => rfl
    | succ k ih => rw [Function.iterate_succ_apply', moduleFlags_report, ih]
  obtain ⟨k, hk⟩ := hs
  change moduleFlags s'.flags = moduleFlags s.flags
  rw [hk, hreports]

variable (w : World) (e : Firmware.Env) (h : Helmet)

theorem moduleFlags_powerOn : moduleFlags (session (Firmware.powerOn w e h)) = (h.ready, h.ready || h.powered) := by
  rw [session_powerOn]
  split
  · rename_i hskip
    change (h.ready, h.powered) = _
    obtain hready | hpowered := hskip
    · rw [Bool.eq_false_iff.mpr hready, Bool.false_or]
    · rw [hpowered, Bool.or_true]
  · rename_i hgo
    have hready : h.ready = true := not_not.mp fun hnot => hgo (.inl hnot)
    have hon := moduleFlags_report { session h with
      powered := true, scans := 1, senses := 1, adcTask := true, probeTask := true, linkTask := true }
    rw [hready, Bool.true_or]
    refine hon.trans ?_
    change (h.ready, true) = _
    rw [hready]

theorem moduleFlags_powerOff : moduleFlags (session (Firmware.powerOff w h)) = (h.ready, false) := by
  rw [session_powerOff]
  split
  · unfold Session.off Session.stopAdc
    rfl
  · rename_i hpowered
    exact congrArg _ (Bool.eq_false_iff.mpr hpowered)

theorem moduleFlags_uiRefresh (state : ℕ) : moduleFlags (session (Firmware.uiRefresh w e state h)) =
    (h.ready, uiStateIsOn state && (h.ready || h.powered)) := by
  unfold Firmware.uiRefresh
  split
  · rename_i hon
    rw [moduleFlags_powerOn, hon, Bool.true_and]
  · rename_i hoff
    rw [Bool.eq_false_iff.mpr hoff, Bool.false_and]
    split
    · exact moduleFlags_powerOff w h
    · rename_i hpowered
      exact congrArg _ (Bool.eq_false_iff.mpr hpowered)

theorem moduleFlags_inner {ev : Firmware.Event} (hev : inner ev = true) :
    moduleFlags (session (Firmware.step w h e ev)) = moduleFlags (session h) := by
  have hother : ∀ ev : Firmware.Event, ev.isOther = true →
      moduleFlags (session (Firmware.step w h e ev)) = moduleFlags (session h) :=
    fun ev hev => moduleFlags_reported (reported_step w e h hev)
  cases ev with
  | lis3dhChk enable => exact hother _ rfl
  | moreData chunks => exact hother _ rfl
  | adcResult source reading => exact hother _ rfl
  | timer m chunks =>
    cases m with
    | motionPoll =>
      cases hp : h.powered with
      | false => exact (congrArg moduleFlags (session_step_motionPoll_off w e h chunks hp)).trans rfl
      | true =>
        by_cases hn : 0 < h.pending .motionPoll
        · refine (congrArg moduleFlags (session_step_motionPoll w e h chunks hp hn)).trans ?_
          split <;> rfl
        · exact congrArg (fun h => moduleFlags (session h)) (if_neg hn)
    | _ => exact hother _ rfl
  | init | powerOn | powerOff | close | uiRefresh => exact absurd hev Bool.false_ne_true

end Module

section Runs

theorem moduleEventOf_cases (a : Act) :
    (∃ s : HeadsetState, moduleEventOf a = some (.uiRefresh s.code) ∧ ∀ p, powerAfter p a = s.on) ∨
    (moduleEventOf a = some .powerOn ∧ ∀ p, powerAfter p a = true) ∨
    (moduleEventOf a = some .powerOff ∧ ∀ p, powerAfter p a = false) ∨
    (moduleEventOf a = none ∧ ∀ p, powerAfter p a = p) := by
  cases a with
  | limbo o =>
    cases o with
    | uiRefresh s => exact .inl ⟨s, rfl, fun _ => rfl⟩
    | powerSave => exact .inr (.inr (.inl ⟨rfl, fun _ => rfl⟩))
    | _ => exact .inr (.inr (.inr ⟨rfl, fun _ => rfl⟩))
  | uiRefresh s => exact .inl ⟨s, rfl, fun _ => rfl⟩
  | modulePowerOn => exact .inr (.inl ⟨rfl, fun _ => rfl⟩)
  | modulePowerOff | modulePowerSave => exact .inr (.inr (.inl ⟨rfl, fun _ => rfl⟩))
  | _ => exact .inr (.inr (.inr ⟨rfl, fun _ => rfl⟩))

theorem uiStateIsOn_code (s : HeadsetState) : Firmware.uiStateIsOn s.code = s.on := by cases s <;> rfl

def Follows (ready powered : Bool) (h : Firmware.Helmet) : Prop :=
  moduleFlags (Firmware.session h) = (ready, ready && powered)

theorem performAct_follows (v : DeviceEnv) {ready powered : Bool} {d : Chip} (hd : Follows ready powered d.helmet)
    (a : Act) (hnow : d.halted = false) : Follows ready (powerAfter powered a) (d.performAct v a).helmet := by
  have hready : d.helmet.ready = ready := congrArg Prod.fst hd
  have hpowered : d.helmet.powered = (ready && powered) := congrArg Prod.snd hd
  have hor : (d.helmet.ready || d.helmet.powered) = ready := by
    rw [hready, hpowered]
    cases ready <;> rfl
  obtain ⟨s, hev, hp⟩ | ⟨hev, hp⟩ | ⟨hev, hp⟩ | ⟨hev, hp⟩ := moduleEventOf_cases a
  · rw [performAct_module v d a _ hev hnow, hp]
    refine (moduleFlags_uiRefresh v.world v.module d.helmet s.code).trans ?_
    rw [hor, hready, uiStateIsOn_code, Bool.and_comm]
  · rw [performAct_module v d a _ hev hnow, hp]
    refine (moduleFlags_powerOn v.world v.module d.helmet).trans ?_
    rw [hor, hready, Bool.and_true]
  · rw [performAct_module v d a _ hev hnow, hp]
    refine (moduleFlags_powerOff v.world d.helmet).trans ?_
    rw [hready, Bool.and_false]
  · rw [(performAct_aside v d a hev).helmet, hp]
    exact hd

theorem performActs_follows (v : DeviceEnv) {ready powered : Bool} (acts : List Act) {d : Chip}
    (hd : Follows ready powered d.helmet) (hrun : (acts.foldl (Chip.performAct v) d).halted = false) :
    Follows ready (acts.foldl powerAfter powered) (acts.foldl (Chip.performAct v) d).helmet := by
  induction acts generalizing d powered with
  | nil => exact hd
  | cons a acts ih =>
    rw [List.foldl_cons] at hrun ⊢
    have hnow : d.halted = false := by
      by_contra hhalted
      have hd' : d.halted = true := Bool.not_eq_false _ ▸ hhalted
      rw [performAct_halted v d a hd', performActs_halted v acts d hd', hd'] at hrun
      exact Bool.noConfusion hrun
    exact ih (performAct_follows v hd a hnow) hrun

structure Powered (ready : Bool) (d : Chip) : Prop where
  follows : Follows ready d.headset.state.on d.helmet
  calm : d.headset.panicked = false
  kept : d.headset.state ≠ .factoryReset

theorem headsetCallInner_calm (v : DeviceEnv) {f : Ambient → SmTaskData → SmTaskData}
    {ok : HeadsetMessage → Prop} (hf : Handler ok f) {d : Chip} (hcalm : d.headset.panicked = false)
    (hkept : d.headset.state ≠ .factoryReset) :
    let h := f (d.ambientOf v) { d.headset with out := [] }
    (d.headsetCallInner v f).halted = true ∨
      (h.panicked = false ∧ h.state ≠ .factoryReset ∧
        h.out.foldr (fun a p => powerAfter p a) d.headset.state.on = h.state.on) := by
  obtain ⟨E, S, e', hmoves, hS⟩ := handler_moves hf (d.ambientOf v) { d.headset with out := [] }
  have hstart : Tells d.headset.state.on { d.headset with out := [] } :=
    ⟨fun h1 => absurd (hcalm.symm.trans h1) Bool.false_ne_true, fun h1 => absurd h1 hkept, fun _ => rfl⟩
  have htells := tells_moves hS hmoves hstart
  unfold Chip.headsetCallInner
  dsimp only
  generalize f (d.ambientOf v) { d.headset with out := [] } = h at htells ⊢
  by_cases hpanic : h.panicked = true
  · exact .inl (performActs_stops v (.inl rfl) (List.mem_reverse.mpr (htells.panic hpanic)) _)
  · by_cases hreset : h.state = .factoryReset
    · exact .inl (performActs_stops v (.inr rfl) (List.mem_reverse.mpr (htells.reboot hreset)) _)
    · have hcalm : h.panicked = false := Bool.eq_false_iff.mpr hpanic
      exact .inr ⟨hcalm, hreset, htells.power hcalm⟩

theorem headsetCallInner_headset (v : DeviceEnv) (f : Ambient → SmTaskData → SmTaskData) (d : Chip) :
    (d.headsetCallInner v f).headset = { f (d.ambientOf v) { d.headset with out := [] } with out := [] } :=
  performActs_headset v _ _

theorem powered_headsetCallInner {ready : Bool} (v : DeviceEnv) {f : Ambient → SmTaskData → SmTaskData}
    {ok : HeadsetMessage → Prop} (hf : Handler ok f) {d : Chip} (hd : Powered ready d)
    (hrun : (d.headsetCallInner v f).halted = false) : Powered ready (d.headsetCallInner v f) := by
  obtain hhalted | ⟨hcalm, hkept, hpower⟩ := headsetCallInner_calm v hf hd.calm hd.kept
  · exact absurd (hrun.symm.trans hhalted) Bool.false_ne_true
  · have hheadset := headsetCallInner_headset v f d
    constructor
    · rw [hheadset]
      have hfollows := performActs_follows v (f (d.ambientOf v) { d.headset with out := [] }).out.reverse
        (d := { d with headset := { f (d.ambientOf v) { d.headset with out := [] } with out := [] } }) hd.follows hrun
      rw [List.foldl_reverse, hpower] at hfollows
      exact hfollows
    · rw [hheadset]
      exact hcalm
    · rw [hheadset]
      exact hkept

theorem powered_chipBoot (b : PowerBuild) (v : DeviceEnv) (autoPowerOn : Bool) :
    Powered v.module.i2cInit (chipBoot b v autoPowerOn) := by
  refine ⟨?_, rfl, HeadsetState.noConfusion⟩
  refine (congrArg moduleFlags (Firmware.session_init v.world v.module .boot)).trans ?_
  cases v.module.i2cInit <;> rfl

theorem powered_deviceStep {ready : Bool} {d : Chip} (ev : DeviceEnv × DeviceEvent)
    (hd : d.halted = true ∨ Powered ready d) : (deviceStep d ev).halted = true ∨ Powered ready (deviceStep d ev) := by
  refine deviceStep_rule (P := fun d => d.halted = true ∨ Powered ready d) ?_ ?_ ?_ d ev (fun _ _ _ _ => True.intro) hd
  · rintro d d' ⟨hheadset, hhelmet, hhalted⟩ (hd | ⟨hfollows, hcalm, hkept⟩)
    · exact .inl (hhalted hd)
    · exact .inr ⟨by rw [hheadset, hhelmet]; exact hfollows, by rw [hheadset]; exact hcalm,
        by rw [hheadset]; exact hkept⟩
  · intro v f d hf hd
    by_cases hhalted : (d.headsetCallInner v f).halted = true
    · exact .inl hhalted
    · obtain hd | hd := hd
      · refine absurd ?_ hhalted
        unfold Chip.headsetCallInner
        dsimp only
        rw [performActs_halted v _ _ (by exact hd)]
        exact hd
      · exact .inr (powered_headsetCallInner v hf hd (Bool.eq_false_iff.mpr hhalted))
  · rintro v ev d hev (hd | ⟨hfollows, hcalm, hkept⟩)
    · exact .inl hd
    · exact .inr ⟨(moduleFlags_inner v.world v.module d.helmet hev).trans hfollows, hcalm, hkept⟩

/-- In every run of the device that has not ended, the module is powered exactly when it was
initialised and the headset is powering on, pairing, idle or busy. -/
theorem module_powered_iff (b : PowerBuild) (v : DeviceEnv) (autoPowerOn : Bool)
    (evs : List (DeviceEnv × DeviceEvent)) (hrun : (deviceRun b v autoPowerOn evs).halted = false) :
    (deviceRun b v autoPowerOn evs).helmet.powered = true ↔
      v.module.i2cInit = true ∧ (deviceRun b v autoPowerOn evs).headset.state ∈
        [.poweringOn, .pairing, .idle, .busy] := by
  have hinv : (deviceRun b v autoPowerOn evs).halted = true ∨
      Powered v.module.i2cInit (deviceRun b v autoPowerOn evs) := by
    clear hrun
    induction evs using List.reverseRecOn with
    | nil => exact .inr (powered_chipBoot b v autoPowerOn)
    | append_singleton evs ev ih =>
      rw [deviceRun_concat]
      exact powered_deviceStep ev ih
  obtain hhalted | ⟨hfollows, -, -⟩ := hinv
  · exact absurd (hrun.symm.trans hhalted) Bool.false_ne_true
  · have hpowered : (deviceRun b v autoPowerOn evs).helmet.powered = _ := congrArg Prod.snd hfollows
    rw [hpowered, Bool.and_eq_true]
    simp [HeadsetState.on]

theorem module_powered_example :
    (deviceRun ⟨true, false⟩ plainDevice false (plainly poweredUp)).helmet.powered = true :=
  (module_powered_iff ⟨true, false⟩ plainDevice false (plainly poweredUp) (by decide)).mpr ⟨by decide, by decide⟩

end Runs

end SmartHelmet.Device
