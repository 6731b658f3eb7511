import SmartHelmet.ModulePower

namespace SmartHelmet.Device

open Headset Power

section Handlers

variable {E : HeadsetState → HeadsetState → Prop} {S : SmTaskData → Act → Prop} {e : Ambient} {h h' : SmTaskData}

def Act.dark (a : Act) : Prop := powerAfter false a = false

theorem dark_of_proper {s : HeadsetState} (hs : s.on = false) {a : Act} (ha : a.proper s) : Act.dark a := by
  have hagrees : powerAfter s.on a = s.on := ha.2
  rw [hs] at hagrees
  exact hagrees

theorem dark_setState (hoff : h.state.on = false) {new : HeadsetState} (hnew : new.on = false) :
    (headsetSetStateFull e new h).state.on = false ∧ Emits Act.dark h (headsetSetStateFull e new h) := by
  cases hpanic : h.panicked with
  | true =>
    rw [(setState_panicked e h new hpanic).1]
    have hsame : (exitState e h).state = h.state := congrArg Sm.state (exitState_limbo e h)
    exact ⟨hsame ▸ hoff, (emits_exitState e h).mono fun a ha => dark_of_proper hoff (ha h.state)⟩
  | false =>
    by_cases hstate : h.state = .factoryReset
    · rw [setState_factoryReset e h new hstate]
      have hact : Emits Act.dark h (h.act .panic) := Emits.refl.act rfl
      exact ⟨hoff, hact.trans (Emits.of_out rfl)⟩
    · obtain ⟨hset, post, pre, hout, hpost, hpre⟩ := setState_out e h hstate hpanic new
      refine ⟨by rw [hset]; exact hnew, post ++ .limbo (.uiRefresh new) :: pre, ?_, fun a ha => ?_⟩
      · rw [hout, List.append_assoc, List.cons_append]
      · obtain ha | ha := List.mem_append.mp ha
        · exact dark_of_proper hnew (hpost a ha)
        · obtain rfl | ha := List.mem_cons.mp ha
          · exact hnew
          · exact dark_of_proper hoff (hpre a ha h.state)

theorem dark_moves (hE : ∀ s s', s.on = false → E s s' → s'.on = false) (hS : ∀ h a, S h a → Act.spoken a)
    (hm : Moves E S e h h') (hoff : h.state.on = false) : h'.state.on = false ∧ Emits Act.dark h h' := by
  induction hm with
  | refl => exact ⟨hoff, Emits.refl⟩
  | @tail h1 h2 _ hlast ih =>
    obtain ⟨hoff1, hemits⟩ := ih
    obtain ⟨hstate, -, hnew⟩ | ⟨new, hedge, rfl⟩ | rfl := move_cases e h1 hlast
    · refine ⟨by rw [hstate]; exact hoff1, hemits.trans (hnew.mono fun a ha => ?_)⟩
      obtain hproper | hspoken := ha
      · exact dark_of_proper hoff1 hproper
      · obtain rfl | rfl | rfl | rfl := hS h1 a hspoken <;> rfl
    · obtain ⟨hset, hsends⟩ := dark_setState (e := e) hoff1 (hE _ _ hoff1 hedge)
      exact ⟨hset, hemits.trans hsends⟩
    · have hact : Emits Act.dark h1 (h1.act .panic) := Emits.refl.act rfl
      exact ⟨hoff1, hemits.trans (hact.trans (Emits.of_out rfl))⟩

def lights : HeadsetMessage → Bool
  | .systemStateChange .limbo .poweringOn | .systemStateChange .poweringOn .active | .internal .pairHandset => true
  | _ => false

theorem dark_edge {m : HeadsetMessage} (hm : lights m = false) {s s' : HeadsetState} (hs : s.on = false)
    (hedge : edge e m s s') : s'.on = false := by
  cases m with
  | systemStateChange old new =>
    obtain ⟨-, -, -, rfl⟩ | ⟨rfl, rfl, -⟩ | ⟨rfl, rfl, -⟩ | ⟨-, -, rfl⟩ := hedge
    · rfl
    · exact absurd hm (by decide)
    · exact absurd hm (by decide)
    · rfl
  | pairingPairCfm =>
    rw [hedge.1] at hs
    exact absurd hs (by decide)
  | topologyHandsetDisconnected =>
    rw [hedge.2.1] at hs
    exact absurd hs (by decide)
  | audioChange =>
    obtain rfl | rfl := of_decide_eq_true hedge.1 <;> exact absurd hs (by decide)
  | topologyStopCfm | shutdownPrepare =>
    rw [hedge.2]
    rfl
  | charger =>
    rw [hedge.2.2]
    rfl
  | internal m =>
    cases m with
    | pairHandset => exact absurd hm (by decide)
    | factoryReset =>
      rw [hedge.2]
      rfl
    | deleteHandsets | powerOff => exact absurd hedge not_false
  | ui | handsetConnected | handsetDisconnected | socUpdate | ancEnabled | ancDisabled | leakthrough | dfu =>
    exact absurd hedge not_false

theorem dark_handler {f : Ambient → SmTaskData → SmTaskData} (hf : Handler (fun m => lights m = false) f)
    (hoff : h.state.on = false) : (f e h).state.on = false ∧ Emits Act.dark h (f e h) := by
  cases hf with
  | message m hm =>
    exact dark_moves (fun _ _ => dark_edge hm) (fun _ _ ha => spoken_special ha) (moves_message e h m) hoff
  | timer t =>
    exact dark_moves (E := fun _ _ => False) (fun _ _ _ hedge => absurd hedge not_false)
      (fun _ _ ha => .inr (.inr (.inl ha.2.2.2.2))) (moves_timer e h t) hoff
  | stopCfm =>
    exact dark_moves (fun _ _ => dark_edge (m := .topologyStopCfm) rfl)
      (fun _ _ ha => spoken_special (m := .topologyStopCfm) ha) (moves_stopCfm e h) hoff
  | wiredConnected =>
    refine dark_moves (S := fun _ _ => False) ?_ (fun _ _ ha => absurd ha not_false) (moves_wiredConnected e h) hoff
    rintro s s' hs ⟨rfl | rfl | rfl, -⟩ <;> exact absurd hs (by decide)
  | wiredDisconnected =>
    refine dark_moves (S := fun _ _ => False) ?_ (fun _ _ ha => absurd ha not_false) (moves_wiredDisconnected e h) hoff
    rintro s s' hs ⟨rfl, -⟩
    exact absurd hs (by decide)
  | brOnlineChanged online =>
    exact dark_moves (E := fun _ _ => False) (S := fun _ _ => False) (fun _ _ _ hedge => absurd hedge not_false)
      (fun _ _ ha => absurd ha not_false) (moves_brOnlineChanged { e with brOnline := online } h online) hoff

end Handlers

section Module

variable {ready : Bool} {d : Chip} (v : DeviceEnv)

def Unlit (ready : Bool) (d : Chip) : Prop := d.headset.state.on = false ∧ Follows ready false d.helmet

theorem unlit_acts {acts : List Act} (hacts : ∀ a ∈ acts, Act.dark a) (hd : Follows ready false d.helmet) :
    Follows ready false (acts.foldl (Chip.performAct v) d).helmet := by
  induction acts generalizing d with
  | nil => exact hd
  | cons a acts ih =>
    refine ih (fun a' ha' => hacts a' (List.mem_cons_of_mem a ha')) ?_
    by_cases hhalted : d.halted = true
    · rw [performAct_halted v d a hhalted]
      exact hd
    · have hnext := performAct_follows v hd a (Bool.eq_false_iff.mpr hhalted)
      have hdark : powerAfter false a = false := hacts a List.mem_cons_self
      rw [hdark] at hnext
      exact hnext

theorem unlit_headsetCallInner {f : Ambient → SmTaskData → SmTaskData} (hf : Handler (fun m => lights m = false) f)
    (hd : Unlit ready d) : Unlit ready (d.headsetCallInner v f) := by
  obtain ⟨hoff, new, hout, hdark⟩ := dark_handler (e := d.ambientOf v) (h := { d.headset with out := [] }) hf hd.1
  constructor
  · rw [headsetCallInner_headset]
    exact hoff
  · refine unlit_acts v (fun a ha => hdark a ?_) hd.2
    rw [List.mem_reverse, hout, List.append_nil] at ha
    exact ha

theorem unlit_deviceStep {ev : DeviceEnv × DeviceEvent} (hd : Unlit ready d)
    (hok : ev.2 = .deliver → ∀ m queue, d.queue = .headset m :: queue → lights m = false) :
    Unlit ready (deviceStep d ev) := by
  refine deviceStep_rule (P := Unlit ready) ?_ (fun v f d hf hd => unlit_headsetCallInner v hf hd) ?_ d ev hok hd
  · rintro d d' ⟨hheadset, hhelmet, -⟩ ⟨hoff, hfollows⟩
    exact ⟨by rw [hheadset]; exact hoff, by rw [hhelmet]; exact hfollows⟩
  · rintro v ev d hev ⟨hoff, hfollows⟩
    exact ⟨hoff, (moduleFlags_inner v.world v.module d.helmet hev).trans hfollows⟩

theorem headsetCall_ignored {f : Ambient → SmTaskData → SmTaskData}
    (hf : f (d.ambientOf v) { d.headset with out := [] } = { d.headset with out := [] }) :
    d.headsetCall v f = { d with headset := { d.headset with out := [] } } := by
  unfold Chip.headsetCall Chip.headsetCallInner
  dsimp only
  rw [hf]
  exact if_neg (Option.some_ne_none _).symm

theorem pairHandset_ignored {queue : List DeviceMessage} (hq : d.queue = .headset (.internal .pairHandset) :: queue)
    (hidle : d.headset.state ≠ .idle) (hpaused : isA2dpStreamingAndAvrcpPaused (d.ambientOf v) = false) :
    d.deliver v = { d with queue := queue, headset := { d.headset with out := [] } } := by
  have hkeep : headsetSmHandleMessage (d.ambientOf v) (.internal .pairHandset) { d.headset with out := [] } =
      { d.headset with out := [] } := by
    refine if_neg ?_
    rw [hpaused]
    exact not_or.mpr ⟨hidle, Bool.false_ne_true⟩
  unfold Chip.deliver
  rw [hq]
  exact headsetCall_ignored v (d := { d with queue := queue }) hkeep

end Module

end SmartHelmet.Device
