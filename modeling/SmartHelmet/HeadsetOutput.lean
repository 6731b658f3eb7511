import SmartHelmet.HeadsetMoves
import SmartHelmet.LimboPowerOff

namespace SmartHelmet.Headset

def HeadsetState.on (s : HeadsetState) : Bool := decide (s = .poweringOn ∨ s = .pairing ∨ s = .idle ∨ s = .busy)

def powerAfter (powered : Bool) (a : Act) : Bool :=
  match a with
  | .limbo (.uiRefresh s) | .uiRefresh s => s.on
  | .modulePowerOn => true
  | .limbo .powerSave | .modulePowerOff | .modulePowerSave => false
  | _ => powered

def Act.agrees (s : HeadsetState) (a : Act) : Prop := powerAfter s.on a = s.on

def Act.routine : Act → Bool
  | .systemPowerOn | .systemPowerOff | .wiredController true => false
  | _ => true

theorem Act.routine_of_plain {a : Act} (ha : a.plain = true) : a.routine = true := by
  cases a with
  | systemPowerOn | systemPowerOff => exact ha
  | wiredController on =>
    cases on with
    | true => exact ha
    | false => rfl
  | _ => rfl

theorem Act.agrees_of_plain {a : Act} (ha : a.plain = true) (s : HeadsetState) : a.agrees s := by
  cases a with
  | limbo | modulePowerOn | modulePowerOff | modulePowerSave | uiRefresh => exact absurd ha Bool.false_ne_true
  | _ => rfl

section Limbo

def Obs.fits (state : HeadsetState) : Obs → Prop
  | .uiRefresh s => state = .limbo ∧ s = .limbo
  | .powerSave | .powerOffRequest => state = .limbo
  | _ => True

structure Logs (s s' : Sm) : Prop where
  state : s'.state = s.state
  log : ∃ new, s'.log = new ++ s.log ∧ ∀ o ∈ new, o.fits s.state

theorem Logs.of_fields {s s' : Sm} (hstate : s'.state = s.state) (hlog : s'.log = s.log) : Logs s s' :=
  ⟨hstate, [], hlog, fun _ ho => absurd ho List.not_mem_nil⟩

theorem Logs.refl (s : Sm) : Logs s s := Logs.of_fields rfl rfl

theorem Logs.trans {s s' s'' : Sm} (h : Logs s s') (h' : Logs s' s'') : Logs s s'' := by
  obtain ⟨new, hlog, hnew⟩ := h.log
  obtain ⟨new', hlog', hnew'⟩ := h'.log
  refine ⟨h'.state.trans h.state, new' ++ new, ?_, ?_⟩
  · rw [hlog', hlog, List.append_assoc]
  · intro o ho
    obtain ho | ho := List.mem_append.mp ho
    · exact h.state ▸ hnew' o ho
    · exact hnew o ho

theorem Logs.note {s s' : Sm} {o : Obs} (ho : o.fits s.state) (h : Logs s s') : Logs s (s'.note o) := by
  obtain ⟨new, hlog, hnew⟩ := h.log
  refine ⟨h.state, o :: new, congrArg (o :: ·) hlog, fun o' ho' => ?_⟩
  obtain heq | hmem := List.mem_cons.mp ho'
  · rw [heq]
    exact ho
  · exact hnew o' hmem

variable (e : Env) (s : Sm)

theorem logs_choice (soc : ℕ) : Logs s (headsetSmLimboChargeLedChoice soc s).2 := by
  have htest : Logs s (testDisableAtSoc soc s) := by
    unfold testDisableAtSoc
    split
    · exact Logs.note (o := .disableReasonAdd) trivial (Logs.of_fields rfl rfl)
    · exact Logs.refl s
  unfold headsetSmLimboChargeLedChoice
  dsimp only
  refine htest.trans ?_
  generalize testDisableAtSoc soc s = s
  split
  · split
    · exact Logs.note (o := .disableReasonClear) trivial (Logs.of_fields rfl rfl)
    · exact Logs.of_fields rfl rfl
  · split
    · exact Logs.of_fields rfl rfl
    · split
      · exact Logs.refl s
      · exact Logs.of_fields rfl rfl

theorem logs_logChargeVbat : Logs s (headsetSmLogChargeVbat s) := by
  unfold headsetSmLogChargeVbat headsetSmStopChargeVbatLog
  split
  · exact Logs.of_fields rfl rfl
  · split
    · exact Logs.of_fields rfl rfl
    · exact Logs.refl s

theorem logs_showLimboDisplay (hlimbo : s.state = .limbo) (choice : ℕ) : Logs s (showLimboDisplay choice s) := by
  unfold showLimboDisplay
  split
  · have hresume : Logs s (s.note .displayResume) := Logs.note trivial (Logs.refl s)
    exact (Logs.note (o := .uiRefresh .limbo) ⟨hlimbo, rfl⟩ hresume).trans (logs_logChargeVbat _)
  · have hblank : Logs s (s.note .displayBlank) := Logs.note trivial (Logs.refl s)
    exact hblank.trans (Logs.of_fields rfl rfl)

theorem logs_applyLimboChargeLed : Logs s (headsetSmApplyLimboChargeLed e s) := by
  unfold headsetSmApplyLimboChargeLed
  split
  · exact Logs.refl s
  · rename_i hlimbo
    have hlimbo : s.state = .limbo := not_not.mp hlimbo
    dsimp only
    have hreg : Logs s (if s.socRegistered then s else { s with socRegistered := e.socRegister }) := by
      split
      · exact Logs.refl s
      · exact Logs.of_fields rfl rfl
    refine hreg.trans ?_
    have hlimbo := hreg.state.trans hlimbo
    generalize (if s.socRegistered then s else { s with socRegistered := e.socRegister }) = s at hlimbo ⊢
    have hchoice := logs_choice s e.soc
    refine hchoice.trans ?_
    have hlimbo := hchoice.state.trans hlimbo
    generalize headsetSmLimboChargeLedChoice e.soc s = chosen at hlimbo ⊢
    refine (logs_showLimboDisplay chosen.2 hlimbo chosen.1).trans ?_
    generalize showLimboDisplay chosen.1 chosen.2 = shown
    have hled : Logs shown { shown with chargeLed := chosen.1 } := Logs.of_fields rfl rfl
    split
    · exact Logs.refl shown
    · refine hled.trans ?_
      split
      · exact Logs.note (o := .setPattern .limboCharging) trivial (Logs.of_fields rfl rfl)
      · split
        · exact Logs.note (o := .setPattern .limboCharged) trivial (Logs.of_fields rfl rfl)
        · split
          · exact Logs.of_fields rfl rfl
          · exact (Logs.note (o := .stopPattern) trivial (Logs.refl _)).trans (Logs.of_fields rfl rfl)

theorem logs_handleTimeoutLimbo : Logs s (headsetSmHandleTimeoutLimbo s) := by
  unfold headsetSmHandleTimeoutLimbo
  split
  · rename_i hlimbo
    split
    · exact Logs.of_fields rfl rfl
    · have hsave : Logs s (s.note .powerSave) := Logs.note hlimbo (Logs.refl s)
      exact Logs.note hlimbo hsave
  · exact Logs.refl s

theorem logs_limboCall {f : Sm → Sm} (hf : LimboCall e f) : Logs s (f s) := by
  cases hf with
  | apply => exact logs_applyLimboChargeLed e s
  | note m =>
    have hevent : Logs s { s with chargeEvent := m } := Logs.of_fields rfl rfl
    exact hevent.trans (logs_applyLimboChargeLed e _)
  | plug m => exact Logs.note (o := .charger m) trivial (Logs.of_fields rfl rfl)
  | limboTimeout =>
    simp only [step]
    split
    · have hdue : Logs s { s with limboTimers := s.limboTimers - 1 } := Logs.of_fields rfl rfl
      exact hdue.trans (logs_handleTimeoutLimbo _)
    · exact Logs.refl s
  | vbatLog =>
    simp only [step]
    split
    · have hdue : Logs s { s with vbatTimers := s.vbatTimers - 1 } := Logs.of_fields rfl rfl
      exact hdue.trans (logs_logChargeVbat _)
    · exact Logs.refl s

theorem headsetSetState_log (new : HeadsetState) :
    (headsetSetState e new s).state = new ∧
      ∃ post pre, (headsetSetState e new s).log = post ++ .uiRefresh new :: (pre ++ s.log) ∧
        (∀ o ∈ post, o.fits new) ∧ ∀ o ∈ pre, o = .stopPattern := by
  have hleft : ∃ pre, (if s.state = .limbo then headsetExitLimbo s else s).log = pre ++ s.log ∧
      ∀ o ∈ pre, o = Obs.stopPattern := by
    split
    · exact ⟨[.stopPattern], rfl, fun o ho => List.mem_singleton.mp ho⟩
    · exact ⟨[], rfl, fun o ho => absurd ho List.not_mem_nil⟩
  unfold headsetSetState
  dsimp only
  generalize (if s.state = .limbo then headsetExitLimbo s else s) = left at hleft ⊢
  obtain ⟨pre, hpre, hstop⟩ := hleft
  split
  · rename_i hnew
    subst hnew
    have hstart : Logs (Sm.note (.uiRefresh .limbo) { left with state := .limbo })
        (headsetSmStartLimboTimer (Sm.note (.uiRefresh .limbo) { left with state := .limbo })) :=
      Logs.of_fields rfl rfl
    have hlogs := hstart.trans (logs_applyLimboChargeLed e _)
    obtain ⟨post, hlog, hfits⟩ := hlogs.log
    refine ⟨hlogs.state, post, pre, ?_, hfits, hstop⟩
    rw [← hpre]
    exact hlog
  · refine ⟨rfl, [], pre, ?_, fun o ho => absurd ho List.not_mem_nil, hstop⟩
    rw [← hpre]
    rfl

end Limbo

section Emissions

def Emits (P : Act → Prop) (h h' : SmTaskData) : Prop := ∃ new, h'.out = new ++ h.out ∧ ∀ a ∈ new, P a

variable {P : Act → Prop} {h h' h'' : SmTaskData}

theorem Emits.of_out (hout : h'.out = h.out) : Emits P h h' := ⟨[], hout, fun _ ha => absurd ha List.not_mem_nil⟩

theorem Emits.refl : Emits P h h := Emits.of_out rfl

theorem Emits.trans (he : Emits P h h') (he' : Emits P h' h'') : Emits P h h'' := by
  obtain ⟨new, hout, hnew⟩ := he
  obtain ⟨new', hout', hnew'⟩ := he'
  refine ⟨new' ++ new, ?_, ?_⟩
  · rw [hout', hout, List.append_assoc]
  · intro a ha
    obtain ha | ha := List.mem_append.mp ha
    · exact hnew' a ha
    · exact hnew a ha

theorem Emits.act {a : Act} (ha : P a) (he : Emits P h h') : Emits P h (h'.act a) := by
  have hone : Emits P h' (h'.act a) := ⟨[a], rfl, fun a' ha' => List.mem_singleton.mp ha' ▸ ha⟩
  exact he.trans hone

theorem Emits.mono {Q : Act → Prop} (hPQ : ∀ a, P a → Q a) (he : Emits P h h') : Emits Q h h' := by
  obtain ⟨new, hout, hnew⟩ := he
  exact ⟨new, hout, fun a ha => hPQ a (hnew a ha)⟩

theorem limboCall_out {f : Sm → Sm} {new : List Obs} (hlog : (f h.limbo).log = new ++ h.limbo.log) :
    (h.limboCall f).out = new.map .limbo ++ h.out := by
  unfold SmTaskData.limboCall
  rw [hlog, List.length_append, Nat.add_sub_cancel, List.take_left]

def Act.proper (s : HeadsetState) (a : Act) : Prop := a.routine = true ∧ a.agrees s

theorem Act.proper_of_plain {a : Act} (s : HeadsetState) (ha : a.plain = true := by rfl) : a.proper s :=
  ⟨Act.routine_of_plain ha, Act.agrees_of_plain ha s⟩

theorem Obs.proper_of_fits {s : HeadsetState} {o : Obs} (ho : o.fits s) : (Act.limbo o).proper s := by
  refine ⟨rfl, ?_⟩
  cases o with
  | uiRefresh state =>
    obtain ⟨hs, hstate⟩ := ho
    rw [hs, hstate]
    rfl
  | powerSave =>
    have hs : s = .limbo := ho
    rw [hs]
    rfl
  | _ => rfl

end Emissions

section States

variable (e : Ambient) (h : SmTaskData)

theorem emits_limboCall {f : Sm → Sm} (hf : LimboCall e.limbo f) :
    (h.limboCall f).state = h.state ∧ Emits (Act.proper h.state) h (h.limboCall f) := by
  have hlogs := logs_limboCall e.limbo h.limbo hf
  obtain ⟨new, hlog, hfits⟩ := hlogs.log
  refine ⟨hlogs.state, new.map .limbo, limboCall_out hlog, ?_⟩
  intro a ha
  obtain ⟨o, ho, hoa⟩ := List.mem_map.mp ha
  exact hoa ▸ Obs.proper_of_fits (hfits o ho)

theorem exitState_limbo : (exitState e h).limbo = h.limbo := by
  unfold exitState headsetExitPairing headsetExitIdle headsetSMStopIdleTimer headsetExitBusy
  split
  · rfl
  · rfl
  · split <;> rfl
  all_goals rfl

theorem exitState_panicked (hstate : h.state ≠ .factoryReset) : (exitState e h).panicked = h.panicked := by
  unfold exitState headsetExitPairing headsetExitIdle headsetSMStopIdleTimer headsetExitBusy
  split
  · rfl
  · rfl
  · split <;> rfl
  · exact absurd ‹_› hstate
  all_goals rfl

theorem emits_exitState : Emits (fun a => ∀ s, Act.proper s a) h (exitState e h) := by
  unfold exitState headsetExitPairing headsetExitIdle headsetSMStopIdleTimer headsetExitBusy
  split
  · have hstop : Emits (fun a => ∀ s, Act.proper s a) h (h.act .pairStop) := Emits.refl.act fun _ => Act.proper_of_plain _
    have hclear : Emits (fun a => ∀ s, Act.proper s a) h { h.act .pairStop with userPairing := false } :=
      hstop.trans (Emits.of_out rfl)
    exact hclear.act fun _ => Act.proper_of_plain _
  · have hstopped : Emits (fun a => ∀ s, Act.proper s a) h { h with idleTimers := 0 } := .of_out rfl
    exact hstopped.act fun _ => Act.proper_of_plain _
  · split
    · exact Emits.refl
    · exact Emits.refl.act fun _ => Act.proper_of_plain _
  · have hpanic : Emits (fun a => ∀ s, Act.proper s a) h (h.act .panic) := Emits.refl.act fun _ => ⟨rfl, rfl⟩
    exact hpanic.trans (Emits.of_out rfl)
  all_goals exact Emits.refl

theorem startIdleTimerIfNeeded_out : (startIdleTimerIfNeeded e h).out = h.out := by
  unfold startIdleTimerIfNeeded headsetSMStartIdleTimer
  split_ifs <;> rfl

theorem startIdleTimerIfNeeded_limbo : (startIdleTimerIfNeeded e h).limbo = h.limbo := by
  unfold startIdleTimerIfNeeded headsetSMStartIdleTimer
  split_ifs <;> rfl

theorem emits_enterLimboRest (s : HeadsetState) : Emits (Act.proper s) h (headsetEnterLimboRest e h) := by
  have hdfu : Emits (Act.proper s) h (headsetCheckDfu e h) := by
    unfold headsetCheckDfu
    split
    · have hrestart : Emits (Act.proper s) h
          (if e.rebootReason = .dfuReset then h.act .restartReconnectionTimer else h) := by
        split
        · exact Emits.refl.act (Act.proper_of_plain s)
        · exact Emits.refl
      have hinject := hrestart.act (a := .injectPowerOn true) (Act.proper_of_plain s)
      dsimp only
      split
      · exact hinject.act (Act.proper_of_plain s)
      · exact hinject
    · exact Emits.refl
  unfold headsetEnterLimboRest
  dsimp only
  generalize headsetCheckDfu e h = dfu at hdfu ⊢
  have hcommit : Emits (Act.proper s) h (if e.silentCommit then dfu.act .deviceNotInUse else dfu) := by
    split
    · exact hdfu.act (Act.proper_of_plain s)
    · exact hdfu
  generalize (if e.silentCommit then dfu.act .deviceNotInUse else dfu) = commit at hcommit ⊢
  split
  · have hclear : Emits (Act.proper s) h { commit with autoPowerOn := false } := hcommit.trans (Emits.of_out rfl)
    exact hclear.act (Act.proper_of_plain s)
  · exact hcommit

theorem emits_enterState (new : HeadsetState) : Emits (Act.proper new) h (enterState e new h) := by
  cases new with
  | null => exact (Emits.refl.act (a := .panic) (⟨rfl, rfl⟩ : Act.proper .null .panic)).trans (Emits.of_out rfl)
  | factoryReset =>
    have hdelete : Emits (Act.proper .factoryReset) h { h with linkTimers := h.linkTimers - 1 } := Emits.of_out rfl
    exact ((hdelete.act (a := .clearPsStore) ⟨rfl, rfl⟩).act (a := .deleteAccountKeys) ⟨rfl, rfl⟩).act
      (a := .reboot) ⟨rfl, rfl⟩
  | limbo => exact emits_enterLimboRest e h .limbo
  | poweringOn => exact Emits.refl.act ⟨rfl, rfl⟩
  | pairing =>
    change Emits _ h (SmTaskData.act (.connectable true)
      (if h.userPairing then h.act (.prohibitHandsetConnection true) else h.act (.pair false)))
    refine Emits.act ⟨rfl, rfl⟩ ?_
    split
    · exact Emits.refl.act ⟨rfl, rfl⟩
    · exact Emits.refl.act ⟨rfl, rfl⟩
  | idle => exact Emits.act ⟨rfl, rfl⟩ (Emits.of_out (startIdleTimerIfNeeded_out e h))
  | busy =>
    change Emits _ h (if isWiredAudioActive e then (h.act (.wiredController false)).act .topologyStop else h)
    split
    · exact (Emits.refl.act (a := .wiredController false) ⟨rfl, rfl⟩).act ⟨rfl, rfl⟩
    · exact Emits.refl
  | terminating =>
    change Emits _ h (SmTaskData.act .shutdownPrepareResponse (SmTaskData.act (.wiredMonitoring false)
      (if e.handsetAddrKnown ∧ e.handsetAddrConnected then h.act .closeAcl else h)))
    refine Emits.act ⟨rfl, rfl⟩ (Emits.act ⟨rfl, rfl⟩ ?_)
    split
    · exact Emits.refl.act ⟨rfl, rfl⟩
    · exact Emits.refl
  | poweringOff => exact (Emits.refl.act (a := .modulePowerOff) ⟨rfl, rfl⟩).act ⟨rfl, rfl⟩

theorem enterLimboRest_limbo : (headsetEnterLimboRest e h).limbo = h.limbo := by
  unfold headsetEnterLimboRest headsetCheckDfu
  dsimp only
  split_ifs <;> rfl

theorem enterState_limbo (new : HeadsetState) : (enterState e new h).limbo = h.limbo := by
  cases new with
  | limbo => exact enterLimboRest_limbo e h
  | pairing =>
    change (if h.userPairing then h.act (.prohibitHandsetConnection true) else h.act (.pair false)).limbo = h.limbo
    split <;> rfl
  | idle => exact startIdleTimerIfNeeded_limbo e h
  | busy =>
    change (if isWiredAudioActive e then (h.act (.wiredController false)).act .topologyStop else h).limbo = h.limbo
    split <;> rfl
  | terminating =>
    change (if e.handsetAddrKnown ∧ e.handsetAddrConnected then h.act .closeAcl else h).limbo = h.limbo
    split <;> rfl
  | null | factoryReset | poweringOn | poweringOff => rfl

theorem enterState_panicked {new : HeadsetState} (hnew : new ≠ .null) :
    (enterState e new h).panicked = h.panicked := by
  cases new with
  | null => exact absurd rfl hnew
  | limbo =>
    change (headsetEnterLimboRest e h).panicked = h.panicked
    unfold headsetEnterLimboRest headsetCheckDfu
    dsimp only
    split_ifs <;> rfl
  | pairing =>
    change (if h.userPairing then h.act (.prohibitHandsetConnection true) else h.act (.pair false)).panicked = _
    split <;> rfl
  | idle =>
    change (startIdleTimerIfNeeded e h).panicked = h.panicked
    unfold startIdleTimerIfNeeded headsetSMStartIdleTimer
    split_ifs <;> rfl
  | busy =>
    change (if isWiredAudioActive e then (h.act (.wiredController false)).act .topologyStop else h).panicked = _
    split <;> rfl
  | terminating =>
    change (if e.handsetAddrKnown ∧ e.handsetAddrConnected then h.act .closeAcl else h).panicked = h.panicked
    split <;> rfl
  | factoryReset | poweringOn | poweringOff => rfl

section Leaving

variable (hstate : h.state ≠ .factoryReset) (hpanic : h.panicked = false)
include hstate hpanic

theorem setState_eq (new : HeadsetState) : headsetSetStateFull e new h =
    (enterState e new ((exitState e h).limboCall (headsetSetState e.limbo new))).act
      (.contextChange (headsetSmGetApplicationCurrentContext e new)) := by
  have hkeep : (exitState e h).panicked = false := (exitState_panicked e h hstate).trans hpanic
  unfold headsetSetStateFull
  dsimp only
  exact if_neg (by rw [hkeep]; exact Bool.false_ne_true)

theorem setState_out (new : HeadsetState) :
    (headsetSetStateFull e new h).state = new ∧
      ∃ post pre, (headsetSetStateFull e new h).out = post ++ .limbo (.uiRefresh new) :: (pre ++ h.out) ∧
        (∀ a ∈ post, a.proper new) ∧ ∀ a ∈ pre, ∀ s, a.proper s := by
  obtain ⟨left, hleft, hleftProper⟩ := emits_exitState e h
  rw [setState_eq e h hstate hpanic]
  generalize exitState e h = exited at hleft ⊢
  obtain ⟨hset, later, earlier, hlog, hfits, hstop⟩ := headsetSetState_log e.limbo exited.limbo new
  have hcall : (exited.limboCall (headsetSetState e.limbo new)).out =
      (later ++ .uiRefresh new :: earlier).map .limbo ++ exited.out := by
    apply limboCall_out
    rw [hlog, List.append_assoc, List.cons_append]
  have hcallState : (exited.limboCall (headsetSetState e.limbo new)).limbo.state = new := hset
  generalize exited.limboCall (headsetSetState e.limbo new) = called at hcall hcallState ⊢
  obtain ⟨entered, hentered, hproper⟩ := emits_enterState e called new
  constructor
  · change (enterState e new called).limbo.state = new
    rw [enterState_limbo]
    exact hcallState
  · refine ⟨.contextChange (headsetSmGetApplicationCurrentContext e new) :: (entered ++ later.map .limbo),
      earlier.map .limbo ++ left, ?_, ?_, ?_⟩
    · change _ :: (enterState e new called).out = _
      rw [hentered, hcall, hleft, List.map_append, List.map_cons]
      simp only [List.cons_append, List.append_assoc]
    · intro a ha
      obtain rfl | ha := List.mem_cons.mp ha
      · exact Act.proper_of_plain new
      · obtain ha | ha := List.mem_append.mp ha
        · exact hproper a ha
        · obtain ⟨o, ho, rfl⟩ := List.mem_map.mp ha
          exact Obs.proper_of_fits (hfits o ho)
    · intro a ha
      obtain ha | ha := List.mem_append.mp ha
      · obtain ⟨o, ho, rfl⟩ := List.mem_map.mp ha
        rw [hstop o ho]
        exact fun _ => ⟨rfl, rfl⟩
      · exact hleftProper a ha

theorem setState_panics (new : HeadsetState) (hnow : (headsetSetStateFull e new h).panicked = true) :
    .panic ∈ (headsetSetStateFull e new h).out := by
  rw [setState_eq e h hstate hpanic] at hnow ⊢
  by_cases hnew : new = .null
  · subst hnew
    exact List.mem_cons_of_mem _ List.mem_cons_self
  · have hkeep : ((enterState e new ((exitState e h).limboCall (headsetSetState e.limbo new))).act
        (.contextChange (headsetSmGetApplicationCurrentContext e new))).panicked = (exitState e h).panicked :=
      enterState_panicked e _ hnew
    rw [hkeep, exitState_panicked e h hstate, hpanic] at hnow
    exact absurd hnow Bool.false_ne_true

theorem setState_reboots : .reboot ∈ (headsetSetStateFull e .factoryReset h).out := by
  rw [setState_eq e h hstate hpanic]
  exact List.mem_cons_of_mem _ List.mem_cons_self

end Leaving

theorem setState_factoryReset (new : HeadsetState) (hstate : h.state = .factoryReset) :
    headsetSetStateFull e new h = { h.act .panic with panicked := true } := by
  unfold headsetSetStateFull exitState
  simp only [hstate]
  rfl

theorem setState_panicked (new : HeadsetState) (hpanic : h.panicked = true) :
    headsetSetStateFull e new h = exitState e h ∧ (exitState e h).panicked = true := by
  have hkeep : (exitState e h).panicked = true := by
    by_cases hstate : h.state = .factoryReset
    · unfold exitState
      simp only [hstate]
    · exact (exitState_panicked e h hstate).trans hpanic
  unfold headsetSetStateFull
  dsimp only
  exact ⟨if_pos hkeep, hkeep⟩

theorem move_cases {E : HeadsetState → HeadsetState → Prop} {S : SmTaskData → Act → Prop} {h' : SmTaskData}
    (hm : Move E S e h h') :
    (h'.state = h.state ∧ h'.panicked = h.panicked ∧ Emits (fun a => a.proper h.state ∨ S h a) h h') ∨
    (∃ new, E h.state new ∧ h' = headsetSetStateFull e new h) ∨ h' = { h.act .panic with panicked := true } := by
  cases hm with
  | act a ha =>
    refine .inl ⟨rfl, rfl, Emits.refl.act ?_⟩
    exact ha.imp (fun hplain => Act.proper_of_plain h.state hplain) id
  | setState new hedge => exact .inr (.inl ⟨new, hedge, rfl⟩)
  | limbo hf =>
    obtain ⟨hstate, hemits⟩ := emits_limboCall e h hf
    exact .inl ⟨hstate, rfl, hemits.mono fun a ha => .inl ha⟩
  | refresh hidle =>
    refine .inl ⟨rfl, rfl, Emits.refl.act (.inl ⟨rfl, ?_⟩)⟩
    rw [hidle]
    rfl
  | startIdle =>
    refine .inl ⟨congrArg Sm.state (startIdleTimerIfNeeded_limbo e h), ?_,
      Emits.of_out (startIdleTimerIfNeeded_out e h)⟩
    unfold startIdleTimerIfNeeded headsetSMStartIdleTimer
    split_ifs <;> rfl
  | panic => exact .inr (.inr rfl)
  | stopIdle | consumeIdle | rearmIdle | pairing | links => exact .inl ⟨rfl, rfl, Emits.of_out rfl⟩

theorem setState_state (new : HeadsetState) (hnow : (headsetSetStateFull e new h).panicked = false) :
    (headsetSetStateFull e new h).state = new := by
  cases hpanic : h.panicked with
  | true =>
    obtain ⟨hset, hkeep⟩ := setState_panicked e h new hpanic
    rw [hset, hkeep] at hnow
    exact Bool.noConfusion hnow
  | false =>
    by_cases hstate : h.state = .factoryReset
    · rw [setState_factoryReset e h new hstate] at hnow
      exact Bool.noConfusion hnow
    · exact (setState_out e h hstate hpanic new).1

section Runs

variable {E : HeadsetState → HeadsetState → Prop} {S : SmTaskData → Act → Prop} {h' : SmTaskData}

theorem moves_path (hm : Moves E S e h h') :
    Relation.ReflTransGen (fun s s' => E s s' ∧ s ≠ .factoryReset) h.state h'.state := by
  induction hm with
  | refl => exact .refl
  | @tail h1 h2 _ hlast ih =>
    obtain ⟨hstate, -, -⟩ | ⟨new, hedge, rfl⟩ | rfl := move_cases e h1 hlast
    · rw [hstate]
      exact ih
    · by_cases hreset : h1.state = .factoryReset
      · rw [setState_factoryReset e h1 new hreset]
        exact ih
      · cases hpanic : h1.panicked with
        | true =>
          rw [(setState_panicked e h1 new hpanic).1]
          have hsame : (exitState e h1).state = h1.state := congrArg Sm.state (exitState_limbo e h1)
          rw [hsame]
          exact ih
        | false =>
          rw [(setState_out e h1 hreset hpanic new).1]
          exact ih.tail ⟨hedge, hreset⟩
    · exact ih

theorem emits_setState (new : HeadsetState) :
    Emits (fun a => a.routine = true) h (headsetSetStateFull e new h) := by
  cases hpanic : h.panicked with
  | true =>
    rw [(setState_panicked e h new hpanic).1]
    exact (emits_exitState e h).mono fun a ha => (ha h.state).1
  | false =>
    by_cases hstate : h.state = .factoryReset
    · rw [setState_factoryReset e h new hstate]
      have hact : Emits (fun a => a.routine = true) h (h.act .panic) := Emits.refl.act rfl
      exact hact.trans (Emits.of_out rfl)
    · obtain ⟨-, post, pre, hout, hpost, hpre⟩ := setState_out e h hstate hpanic new
      refine ⟨post ++ .limbo (.uiRefresh new) :: pre, ?_, ?_⟩
      · rw [hout, List.append_assoc, List.cons_append]
      · intro a ha
        obtain ha | ha := List.mem_append.mp ha
        · exact (hpost a ha).1
        · obtain rfl | ha := List.mem_cons.mp ha
          · rfl
          · exact (hpre a ha h.state).1

theorem emits_moves (hm : Moves E S e h h') : Emits (fun a => a.routine = true ∨ ∃ h'', S h'' a) h h' := by
  induction hm with
  | refl => exact Emits.refl
  | @tail h1 h2 _ hlast ih =>
    refine ih.trans ?_
    obtain ⟨-, -, hemits⟩ | ⟨new, -, rfl⟩ | rfl := move_cases e h1 hlast
    · exact hemits.mono fun a ha => ha.imp And.left fun hs => ⟨h1, hs⟩
    · exact (emits_setState e h1 new).mono fun a ha => .inl ha
    · have hact : Emits (fun a => a.routine = true ∨ ∃ h'', S h'' a) h1 (h1.act .panic) := Emits.refl.act (.inl rfl)
      exact hact.trans (Emits.of_out rfl)

end Runs

end States

end SmartHelmet.Headset
