import SmartHelmet.LimboCharging

namespace SmartHelmet.Headset

def lastCharger : List Obs → ChargerMessage
  | [] => .detached
  | .charger m :: _ => m
  | _ :: log => lastCharger log

def requestedSince : List Obs → Bool
  | [] => false
  | .charger _ :: _ => false
  | .powerOffRequest :: _ => true
  | _ :: log => requestedSince log

/-- In limbo with the cable out, the timer is pending or power-off was requested since. -/
def PowersOff (s : Sm) : Prop :=
  s.state = .limbo → lastCharger s.log = .detached → 0 < s.limboTimers ∨ requestedSince s.log = true

/-- The cable is removed in limbo while no charge LED is shown and no limbo timer is pending. -/
def Stranded (s : Sm) (ev : Env × Event) : Prop :=
  ev.2 = .charger .detached ∧ s.state = .limbo ∧ s.chargeLed = 0 ∧ s.limboTimers = 0

def Obs.quiet : Obs → Bool
  | .charger _ => false
  | .powerOffRequest => false
  | _ => true

theorem append_quiet {α : Type} {f : List Obs → α} (hskip : ∀ o log, o.quiet = true → f (o :: log) = f log)
    {new : List Obs} (hnew : ∀ o ∈ new, o.quiet = true) (log : List Obs) : f (new ++ log) = f log := by
  induction new with
  | nil => rfl
  | cons o new ih =>
    have htail := ih fun o' ho' => hnew o' (List.mem_cons_of_mem o ho')
    rw [List.cons_append, hskip o _ (hnew o List.mem_cons_self), htail]

theorem lastCharger_quiet (o : Obs) (log : List Obs) (ho : o.quiet = true) : lastCharger (o :: log) = lastCharger log := by
  cases o with
  | charger | powerOffRequest => exact absurd ho Bool.false_ne_true
  | _ => rfl

theorem requestedSince_quiet (o : Obs) (log : List Obs) (ho : o.quiet = true) :
    requestedSince (o :: log) = requestedSince log := by
  cases o with
  | charger | powerOffRequest => exact absurd ho Bool.false_ne_true
  | _ => rfl

structure Quiet (s s' : Sm) : Prop where
  state : s'.state = s.state
  connected : s'.connected = s.connected
  log : ∃ new, s'.log = new ++ s.log ∧ ∀ o ∈ new, o.quiet = true

theorem Quiet.refl (s : Sm) : Quiet s s := ⟨rfl, rfl, [], rfl, fun _ ho => absurd ho List.not_mem_nil⟩

theorem Quiet.trans {s s' s'' : Sm} (h : Quiet s s') (h' : Quiet s' s'') : Quiet s s'' := by
  obtain ⟨new, hlog, hnew⟩ := h.log
  obtain ⟨new', hlog', hnew'⟩ := h'.log
  refine ⟨h'.state.trans h.state, h'.connected.trans h.connected, new' ++ new, ?_, ?_⟩
  · rw [hlog', hlog, List.append_assoc]
  · intro o ho
    obtain ho | ho := List.mem_append.mp ho
    · exact hnew' o ho
    · exact hnew o ho

theorem Quiet.note {s s' : Sm} {o : Obs} (ho : o.quiet = true) (h : Quiet s s') : Quiet s (s'.note o) := by
  obtain ⟨new, hlog, hnew⟩ := h.log
  refine ⟨h.state, h.connected, o :: new, congrArg (o :: ·) hlog, fun o' ho' => ?_⟩
  obtain heq | hmem := List.mem_cons.mp ho'
  · rw [heq]
    exact ho
  · exact hnew o' hmem

theorem Quiet.of_fields {s s' : Sm} (hstate : s'.state = s.state) (hconn : s'.connected = s.connected)
    (hlog : s'.log = s.log) : Quiet s s' :=
  ⟨hstate, hconn, [], hlog, fun _ ho => absurd ho List.not_mem_nil⟩

theorem Quiet.lastCharger {s s' : Sm} (h : Quiet s s') :
    Headset.lastCharger s'.log = Headset.lastCharger s.log := by
  obtain ⟨new, hlog, hnew⟩ := h.log
  rw [hlog, append_quiet lastCharger_quiet hnew]

theorem Quiet.requestedSince {s s' : Sm} (h : Quiet s s') :
    Headset.requestedSince s'.log = Headset.requestedSince s.log := by
  obtain ⟨new, hlog, hnew⟩ := h.log
  rw [hlog, append_quiet requestedSince_quiet hnew]

section Calls

variable (e : Env) (s : Sm)

theorem quiet_testDisableAtSoc (soc : ℕ) : Quiet s (testDisableAtSoc soc s) := by
  unfold testDisableAtSoc
  split
  · exact Quiet.note rfl (Quiet.of_fields rfl rfl rfl)
  · exact Quiet.refl s

theorem quiet_choice (soc : ℕ) : Quiet s (headsetSmLimboChargeLedChoice soc s).2 := by
  unfold headsetSmLimboChargeLedChoice
  dsimp only
  refine (quiet_testDisableAtSoc s soc).trans ?_
  generalize testDisableAtSoc soc s = s
  split
  · split
    · exact Quiet.note rfl (Quiet.of_fields rfl rfl rfl)
    · exact Quiet.of_fields rfl rfl rfl
  · split
    · exact Quiet.of_fields rfl rfl rfl
    · split
      · exact Quiet.refl s
      · exact Quiet.of_fields rfl rfl rfl

theorem quiet_logChargeVbat : Quiet s (headsetSmLogChargeVbat s) := by
  unfold headsetSmLogChargeVbat headsetSmStopChargeVbatLog
  split
  · exact Quiet.of_fields rfl rfl rfl
  · split
    · exact Quiet.of_fields rfl rfl rfl
    · exact Quiet.refl s

theorem quiet_showLimboDisplay (choice : ℕ) : Quiet s (showLimboDisplay choice s) := by
  unfold showLimboDisplay
  split
  · exact (Quiet.note rfl (Quiet.note rfl (Quiet.refl s))).trans (quiet_logChargeVbat _)
  · exact (Quiet.note rfl (Quiet.refl s)).trans (Quiet.of_fields rfl rfl rfl)

theorem quiet_startLimboTimer : Quiet s (headsetSmStartLimboTimer s) := Quiet.of_fields rfl rfl rfl

theorem quiet_stopLimboTimer : Quiet s (headsetSmStopLimboTimer s) := Quiet.of_fields rfl rfl rfl

theorem quiet_applyLimboChargeLed : Quiet s (headsetSmApplyLimboChargeLed e s) := by
  unfold headsetSmApplyLimboChargeLed
  split
  · exact Quiet.refl s
  · dsimp only
    have hreg : Quiet s (if s.socRegistered then s else { s with socRegistered := e.socRegister }) := by
      split
      · exact Quiet.refl s
      · exact Quiet.of_fields rfl rfl rfl
    refine hreg.trans ?_
    generalize (if s.socRegistered then s else { s with socRegistered := e.socRegister }) = s
    refine (quiet_choice s e.soc).trans ?_
    generalize headsetSmLimboChargeLedChoice e.soc s = chosen
    refine (quiet_showLimboDisplay chosen.2 chosen.1).trans ?_
    generalize showLimboDisplay chosen.1 chosen.2 = shown
    have hled : Quiet shown { shown with chargeLed := chosen.1 } := Quiet.of_fields rfl rfl rfl
    split
    · exact Quiet.refl shown
    · refine hled.trans ?_
      split
      · exact Quiet.note rfl (quiet_stopLimboTimer _)
      · split
        · exact Quiet.note rfl (quiet_stopLimboTimer _)
        · split
          · exact quiet_stopLimboTimer _
          · exact (Quiet.note rfl (Quiet.refl _)).trans (quiet_startLimboTimer _)

end Calls

theorem apply_detached (e : Env) {s : Sm} (hlimbo : s.state = .limbo) (hevent : s.chargeEvent = .detached)
    (hconn : s.connected = false) :
    let s' := headsetSmApplyLimboChargeLed e s
    s'.chargeEvent = .detached ∧ s'.chargeLed = 0 ∧
      s'.limboTimers = if s.chargeLed = 0 then s.limboTimers else 1 := by
  obtain ⟨state, connected, chargeEvent, chargeLed, chargeHigh, socRegistered, limboTimers, vbatTimers, log⟩ := s
  cases hlimbo
  cases hevent
  cases hconn
  by_cases hled : chargeLed = 0
  · cases socRegistered <;>
      simp [headsetSmApplyLimboChargeLed, headsetSmLimboChargeLedChoice, testDisableAtSoc,
        headsetSmChargeCompleted, showLimboDisplay, ChargerMessage.cableIn, headsetSmStopChargeVbatLog, Sm.note, hled]
  · have hled' : ¬ 0 = chargeLed := fun h => hled h.symm
    cases socRegistered <;>
      simp [headsetSmApplyLimboChargeLed, headsetSmLimboChargeLedChoice, testDisableAtSoc,
        headsetSmChargeCompleted, showLimboDisplay, ChargerMessage.cableIn, headsetSmStopChargeVbatLog, Sm.note,
        headsetSmStartLimboTimer, hled, hled']

theorem apply_outside (e : Env) {s : Sm} (hstate : s.state ≠ .limbo) : headsetSmApplyLimboChargeLed e s = s :=
  if_pos hstate

structure Kept (s : Sm) : Prop where
  event : lastCharger s.log = .detached → s.chargeEvent = .detached ∧ s.connected = false
  dark : s.state ≠ .limbo ∨ lastCharger s.log = .detached → s.chargeLed = 0

theorem kept_apply (e : Env) {s : Sm}
    (hevent : lastCharger s.log = .detached → s.chargeEvent = .detached ∧ s.connected = false)
    (hdark : s.state ≠ .limbo → s.chargeLed = 0) : Kept (headsetSmApplyLimboChargeLed e s) := by
  have hquiet := quiet_applyLimboChargeLed e s
  by_cases hlimbo : s.state = .limbo
  · by_cases hlast : lastCharger s.log = .detached
    · obtain ⟨hev, hconn⟩ := hevent hlast
      obtain ⟨hev', hled', -⟩ := apply_detached e hlimbo hev hconn
      exact ⟨fun _ => ⟨hev', hquiet.connected.trans hconn⟩, fun _ => hled'⟩
    · constructor
      · intro h
        exact absurd (hquiet.lastCharger.symm.trans h) hlast
      · rintro (h | h)
        · exact absurd (hquiet.state.trans hlimbo) h
        · exact absurd (hquiet.lastCharger.symm.trans h) hlast
  · rw [apply_outside e hlimbo]
    exact ⟨hevent, fun _ => hdark hlimbo⟩

section Transitions

variable (e : Env) {s : Sm}

theorem kept_entered (hs : Kept s) (new : HeadsetState) :
    let left := if s.state = .limbo then headsetExitLimbo s else s
    let entered := Sm.note (.uiRefresh new) { left with state := new }
    lastCharger entered.log = lastCharger s.log ∧ entered.chargeEvent = s.chargeEvent ∧
      entered.connected = s.connected ∧ entered.chargeLed = 0 := by
  dsimp only
  split
  · exact ⟨rfl, rfl, rfl, rfl⟩
  · next hstate => exact ⟨rfl, rfl, rfl, hs.dark (Or.inl hstate)⟩

theorem kept_setState (hs : Kept s) (new : HeadsetState) : Kept (headsetSetState e new s) := by
  obtain ⟨hlast, hevent, hconn, hled⟩ := kept_entered hs new
  unfold headsetSetState
  dsimp only at hlast hevent hconn hled ⊢
  generalize (if s.state = .limbo then headsetExitLimbo s else s) = left at hlast hevent hconn hled ⊢
  generalize Sm.note (.uiRefresh new) { left with state := new } = entered at hlast hevent hconn hled ⊢
  have hagree : lastCharger entered.log = .detached → entered.chargeEvent = .detached ∧ entered.connected = false := by
    rw [hlast, hevent, hconn]
    exact hs.event
  split
  · exact kept_apply e hagree fun _ => hled
  · exact ⟨hagree, fun _ => hled⟩

theorem lastCharger_setState (new : HeadsetState) :
    lastCharger (headsetSetState e new s).log = lastCharger s.log := by
  have hleft : lastCharger (if s.state = .limbo then headsetExitLimbo s else s).log = lastCharger s.log := by
    split <;> rfl
  unfold headsetSetState
  dsimp only
  generalize (if s.state = .limbo then headsetExitLimbo s else s) = left at hleft ⊢
  split
  · exact (quiet_applyLimboChargeLed e _).lastCharger.trans hleft
  · exact hleft

theorem kept_leavePoweringOff (hs : Kept s) : Kept (leavePoweringOff e s) ∧
    lastCharger (leavePoweringOff e s).log = lastCharger s.log := by
  unfold leavePoweringOff
  split
  · exact ⟨kept_setState e hs .limbo, lastCharger_setState e .limbo⟩
  · exact ⟨hs, rfl⟩

theorem kept_noteChargerEvent {m : ChargerMessage} (hlast : lastCharger s.log = m)
    (hconn : m = .detached → s.connected = false) (hdark : s.state ≠ .limbo → s.chargeLed = 0) :
    Kept (headsetSmNoteChargerEvent e m s) ∧ lastCharger (headsetSmNoteChargerEvent e m s).log = m := by
  constructor
  · apply kept_apply e
    · intro h
      have hm : m = .detached := hlast.symm.trans h
      exact ⟨hm, hconn hm⟩
    · exact hdark
  · exact (quiet_applyLimboChargeLed e _).lastCharger.trans hlast

theorem kept_handleCharger (hs : Kept s) (m : ChargerMessage) :
    Kept (step s (e, .charger m)) ∧ lastCharger (step s (e, .charger m)).log = m := by
  let told : Sm := Sm.note (.charger m) { s with connected := plug m s.connected }
  have hdark : told.state ≠ .limbo → told.chargeLed = 0 := fun h => hs.dark (Or.inl h)
  have hplain (hconn : m = .detached → told.connected = false) :=
    kept_noteChargerEvent e (s := told) (m := m) rfl hconn hdark
  have hleft (hm : m ≠ .detached) : Kept (headsetSmNoteChargerEvent e m (leavePoweringOff e told)) ∧
      lastCharger (headsetSmNoteChargerEvent e m (leavePoweringOff e told)).log = m := by
    have htold : Kept told := by
      refine ⟨fun h => absurd h hm, ?_⟩
      rintro (h | h)
      · exact hdark h
      · exact absurd h hm
    obtain ⟨hkept, hlast⟩ := kept_leavePoweringOff e htold
    exact kept_noteChargerEvent e hlast (fun h => absurd h hm) fun h => hkept.dark (Or.inl h)
  cases m with
  | detached => exact hplain fun _ => rfl
  | completed | disabled => exact hplain ChargerMessage.noConfusion
  | attached | chargingOk | chargingLow => exact hleft ChargerMessage.noConfusion

end Transitions

theorem fields_logChargeVbat (s : Sm) : (headsetSmLogChargeVbat s).chargeEvent = s.chargeEvent ∧
    (headsetSmLogChargeVbat s).chargeLed = s.chargeLed ∧
    (headsetSmLogChargeVbat s).limboTimers = s.limboTimers := by
  unfold headsetSmLogChargeVbat headsetSmStopChargeVbatLog
  split_ifs <;> exact ⟨rfl, rfl, rfl⟩

theorem cable_out {s : Sm} (hs : Kept s) (hlast : lastCharger s.log = .detached) :
    ¬ (s.connected = true ∨ s.chargeEvent.cableIn = true) := by
  obtain ⟨hev, hconn⟩ := hs.event hlast
  rw [hev, hconn]
  decide

theorem timeout_keeps (s : Sm) : (headsetSmHandleTimeoutLimbo s).state = s.state ∧
    lastCharger (headsetSmHandleTimeoutLimbo s).log = lastCharger s.log := by
  unfold headsetSmHandleTimeoutLimbo headsetSmStopLimboTimer
  split_ifs <;> exact ⟨rfl, rfl⟩

theorem timeout_requests {s : Sm} (hs : Kept s) (hlimbo : s.state = .limbo) (hlast : lastCharger s.log = .detached) :
    requestedSince (headsetSmHandleTimeoutLimbo s).log = true := by
  unfold headsetSmHandleTimeoutLimbo
  rw [if_pos hlimbo, if_neg (cable_out hs hlast)]
  rfl

theorem setState_limbo_timers (e : Env) {s : Sm} (hs : Kept s) (hlast : lastCharger s.log = .detached) :
    0 < (headsetSetState e .limbo s).limboTimers := by
  obtain ⟨-, hevent, hconn, hled⟩ := kept_entered hs .limbo
  obtain ⟨hev, hout⟩ := hs.event hlast
  unfold headsetSetState
  dsimp only at hevent hconn hled ⊢
  generalize (if s.state = .limbo then headsetExitLimbo s else s) = left at hevent hconn hled ⊢
  rw [if_pos rfl]
  obtain ⟨-, -, htimers⟩ := apply_detached e
    (s := headsetSmStartLimboTimer (Sm.note (.uiRefresh .limbo) { left with state := .limbo }))
    rfl (hevent.trans hev) (hconn.trans hout)
  unfold headsetEnterLimbo
  rw [htimers]
  split
  · exact Nat.one_pos
  · exact Nat.one_pos

theorem kept_step {s : Sm} (hs : Kept s) (ev : Env × Event) : Kept (step s ev) := by
  obtain ⟨e, ev⟩ := ev
  cases ev with
  | charger m => exact (kept_handleCharger e hs m).1
  | socUpdate => exact kept_apply e hs.event fun h => hs.dark (Or.inl h)
  | setState new => exact kept_setState e hs new
  | limboTimeout =>
    simp only [step]
    split
    · unfold headsetSmHandleTimeoutLimbo
      split
      · split
        · exact ⟨hs.event, hs.dark⟩
        · exact ⟨hs.event, hs.dark⟩
      · exact ⟨hs.event, hs.dark⟩
    · exact hs
  | vbatLog =>
    simp only [step]
    split
    · have hquiet := quiet_logChargeVbat { s with vbatTimers := s.vbatTimers - 1 }
      obtain ⟨hev, hled, -⟩ := fields_logChargeVbat { s with vbatTimers := s.vbatTimers - 1 }
      constructor
      · rw [hquiet.lastCharger, hev, hquiet.connected]
        exact hs.event
      · rw [hquiet.lastCharger, hled, hquiet.state]
        exact hs.dark
    · exact hs

theorem state_detached (e : Env) (s : Sm) : (step s (e, .charger .detached)).state = s.state :=
  (quiet_applyLimboChargeLed e _).state

theorem step_detached (e : Env) {s : Sm} (hlimbo : s.state = .limbo) :
    (step s (e, .charger .detached)).limboTimers = (if s.chargeLed = 0 then s.limboTimers else 1) ∧
      requestedSince (step s (e, .charger .detached)).log = false := by
  let told : Sm := { Sm.note (.charger .detached) { s with connected := false } with chargeEvent := .detached }
  obtain ⟨-, -, htimers⟩ := apply_detached e (s := told) hlimbo rfl rfl
  exact ⟨htimers, (quiet_applyLimboChargeLed e told).requestedSince⟩

theorem powersOff_step {s : Sm} (hs : Kept s) (hp : PowersOff s) (ev : Env × Event) (hnot : ¬ Stranded s ev) :
    PowersOff (step s ev) := by
  obtain ⟨e, ev⟩ := ev
  intro hlimbo hlast
  cases ev with
  | charger m =>
    have hm : m = .detached := (kept_handleCharger e hs m).2.symm.trans hlast
    subst hm
    have hstate : s.state = .limbo := (state_detached e s).symm.trans hlimbo
    rw [(step_detached e hstate).1]
    split
    · next hled => exact Or.inl (Nat.pos_of_ne_zero fun hzero => hnot ⟨rfl, hstate, hled, hzero⟩)
    · exact Or.inl Nat.one_pos
  | socUpdate =>
    have hquiet := quiet_applyLimboChargeLed e s
    have hstate : s.state = .limbo := hquiet.state.symm.trans hlimbo
    have hlast' : lastCharger s.log = .detached := hquiet.lastCharger.symm.trans hlast
    obtain ⟨hev, hconn⟩ := hs.event hlast'
    obtain ⟨-, -, htimers⟩ := apply_detached e hstate hev hconn
    rw [if_pos (hs.dark (Or.inr hlast'))] at htimers
    simp only [step]
    rw [htimers, hquiet.requestedSince]
    exact hp hstate hlast'
  | limboTimeout =>
    simp only [step] at hlimbo hlast ⊢
    by_cases hpos : 0 < s.limboTimers
    · rw [if_pos hpos] at hlimbo hlast ⊢
      let due : Sm := { s with limboTimers := s.limboTimers - 1 }
      have hdue : Kept due := ⟨hs.event, hs.dark⟩
      have hstate : due.state = .limbo := (timeout_keeps due).1.symm.trans hlimbo
      have hlast' : lastCharger due.log = .detached := (timeout_keeps due).2.symm.trans hlast
      exact Or.inr (timeout_requests hdue hstate hlast')
    · rw [if_neg hpos] at hlimbo hlast ⊢
      exact hp hlimbo hlast
  | vbatLog =>
    simp only [step] at hlimbo hlast ⊢
    by_cases hpos : 0 < s.vbatTimers
    · rw [if_pos hpos] at hlimbo hlast ⊢
      let due : Sm := { s with vbatTimers := s.vbatTimers - 1 }
      have hquiet := quiet_logChargeVbat due
      have hstate : s.state = .limbo := hquiet.state.symm.trans hlimbo
      have hlast' : lastCharger s.log = .detached := hquiet.lastCharger.symm.trans hlast
      rw [(fields_logChargeVbat due).2.2, hquiet.requestedSince]
      exact hp hstate hlast'
    · rw [if_neg hpos] at hlimbo hlast ⊢
      exact hp hlimbo hlast
  | setState new =>
    have hlast' : lastCharger s.log = .detached := (lastCharger_setState e new).symm.trans hlast
    by_cases hnew : new = .limbo
    · subst hnew
      exact Or.inl (setState_limbo_timers e hs hlast')
    · have hstate : (headsetSetState e new s).state = new := by
        unfold headsetSetState
        dsimp only
        rw [if_neg hnew]
        rfl
      exact absurd (hstate.symm.trans hlimbo) hnew

theorem run_concat (evs : List (Env × Event)) (ev : Env × Event) : run (evs ++ [ev]) = step (run evs) ev := by
  simp only [run, List.foldl_append, List.foldl_cons, List.foldl_nil]

theorem kept_run (evs : List (Env × Event)) : Kept (run evs) := by
  induction evs using List.reverseRecOn with
  | nil => exact ⟨fun _ => ⟨rfl, rfl⟩, fun _ => rfl⟩
  | append_singleton evs ev ih =>
    rw [run_concat]
    exact kept_step ih ev

theorem powersOff_run (evs : List (Env × Event))
    (hnot : ∀ before ev after, evs = before ++ ev :: after → ¬ Stranded (run before) ev) : PowersOff (run evs) := by
  induction evs using List.reverseRecOn with
  | nil => exact fun hlimbo => HeadsetState.noConfusion hlimbo
  | append_singleton evs ev ih =>
    rw [run_concat]
    apply powersOff_step (kept_run evs)
    · apply ih
      intro before ev' after hevs
      apply hnot before ev' (after ++ [ev])
      rw [hevs, List.append_assoc, List.cons_append]
    · exact hnot evs ev [] rfl

theorem not_powersOff_of_stranded {s : Sm} (hs : Kept s) {ev : Env × Event} (hst : Stranded s ev) :
    ¬ PowersOff (step s ev) := by
  obtain ⟨e, ev⟩ := ev
  obtain ⟨hev, hlimbo, hled, htimers⟩ := hst
  dsimp only at hev
  subst hev
  obtain ⟨htimers', hreq'⟩ := step_detached e hlimbo
  rw [if_pos hled, htimers] at htimers'
  intro hp
  obtain hpos | hreq := hp ((state_detached e s).trans hlimbo) (kept_handleCharger e hs .detached).2
  · exact absurd htimers' (Nat.pos_iff_ne_zero.mp hpos)
  · exact absurd (hreq'.symm.trans hreq) Bool.false_ne_true

/-- The helmet always powers off after the cable is out in limbo exactly in the runs where no
cable is removed with the charge LED dark and the limbo timer gone. No expiry of the timer
asks for power-off while the cable is in. -/
theorem limbo_powers_off_iff (evs : List (Env × Event)) :
    ((∀ before after, evs = before ++ after → PowersOff (run before)) ↔
      ∀ before ev after, evs = before ++ ev :: after → ¬ Stranded (run before) ev) ∧
    ∀ before e after, evs = before ++ (e, .limboTimeout) :: after → (run before).connected = true →
      (run (before ++ [(e, .limboTimeout)])).log = (run before).log := by
  refine ⟨⟨?_, ?_⟩, ?_⟩
  · intro hall before ev after hevs hst
    apply not_powersOff_of_stranded (kept_run before) hst
    rw [← run_concat]
    apply hall (before ++ [ev]) after
    rw [hevs, List.append_assoc, List.singleton_append]
  · intro hnot before after hevs
    apply powersOff_run before
    intro before' ev after' hbefore
    apply hnot before' ev (after' ++ after)
    rw [hevs, hbefore, List.append_assoc, List.cons_append]
  · intro before e after _ hconn
    rw [run_concat]
    simp only [step]
    split
    · unfold headsetSmHandleTimeoutLimbo
      split
      · rw [if_pos]
        · rfl
        · exact Or.inl hconn
      · rfl
    · rfl

/-- The cable goes in and charging is never reported; the timer expires and is swallowed, then
the cable goes out. -/
def unshownCharge : List (Env × Event) :=
  [(⟨50, true⟩, .setState .limbo), (⟨50, true⟩, .charger .attached), (⟨50, true⟩, .limboTimeout),
    (⟨50, true⟩, .charger .detached)]

theorem limbo_left_powered : ¬ PowersOff (run unshownCharge) := by
  intro h
  exact absurd (h rfl rfl) (by decide)

end SmartHelmet.Headset
