import SmartHelmet.History
import SmartHelmet.PresenceView
import SmartHelmet.SessionSteps

namespace SmartHelmet.Firmware

def uartIsBrOnline (h : Helmet) : Bool := h.link.wisun.online && !h.link.rejoining

/-- The idle timer after a notification; `needed` is what `headsetSmIsIdleTimerNeedToStart` and the
configured timeout say. -/
def headsetSmOnWisunBrOnlineChanged (needed online idle : Bool) : Bool :=
  if online then false else if needed then true else idle

def newTold (h h' : Helmet) : List Bool :=
  (presence h').told.take ((presence h').told.length - (presence h).told.length)

def noteTold (w : World) (h : Helmet) (ev : Env × Event) (told : Bool) : Bool :=
  (newTold h (step w h ev.1 ev.2)).head?.getD (told && !startsSession h ev.2)

def toldOnline (w : World) (events : List (Env × Event)) : Bool :=
  History.after (fun h ev => step w h ev.1 ev.2) (noteTold w) .boot false events

def BrKnown (w : World) (events : List (Env × Event)) : Prop :=
  (runHelmet w events).powered = true → toldOnline w events = uartIsBrOnline (runHelmet w events)

/-- The expiry of a session that enters passthrough while the flag is still set. -/
def dropsSilently (h : Helmet) : Event → Bool
  | .timer .linkCheck _ =>
    h.powered && decide (0 < h.pending .linkCheck) && entersPassthrough h.link && h.link.wisun.online
  | _ => false

theorem newTold_of_append {h h' : Helmet} {new : List Bool} (hn : (presence h').told = new ++ (presence h).told) :
    newTold h h' = new := by
  unfold newTold
  rw [hn, List.length_append, Nat.add_sub_cancel]
  exact List.take_left

section Steps

variable (w : World) (e : Env) (h : Helmet)

theorem presence_shLis3dhLogArm : presence (shLis3dhLogArm h) = presence h := by
  unfold shLis3dhLogArm
  split <;> rfl

theorem presence_shRxPollArm : presence (shRxPollArm h) = presence h := by
  unfold shRxPollArm
  split <;> rfl

theorem follows_lis3dhChk (enable : Bool) : Follows (presence h) (presence (lis3dhChk w e enable h)) := by
  unfold lis3dhChk
  split
  · exact Follows.refl _
  · split
    · rw [presence_shLis3dhLogArm]
      exact follows_shLis3dhLogSample w e h
    · exact Follows.refl _

theorem presence_adcRequestScan : presence (adcRequestScan h) = presence h := by
  unfold adcRequestScan
  split
  · unfold shAdcRequestNextFull
    split <;> rfl
  · rfl

theorem presence_adcRequestSensIn : presence (adcRequestSensIn h) = presence h := by
  unfold adcRequestSensIn
  split
  · rfl
  · split <;> rfl

theorem presence_adcResult (source : AdcSource) (reading : UInt16) :
    presence (adcResult w e source reading h) = presence h := by
  unfold adcResult
  split
  · rfl
  · split
    · split <;> rfl
    · split
      · unfold shAdcRequestNextFull
        split <;> rfl
      · rfl

theorem presence_motionPoll : presence (motionPoll w e h) = presence h := by
  unfold motionPoll
  split
  · rfl
  · dsimp only
    split
    · exact presence_vitalsPushAccel w _ _ _ _
    · rfl

theorem presence_shSensorsVerifyPass : presence (shSensorsVerifyPass e h) = presence h := by
  unfold shSensorsVerifyPass
  dsimp only
  split
  · split <;> rfl
  · unfold shSensorsScheduleRetry
    split <;> rfl

theorem follows_shWisunOnTimeout (hq : entersPassthrough h.link = false ∨ h.link.wisun.online = false) :
    Follows (presence h) (presence (shWisunOnTimeout w e h)) := by
  unfold shWisunOnTimeout
  split
  · exact Follows.of_eq (presence_onResetTimeout w h)
  · exact Follows.of_eq (presence_onProvReadTimeout w h)
  · exact Follows.of_eq (presence_onProvSetTimeout w h)
  · exact Follows.of_eq (presence_onLeaveTimeout w h)
  · exact Follows.of_eq (presence_onDestTimeout w h)
  · next hpass =>
    cases henter : entersPassthrough h.link with
    | false => exact Follows.of_eq (presence_onPassTimeout w e h hpass henter)
    | true =>
      have hoff : h.link.wisun.online = false := by
        rcases hq with hq | hq
        · exact absurd (hq.symm.trans henter) Bool.false_ne_true
        · exact hq
      rw [onPassTimeout_enters w e h hpass henter]
      apply Follows.trans _ (follows_reportStart w e _)
      exact ⟨⟨[], rfl, hoff⟩, fun _ => rfl⟩
  · exact Follows.of_eq (presence_onCmdTimeout w h)
  · exact Follows.refl _
  · exact Follows.refl _

def Event.isPower : Event → Bool
  | .init | .powerOn | .powerOff | .close | .uiRefresh _ => true
  | _ => false

theorem follows_step {ev : Event} (hev : ev.isPower = false)
    (hq : ∀ chunks, ev = .timer .linkCheck chunks → 0 < h.pending .linkCheck →
      entersPassthrough h.link = false ∨ h.link.wisun.online = false) :
    Follows (presence h) (presence (step w h e ev)) := by
  cases ev with
  | lis3dhChk enable => exact follows_lis3dhChk w e h enable
  | moreData chunks => exact follows_shUartDrain w e h chunks
  | adcResult source reading => exact Follows.of_eq (presence_adcResult w e h source reading)
  | timer m chunks =>
    by_cases hn : 0 < h.pending m
    · have hstep : step w h e (.timer m chunks) = onTimer w e m chunks (h.deliver m) := if_pos hn
      rw [hstep]
      change Follows (presence (h.deliver m)) _
      cases m with
      | reportTick => exact follows_reportStart w e _
      | motionPoll => exact Follows.of_eq (presence_motionPoll w e _)
      | i2cRetry =>
        rw [← presence_shSensorsVerifyPass e (h.deliver .i2cRetry)]
        exact follows_afterSensors w e _
      | logTick =>
        apply (follows_shLis3dhLogSample w e _).trans
        rw [← presence_shLis3dhLogArm]
        exact follows_afterSensors w e _
      | adcScan =>
        apply Follows.of_eq
        change presence (adcScanTick _) = _
        unfold adcScanTick
        dsimp only
        split <;> exact presence_adcRequestScan _
      | adcSens =>
        apply Follows.of_eq
        change presence (adcSensTick _) = _
        unfold adcSensTick
        dsimp only
        split <;> exact presence_adcRequestSensIn _
      | rxPoll =>
        change Follows _ (presence (shRxPollArm _))
        rw [presence_shRxPollArm]
        exact follows_shUartDrain w e _ chunks
      | linkCheck => exact follows_shWisunOnTimeout w e _ (hq chunks rfl hn)
    · have hstep : step w h e (.timer m chunks) = h := if_neg hn
      rw [hstep]
      exact Follows.refl _
  | _ => exact absurd hev.symm Bool.false_ne_true

end Steps

section Power

variable (w : World) (e : Env) (h : Helmet)

theorem presence_uartStopVerify : presence (uartStopVerify h) = presence h := by
  unfold uartStopVerify
  dsimp only
  split <;> rfl

theorem presence_uartClose : presence (uartClose w h) = presence h := by
  unfold uartClose
  dsimp only
  generalize hexit : (if h.link.opened = true then shWisunSendProbe w "exit" h else h) = left
  have hleft : presence left = presence h := by
    rw [← hexit]
    split <;> rfl
  have hstop := presence_uartStopVerify { left with link := { left.link with passthrough := false } }
  rw [← hleft]
  split
  · exact hstop
  · exact hstop

theorem presence_adcStop : presence (adcStop h) = presence h := by
  unfold adcStop
  dsimp only
  split <;> rfl

theorem presence_sensorsStopVerify : presence (sensorsStopVerify h) = presence h := by
  unfold sensorsStopVerify
  dsimp only
  split <;> rfl

theorem presence_close : presence (close w h) = presence h := by
  unfold close
  dsimp only
  have hstop : presence (adcStop ((reportStop (sensorsStopVerify h)).cancelAll .motionPoll)) = presence h :=
    (presence_adcStop _).trans (presence_sensorsStopVerify h)
  rw [← hstop]
  exact presence_uartClose w _

theorem presence_init : presence (init w e h) = presence h := by
  have hclosed : presence (if h.ready then close w h else h) = presence h := by
    split
    · exact presence_close w h
    · rfl
  unfold init
  dsimp only
  rw [← hclosed]
  split <;> rfl

theorem online_powerOff (hp : h.powered = true) : (presence (powerOff w h)).online = false := by
  have hsleep (t : Helmet) : (presence (uartSleep w t)).online = false := by
    unfold uartSleep
    dsimp only
    rw [presence_uartClose]
    rfl
  unfold powerOff
  rw [hp, if_neg (by simp)]
  dsimp only
  rw [presence_adcStop]
  exact hsleep _

theorem follows_powerOn (hr : h.ready = true) (hp : h.powered = false) :
    Follows { presence h with online := false } (presence (powerOn w e h)) := by
  unfold powerOn
  rw [if_neg (by simp [hr, hp])]
  dsimp only
  have hsensors : presence (sensorsStartVerify (sensorsInit e (adcInit { h with powered := true }))) =
      presence h := by
    unfold sensorsStartVerify
    dsimp only
    split
    · rfl
    · unfold shSensorsScheduleRetry
      split <;> rfl
  generalize sensorsStartVerify (sensorsInit e (adcInit { h with powered := true })) = probed at hsensors ⊢
  have hinit : presence (uartInit e probed.vitalsInit) = presence probed := by
    have hopen (t : Helmet) : presence (uartInit e t) = presence t := by
      unfold uartInit
      dsimp only
      split
      · rfl
      · split <;> rfl
    rw [hopen, presence_vitalsInit]
  generalize uartInit e probed.vitalsInit = opened at hinit ⊢
  have hverify : presence (uartStartVerify w opened) = { presence h with online := false } := by
    rw [uartStartVerify, presence_leavePassthrough, ← hsensors, ← hinit]
    rfl
  rw [← hverify, ← presence_adcRequestScan]
  exact follows_reportStart w e _

def Presence.apart (p : Presence) : Prop := (p.online && p.rejoining) = false

theorem apart_shWisunOnTimeout (ha : (presence h).apart) : (presence (shWisunOnTimeout w e h)).apart := by
  by_cases hq : entersPassthrough h.link = false ∨ h.link.wisun.online = false
  · exact (follows_shWisunOnTimeout w e h hq).apart ha
  · have henter : entersPassthrough h.link = true := Bool.not_eq_false _ ▸ (not_or.mp hq).1
    have hpass : h.link.step = .pass := by
      simp only [entersPassthrough, Bool.and_eq_true] at henter
      exact of_decide_eq_true henter.1.1
    have htimeout : shWisunOnTimeout w e h = onPassTimeout w e h := by
      unfold shWisunOnTimeout
      rw [hpass]
    rw [htimeout, onPassTimeout_enters w e h hpass henter]
    exact (follows_reportStart w e _).apart rfl

theorem powerOn_idle (hidle : (h.ready && !h.powered) = false) : powerOn w e h = h := by
  apply if_pos
  rw [Bool.and_eq_false_iff, Bool.not_eq_false'] at hidle
  rcases hidle with hr | hp
  · exact Or.inl (by rw [hr]; exact Bool.false_ne_true)
  · exact Or.inr hp

theorem apart_powerOn (ha : (presence h).apart) : (presence (powerOn w e h)).apart := by
  cases hstart : h.ready && !h.powered with
  | true =>
    rw [Bool.and_eq_true, Bool.not_eq_true'] at hstart
    exact (follows_powerOn w e h hstart.1 hstart.2).apart rfl
  | false =>
    rw [powerOn_idle w e h hstart]
    exact ha

theorem apart_powerOff (ha : (presence h).apart) : (presence (powerOff w h)).apart := by
  cases hp : h.powered with
  | true =>
    unfold Presence.apart
    rw [online_powerOff w h hp]
    rfl
  | false =>
    have hsame : powerOff w h = h := if_pos (by rw [hp]; exact Bool.false_ne_true)
    rw [hsame]
    exact ha

theorem apart_step (ev : Event) (ha : (presence h).apart) : (presence (step w h e ev)).apart := by
  cases ev with
  | init =>
    have hstep : presence (step w h e .init) = presence h := presence_init w e h
    rw [hstep]
    exact ha
  | powerOn => exact apart_powerOn w e h ha
  | powerOff => exact apart_powerOff w h ha
  | close =>
    have hstep : presence (step w h e .close) = presence h := presence_close w h
    rw [hstep]
    exact ha
  | uiRefresh state =>
    change (presence (uiRefresh w e state h)).apart
    unfold uiRefresh
    split
    · exact apart_powerOn w e h ha
    · split
      · exact apart_powerOff w h ha
      · exact ha
  | timer m chunks =>
    by_cases hm : m = .linkCheck
    · subst hm
      by_cases hn : 0 < h.pending .linkCheck
      · have hstep : step w h e (.timer .linkCheck chunks) = shWisunOnTimeout w e (h.deliver .linkCheck) :=
          if_pos hn
        rw [hstep]
        exact apart_shWisunOnTimeout w e _ ha
      · have hstep : step w h e (.timer .linkCheck chunks) = h := if_neg hn
        rw [hstep]
        exact ha
    · apply (follows_step w e h rfl _).apart ha
      rintro chunks' ⟨⟩
      exact absurd rfl hm
  | _ =>
    apply (follows_step w e h rfl _).apart ha
    rintro chunks' ⟨⟩

end Power

structure BrSound (h : Helmet) (told : Bool) : Prop where
  apart : (presence h).apart
  told : h.powered = true → told = h.link.wisun.online

theorem BrSound.known {h : Helmet} {told : Bool} (hs : BrSound h told) (hp : h.powered = true) :
    told = uartIsBrOnline h := by
  rw [hs.told hp]
  have hapart : (h.link.wisun.online && h.link.rejoining) = false := hs.apart
  unfold uartIsBrOnline
  cases hon : h.link.wisun.online with
  | false => rfl
  | true =>
    rw [hon, Bool.true_and] at hapart
    rw [hapart]
    rfl

section Run

variable (w : World) {h : Helmet} {told : Bool} {e : Env} {ev : Event}

theorem noteTold_of_follows (online : Bool) (hf : Follows { presence h with online := online } (presence (step w h e ev)))
    (htold : (told && !startsSession h ev) = online) :
    noteTold w h (e, ev) told = (step w h e ev).link.wisun.online := by
  obtain ⟨new, hnew, hlast⟩ := hf.told
  have hn : newTold h (step w h e ev) = new := newTold_of_append hnew
  unfold noteTold
  dsimp only
  rw [hn, htold]
  exact hlast

theorem brSound_powerOn (hs : BrSound h told)
    (hstep : step w h e ev = powerOn w e h) (hev : startsSession h ev = (h.ready && !h.powered)) :
    BrSound (step w h e ev) (noteTold w h (e, ev) told) := by
  constructor
  · rw [hstep]
    exact apart_powerOn w e h hs.apart
  · intro hp
    cases hstart : startsSession h ev with
    | true =>
      have hgo := hstart
      rw [hev, Bool.and_eq_true, Bool.not_eq_true'] at hgo
      apply noteTold_of_follows w false
      · rw [hstep]
        exact follows_powerOn w e h hgo.1 hgo.2
      · rw [hstart]
        exact Bool.and_false told
    | false =>
      have hsame : step w h e ev = h := by
        rw [hev] at hstart
        rw [hstep, powerOn_idle w e h hstart]
      apply noteTold_of_follows w h.link.wisun.online
      · rw [hsame]
        exact Follows.refl _
      · rw [hstart]
        rw [hsame] at hp
        exact (Bool.and_true told).trans (hs.told hp)

theorem brSound_off (hs : BrSound h told) (hp : (step w h e ev).powered = false) :
    BrSound (step w h e ev) (noteTold w h (e, ev) told) where
  apart := apart_step w e h ev hs.apart
  told hon := absurd (hp.symm.trans hon) Bool.false_ne_true

theorem powered_step (hev : ev.isPower = false) : (step w h e ev).powered = h.powered := by
  cases hother : ev.isOther with
  | true => exact powered_step_other w e h hother
  | false =>
    cases ev with
    | timer m chunks =>
      cases m with
      | motionPoll => exact powered_step_motionPoll w e h chunks
      | _ => exact absurd hother.symm Bool.false_ne_true
    | lis3dhChk enable => exact absurd hother.symm Bool.false_ne_true
    | moreData chunks => exact absurd hother.symm Bool.false_ne_true
    | adcResult source reading => exact absurd hother.symm Bool.false_ne_true
    | _ => exact absurd hev.symm Bool.false_ne_true

theorem startsSession_of_not_power (hev : ev.isPower = false) : startsSession h ev = false := by
  cases ev with
  | powerOn => exact absurd hev.symm Bool.false_ne_true
  | uiRefresh state => exact absurd hev.symm Bool.false_ne_true
  | _ => rfl

theorem brSound_follows (hs : BrSound h told) (hf : Follows (presence h) (presence (step w h e ev)))
    (hp : (step w h e ev).powered = true → h.powered = true) (hstart : startsSession h ev = false) :
    BrSound (step w h e ev) (noteTold w h (e, ev) told) := by
  refine ⟨apart_step w e h ev hs.apart, ?_⟩
  intro hon
  apply noteTold_of_follows w h.link.wisun.online hf
  rw [hstart]
  exact (Bool.and_true told).trans (hs.told (hp hon))

theorem powered_powerOff (w : World) (h : Helmet) : (powerOff w h).powered = false := by
  have hstep := session_powerOff w h
  cases hp : h.powered with
  | true =>
    rw [hp] at hstep
    exact congrArg Session.powered hstep
  | false =>
    rw [hp] at hstep
    exact (congrArg Session.powered hstep).trans hp

theorem powered_init (w : World) (e : Env) {h : Helmet} (hp : (init w e h).powered = true) : h.powered = true := by
  have hstep := session_init w e h
  cases hr : h.ready with
  | true =>
    have hoff : (session (init w e h)).powered = false := by
      rw [hstep, hr]
      cases e.i2cInit <;> rfl
    exact absurd (hoff.symm.trans hp) Bool.false_ne_true
  | false =>
    have hsame : (session (init w e h)).powered = h.powered := by
      rw [hstep, hr]
      cases e.i2cInit <;> rfl
    exact hsame.symm.trans hp

theorem brSound_step (hs : BrSound h told) (hq : dropsSilently h ev = false) :
    BrSound (step w h e ev) (noteTold w h (e, ev) told) := by
  cases hev : ev.isPower with
  | false =>
    cases hp : h.powered with
    | false => exact brSound_off w hs ((powered_step w hev).trans hp)
    | true =>
      apply brSound_follows w hs _ (fun _ => hp) (startsSession_of_not_power hev)
      apply follows_step w e h hev
      rintro chunks rfl hn
      simp only [dropsSilently, hp, decide_eq_true hn, Bool.true_and, Bool.and_eq_false_iff] at hq
      exact hq
  | true =>
    cases ev with
    | init => exact brSound_follows w hs (Follows.of_eq (presence_init w e h)) (powered_init w e) rfl
    | powerOn => exact brSound_powerOn w hs rfl rfl
    | powerOff => exact brSound_off w hs (powered_powerOff w h)
    | close => exact brSound_off w hs rfl
    | uiRefresh state =>
      cases hon : uiStateIsOn state with
      | true =>
        have hstep : step w h e (.uiRefresh state) = powerOn w e h := if_pos hon
        apply brSound_powerOn w hs hstep
        simp [startsSession, hon]
      | false =>
        apply brSound_off w hs
        have hstep : step w h e (.uiRefresh state) = if h.powered then powerOff w h else h :=
          if_neg (by rw [hon]; exact Bool.false_ne_true)
        rw [hstep]
        split
        · exact powered_powerOff w h
        · next hp => exact Bool.eq_false_iff.mpr hp
    | _ => exact absurd hev Bool.false_ne_true

end Run

section Silence

variable (w : World) (e : Env) (h : Helmet)

def Muted (p p' : Presence) : Prop := p.online = false → p'.online = false ∧ p'.told = p.told

theorem Muted.of_eq {p p' : Presence} (h : p' = p) : Muted p p' := by
  intro hoff
  rw [h]
  exact ⟨hoff, rfl⟩

theorem Muted.trans {p p' p'' : Presence} (h : Muted p p') (h' : Muted p' p'') : Muted p p'' := by
  intro hoff
  obtain ⟨hoff', htold⟩ := h hoff
  obtain ⟨hoff'', htold'⟩ := h' hoff'
  exact ⟨hoff'', htold'.trans htold⟩

theorem muted_dropOnline : Muted (presence h) (presence (dropOnline h)) := by
  intro hoff
  change h.link.wisun.online = false at hoff
  unfold dropOnline
  rw [hoff]
  exact ⟨rfl, rfl⟩

theorem muted_uartRejoin : Muted (presence h) (presence (uartRejoin w e h)) := by
  unfold uartRejoin
  split
  · exact Muted.of_eq rfl
  · split
    · exact Muted.of_eq rfl
    · dsimp only
      rw [presence_leavePassthrough]
      exact muted_dropOnline { h with link := { h.link with
        rejoinMs := e.timeUs / 1000
        rejoining := true
        passthrough := false } }

theorem muted_uartNoteReportSent (ok : Bool) : Muted (presence h) (presence (uartNoteReportSent w e ok h)) := by
  unfold uartNoteReportSent
  split
  · exact (muted_dropOnline h).trans (muted_uartRejoin w e _)
  · split
    · dsimp only
      split
      · exact muted_uartRejoin w e { h with link := { h.link with missedOk := MachineArith.incSat 12 h.link.missedOk } }
      · exact Muted.of_eq rfl
    · exact Muted.of_eq rfl

theorem muted_reportStart : Muted (presence h) (presence (reportStart w e h)) := by
  obtain hsame | ⟨t, ok, ht, hsent⟩ := reportStart_cases w e h
  · exact Muted.of_eq hsame
  · rw [hsent, ← ht]
    exact muted_uartNoteReportSent w e t ok

theorem not_known_of_silent {told : Bool} {ev : Event} (hs : BrSound h told) (hq : dropsSilently h ev = true) :
    (step w h e ev).powered = true ∧ noteTold w h (e, ev) told ≠ uartIsBrOnline (step w h e ev) := by
  cases ev with
  | timer m chunks =>
    cases m with
    | linkCheck =>
      simp only [dropsSilently, Bool.and_eq_true] at hq
      obtain ⟨⟨⟨hp, hn⟩, henter⟩, hon⟩ := hq
      have hpass : h.link.step = .pass := by
        simp only [entersPassthrough, Bool.and_eq_true] at henter
        exact of_decide_eq_true henter.1.1
      have hstep : step w h e (.timer .linkCheck chunks) = onPassTimeout w e (h.deliver .linkCheck) := by
        have hdeliver : step w h e (.timer .linkCheck chunks) = shWisunOnTimeout w e (h.deliver .linkCheck) :=
          if_pos (of_decide_eq_true hn)
        rw [hdeliver]
        unfold shWisunOnTimeout
        rw [show (h.deliver .linkCheck).link.step = .pass from hpass]
      rw [onPassTimeout_enters w e (h.deliver .linkCheck) hpass henter] at hstep
      refine ⟨(powered_step w rfl).trans hp, ?_⟩
      obtain ⟨hoff, hsame⟩ := muted_reportStart w e { h.deliver .linkCheck with
        link := { (h.deliver .linkCheck).link with
          step := .done
          passthrough := true
          wisun := { (h.deliver .linkCheck).link.wisun with online := false } } } rfl
      rw [← hstep] at hoff hsame
      have hnew : newTold h (step w h e (.timer .linkCheck chunks)) = [] := newTold_of_append hsame
      have htold : noteTold w h (e, .timer .linkCheck chunks) told = true := by
        unfold noteTold
        rw [hnew, hs.told hp, hon]
        rfl
      have hbr : uartIsBrOnline (step w h e (.timer .linkCheck chunks)) = false := by
        change (step w h e (.timer .linkCheck chunks)).link.wisun.online = false at hoff
        unfold uartIsBrOnline
        rw [hoff]
        rfl
      rw [htold, hbr]
      decide
    | _ => exact absurd hq Bool.false_ne_true
  | _ => exact absurd hq Bool.false_ne_true

end Silence

def NeverSilent (w : World) (events : List (Env × Event)) : Prop :=
  ∀ before ev after, events = before ++ ev :: after → dropsSilently (runHelmet w before) ev.2 = false

/-- The idle timer after the notifications of one step, newest first. -/
def idleAfter (needed idle : Bool) (told : List Bool) : Bool :=
  told.foldr (headsetSmOnWisunBrOnlineChanged needed) idle

section Whole

variable (w : World)

theorem toldOnline_concat (events : List (Env × Event)) (ev : Env × Event) :
    toldOnline w (events ++ [ev]) = noteTold w (runHelmet w events) ev (toldOnline w events) :=
  History.after_concat _ _ _ _ events ev

theorem brSound_run (events : List (Env × Event)) (hq : NeverSilent w events) :
    BrSound (runHelmet w events) (toldOnline w events) := by
  induction events using List.reverseRecOn with
  | nil => exact ⟨rfl, fun h => absurd h Bool.false_ne_true⟩
  | append_singleton events ev ih =>
    have hs := ih (fun before x after hsplit => hq before x (after ++ [ev]) (by rw [hsplit]; simp))
    rw [runHelmet_concat, toldOnline_concat]
    exact brSound_step w hs (hq events ev [] rfl)

theorem brSound_before {before after : List (Env × Event)} (hq : NeverSilent w (before ++ after)) :
    BrSound (runHelmet w before) (toldOnline w before) := by
  apply brSound_run
  intro b ev a hb
  exact hq b ev (a ++ after) (by rw [hb]; simp)

theorem known_iff_neverSilent (events : List (Env × Event)) :
    (∀ before after, events = before ++ after → BrKnown w before) ↔ NeverSilent w events := by
  constructor
  · intro hknown
    induction events using List.reverseRecOn with
    | nil =>
      intro before ev after hsplit
      exact absurd hsplit (by simp)
    | append_singleton events last ih =>
      have hquiet : NeverSilent w events := by
        apply ih
        intro before after hsplit
        exact hknown before (after ++ [last]) (by rw [hsplit]; simp)
      intro before ev after hsplit
      rcases List.eq_nil_or_concat after with rfl | ⟨after', x, rfl⟩
      · -- the last step: the invariant holds before it, so a silent drop would show after it
        obtain ⟨rfl, hev⟩ := List.append_inj' hsplit rfl
        obtain rfl : last = ev := (List.cons.inj hev).1
        by_contra hsilent
        have hdrop : dropsSilently (runHelmet w events) last.2 = true := Bool.not_eq_false _ ▸ hsilent
        obtain ⟨hp, hne⟩ := not_known_of_silent w last.1 _ (brSound_run w events hquiet) hdrop
        have hlast := hknown (events ++ [last]) [] (by simp)
        unfold BrKnown at hlast
        rw [runHelmet_concat, toldOnline_concat] at hlast
        exact hne (hlast hp)
      · apply hquiet before ev after'
        have hinner : events ++ [last] = (before ++ ev :: after') ++ [x] := by
          rw [hsplit]
          simp
        exact (List.append_inj' hinner rfl).1
  · intro hquiet before after hsplit hp
    rw [hsplit] at hquiet
    exact (brSound_before w hquiet).known hp

theorem idle_offered {h : Helmet} {told : Bool} {ev : Env × Event} (hs : BrSound h told)
    (hs' : BrSound (step w h ev.1 ev.2) (noteTold w h ev told)) (hp : h.powered = true)
    (hp' : (step w h ev.1 ev.2).powered = true) (hon : uartIsBrOnline h = true)
    (hoff : uartIsBrOnline (step w h ev.1 ev.2) = false) (idle : Bool) :
    idleAfter true idle (newTold h (step w h ev.1 ev.2)) = true := by
  have hstart : startsSession h ev.2 = false := by
    cases hev : ev.2 with
    | powerOn => simp [startsSession, hp]
    | uiRefresh state => simp [startsSession, hp]
    | _ => rfl
  have hold : told = true := (hs.known hp).trans hon
  have hlast : noteTold w h ev told = false := (hs'.known hp').trans hoff
  unfold noteTold at hlast
  rw [hstart, hold] at hlast
  cases hnew : newTold h (step w h ev.1 ev.2) with
  | nil =>
    rw [hnew] at hlast
    exact absurd hlast.symm Bool.false_ne_true
  | cons v rest =>
    rw [hnew] at hlast
    obtain rfl : v = false := hlast
    rfl

/-- In every run in which no expiry enters passthrough while the flag is set, and in no other, the
headset knows the flag after every step; and then it hears of every falling edge. -/
theorem br_online_known_iff (events : List (Env × Event)) :
    ((∀ before after, events = before ++ after → BrKnown w before) ↔ NeverSilent w events) ∧
    (NeverSilent w events → ∀ before ev after, events = before ++ ev :: after →
      (runHelmet w before).powered = true → (runHelmet w (before ++ [ev])).powered = true →
      uartIsBrOnline (runHelmet w before) = true → uartIsBrOnline (runHelmet w (before ++ [ev])) = false →
      ∀ idle, idleAfter true idle (newTold (runHelmet w before) (runHelmet w (before ++ [ev]))) = true) := by
  refine ⟨known_iff_neverSilent w events, ?_⟩
  intro hquiet before ev after hsplit hp hp' hon hoff idle
  have hsplit' : events = (before ++ [ev]) ++ after := by
    rw [hsplit]
    simp
  have hs : BrSound (runHelmet w before) (toldOnline w before) := brSound_before w (hsplit ▸ hquiet)
  have hs' : BrSound (runHelmet w (before ++ [ev])) (toldOnline w (before ++ [ev])) :=
    brSound_before w (hsplit' ▸ hquiet)
  rw [runHelmet_concat] at hp' hoff hs' ⊢
  rw [toldOnline_concat] at hs'
  exact idle_offered w hs hs' hp hp' hon hoff idle

end Whole

/-- `send ok` while the module still leaves passthrough, then `cmd too long`, then three expiries. -/
def silentDropRun : List (Env × Event) := poweredRun ++ [(plainEnv, .moreData [bytes "send ok"]),
  (plainEnv, .moreData [bytes "\r\ncmd too long\r\n"]), (plainEnv, .timer .linkCheck []),
  (plainEnv, .timer .linkCheck []), (plainEnv, .timer .linkCheck [])]

theorem br_offline_untold : ¬ BrKnown plainWorld silentDropRun := by
  intro hknown
  exact absurd (hknown (by decide +kernel)) (by decide +kernel)

end SmartHelmet.Firmware
