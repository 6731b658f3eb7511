import SmartHelmet.SessionView
import SmartHelmet.VitalsDrive

namespace SmartHelmet.Firmware

open Config MachineArith

namespace Session

def latch (s : Session) : Session :=
  if s.since then { s with holding := true, quiet := 0, since := false }
  else if s.holding then
    if incSat 255 s.quiet ≥ motionStillReports then { s with holding := false, quiet := 0, since := false }
    else { s with quiet := incSat 255 s.quiet, since := false }
  else { s with since := false }

def report (s : Session) : Session := { s.latch with reports := s.latch.holding :: s.reports }

/-- `SmartHelmet_PowerOff`, and what `SmartHelmet_Close` shares with it. -/
def off (s : Session) : Session :=
  ({ s with
    powered := false
    since := false
    holding := false
    quiet := 0
    polls := 0
    probeTask := false } : Session).stopAdc

def close (s : Session) : Session := { s.off with ready := false }

def on (s : Session) : Session :=
  { ({ s with
      powered := true
      scans := 1
      senses := 1
      adcTask := true
      probeTask := true
      linkTask := true } : Session).report with polls := 1 }

def init (s : Session) : Session :=
  { s with ready := true, scans := 1, senses := 1, adcTask := true, logs := 0 }

def flags (s : Session) : Session := { s with polls := 0, scans := 0, senses := 0, logs := 0 }

def note (s : Session) (p : Int16 × Int16 × Int16) (step : ℕ) : Session :=
  { s with prev := some p, since := s.since || decide (step ≥ motionRmsMg) }

theorem report_flags (s : Session) : s.report.flags = s.flags.report := by
  unfold report latch flags
  dsimp only
  split_ifs <;> rfl

theorem powered_reports (s : Session) (k : ℕ) : (report^[k] s).powered = s.powered := by
  induction k with
  | zero => rfl
  | succ k ih =>
    rw [Function.iterate_succ_apply', ← ih]
    unfold report latch
    dsimp only
    split_ifs <;> rfl

end Session

section Report

variable (w : World) (e : Env) (h : Helmet)

theorem saysMoving_reportLine (restart fall : Bool) (co nh3 no2 : ℕ) :
    saysMoving (reportLine h restart fall co nh3 no2) = h.motionHolding := by
  have hhead (moving : Bool) : saysMoving (reportHead moving restart fall) = moving ∧
      (bytes "motion:moving").length ≤ (reportHead moving restart fall).length := by
    cases moving <;> cases restart <;> cases fall <;> decide
  have hline := startsWith_reportLine h restart fall co nh3 no2
  obtain ⟨htext, hlen⟩ := hhead h.motionHolding
  rw [Bool.eq_iff_iff] at htext ⊢
  rw [← htext]
  unfold saysMoving
  rw [List.isPrefixOf_iff_prefix, List.isPrefixOf_iff_prefix]
  constructor
  · intro hmoving
    exact List.prefix_of_prefix_length_le hmoving hline hlen
  · intro hmoving
    exact hmoving.trans hline

theorem session_latchMotion : session (latchMotion h) = (session h).latch := by
  unfold latchMotion Session.latch
  simp only [apply_ite session]
  rfl

theorem session_reportBuild : session (reportBuild h).1 = (session h).report := by
  have hline (t : Helmet) (restart fall : Bool) (co nh3 no2 : ℕ) :
      session (t.note (.report fall (reportLine t restart fall co nh3 no2))) =
        { session t with reports := t.motionHolding :: (session t).reports } := by
    simp [session, Helmet.note, Obs.moving?, saysMoving_reportLine]
  unfold reportBuild
  dsimp only
  rw [hline]
  have hlatch := session_latchMotion h
  have hreports : (session h).latch.reports = (session h).reports := by
    unfold Session.latch
    split_ifs <;> rfl
  unfold Session.report
  rw [← hreports, ← hlatch]
  rfl

theorem session_sendFrames (frames : List (List UInt8)) :
    ∀ h : Helmet, session (sendFrames w frames h).1 = session h := by
  induction frames with
  | nil => exact fun _ => rfl
  | cons frame frames ih =>
    intro h
    have hsend := session_uartSend w h .payload frame
    unfold sendFrames
    dsimp only
    split
    · exact (ih _).trans hsend
    · exact hsend

theorem session_reportStart : session (reportStart w e h) = (session h).report := by
  unfold reportStart
  split
  · dsimp only
    rw [session_reportArm, shSendReportLines]
    dsimp only
    rw [session_uartNoteReportSent, session_sendFrames, session_reportBuild, session_reportSample]
  · rw [session_reportArm, session_reportBuild]

theorem session_afterSensors : session (afterSensors w e h) = session h ∨
    session (afterSensors w e h) = (session h).report := by
  unfold afterSensors
  split
  · exact Or.inr (session_reportStart w e h)
  · exact Or.inl rfl

theorem session_onPassTimeout : session (onPassTimeout w e h) = session h ∨
    session (onPassTimeout w e h) = (session h).report := by
  rw [onPassTimeout_eq]
  dsimp only
  split
  · exact Or.inl (session_leavePassthrough w _ _)
  · split
    · exact Or.inr (session_reportStart w e _)
    · exact Or.inl rfl

theorem session_shWisunOnTimeout : session (shWisunOnTimeout w e h) = session h ∨
    session (shWisunOnTimeout w e h) = (session h).report := by
  unfold shWisunOnTimeout
  split
  · exact Or.inl (session_onResetTimeout w h)
  · exact Or.inl (session_onProvReadTimeout w h)
  · exact Or.inl (session_onProvSetTimeout w h)
  · exact Or.inl (session_onLeaveTimeout w h)
  · exact Or.inl (session_onDestTimeout w h)
  · exact session_onPassTimeout w e h
  · exact Or.inl (session_onCmdTimeout w h)
  · exact Or.inl rfl
  · exact Or.inl rfl

theorem session_logChange : session (logChange w e h) = session h ∨
    session (logChange w e h) = (session h).report := by
  unfold logChange
  split
  · exact Or.inr (session_reportStart w e _)
  · exact Or.inl rfl

theorem session_shLis3dhLogSample : session (shLis3dhLogSample w e h) = session h ∨
    session (shLis3dhLogSample w e h) = (session h).report := by
  unfold shLis3dhLogSample
  cases e.lis3dhLog with
  | none => exact Or.inl rfl
  | some r =>
    rw [← session_logFeed w h r.mg.1 r.mg.2.1 r.mg.2.2]
    exact session_logChange w e _

end Report

section Power

variable (w : World) (e : Env) (h : Helmet)

theorem session_powerOn :
    session (powerOn w e h) = if ¬ h.ready ∨ h.powered then session h else (session h).on := by
  unfold powerOn
  split
  · rfl
  · dsimp only
    have hpoll (t : Helmet) : session (Helmet.sendLater .motionPoll (t.cancelAll .motionPoll)) =
        { session t with polls := 1 } := by
      simp [session, Helmet.sendLater, Helmet.cancelAll]
    rw [hpoll, session_reportStart, session_adcRequestScan, session_uartStartVerify, session_uartInit,
      session_vitalsInit, session_sensorsStartVerify]
    have hinit : session (sensorsInit e (adcInit { h with powered := true })) =
        { session h with powered := true, scans := 1, senses := 1, adcTask := true } :=
      (session_sensors _ rfl).trans (session_adcInit { h with powered := true })
    rw [hinit]
    rfl

theorem session_powerOff : session (powerOff w h) = if h.powered then (session h).off else session h := by
  unfold powerOff
  cases hp : h.powered with
  | false => rfl
  | true =>
    simp only [not_true_eq_false, ↓reduceIte]
    rw [session_adcStop, session_uartSleep]
    have hsleep (t : Helmet) : session (sensorsSleep t) = session t := session_sensors t rfl
    rw [hsleep, session_sensorsStopVerify, session_cancelPoll, session_reportStop]
    rfl

theorem session_close : session (close w h) = (session h).close := by
  unfold close
  dsimp only
  have hclear (t : Helmet) : session (clearMotion { t with ready := false, powered := false }) =
      { session t with ready := false, powered := false, since := false, holding := false, quiet := 0 } := rfl
  rw [hclear, session_uartClose, session_adcStop, session_cancelPoll, session_reportStop,
    session_sensorsStopVerify]
  rfl

theorem session_init : session (init w e h) =
    let s := if h.ready then (session h).close else session h
    if e.i2cInit then s.init else s := by
  have hclosed : session (if h.ready then close w h else h) =
      if h.ready then (session h).close else session h := by
    rw [apply_ite session, session_close]
  have hready (t : Helmet) : session { (Helmet.cancelAll .logTick { t with
      sensors := { t.sensors with logTask := true } }) with ready := true } =
      { session t with ready := true, logs := 0 } := by
    simp [session, Helmet.cancelAll]
  unfold init
  dsimp only
  rw [← hclosed]
  generalize (if h.ready = true then close w h else h) = t
  cases e.i2cInit with
  | false => rfl
  | true =>
    simp only [not_true_eq_false, ↓reduceIte]
    exact (hready (adcInit t)).trans (by rw [session_adcInit]; rfl)

theorem session_uiRefresh (state : ℕ) : session (uiRefresh w e state h) =
    if uiStateIsOn state then (if ¬ h.ready ∨ h.powered then session h else (session h).on)
    else if h.powered then (session h).off else session h := by
  unfold uiRefresh
  split
  · exact session_powerOn w e h
  · rw [apply_ite session, session_powerOff]
    split <;> rfl

end Power

def startsSession (h : Helmet) : Event → Bool
  | .powerOn => h.ready && !h.powered
  | .uiRefresh state => uiStateIsOn state && h.ready && !h.powered
  | _ => false

section Timers

variable (w : World) (e : Env) (h : Helmet)

def polledSample : Option (Int16 × Int16 × Int16) :=
  let s := (sensorsPollLis3dh e h).sensors
  if h.powered && s.lis3dhOk then some (s.x, s.y, s.z) else none

def sampleStep (p q : Int16 × Int16 × Int16) : ℕ :=
  max (max (Vitals.axisStep q.1.toInt p.1.toInt) (Vitals.axisStep q.2.1.toInt p.2.1.toInt))
    (Vitals.axisStep q.2.2.toInt p.2.2.toInt)

def pollStep (prev : Option (Int16 × Int16 × Int16)) (q : Int16 × Int16 × Int16) : ℕ :=
  (prev.map (fun p => sampleStep p q)).getD 0

theorem session_noteMotionStep : session (noteMotionStep h) =
    let q := (h.sensors.x, h.sensors.y, h.sensors.z)
    (session h).note q (pollStep h.pollPrev q) := by
  unfold noteMotionStep Session.note pollStep
  cases h.pollPrev with
  | none => rfl
  | some p => rfl

theorem session_motionPoll (hp : h.powered = true) : session (motionPoll w e h) =
    let s := { session h with polls := h.pending .motionPoll + 1 }
    match polledSample e h with
    | some q => s.note q (pollStep h.pollPrev q)
    | none => s := by
  have hlater (t : Helmet) : session (t.sendLater .motionPoll) =
      { session t with polls := t.pending .motionPoll + 1 } := by
    simp [session, Helmet.sendLater]
  have hread := session_sensorsPollLis3dh e h
  have hsample : polledSample e h = if (sensorsPollLis3dh e h).sensors.lis3dhOk then
      some ((sensorsPollLis3dh e h).sensors.x, (sensorsPollLis3dh e h).sensors.y,
        (sensorsPollLis3dh e h).sensors.z) else none := by
    rw [polledSample, hp, Bool.true_and]
  unfold motionPoll
  rw [hp, if_neg (by simp), hsample]
  dsimp only
  rw [hlater]
  split
  · rw [session_vitalsPushAccel, session_noteMotionStep, hread]
    rfl
  · rw [hread]
    rfl

theorem session_step_motionPoll (chunks : List (List UInt8)) (hp : h.powered = true)
    (hn : 0 < h.pending .motionPoll) : session (step w h e (.timer .motionPoll chunks)) =
    match polledSample e h with
    | some q => (session h).note q (pollStep h.pollPrev q)
    | none => session h := by
  have hpoll := session_motionPoll w e (h.deliver .motionPoll) hp
  have hsample : polledSample e (h.deliver .motionPoll) = polledSample e h := rfl
  have hdelivered : ({ session (h.deliver .motionPoll) with
      polls := (h.deliver .motionPoll).pending .motionPoll + 1 } : Session) = session h := by
    simp [session, Helmet.deliver, Nat.sub_add_cancel hn]
  rw [hsample, hdelivered] at hpoll
  exact (congrArg session (if_pos hn)).trans hpoll

theorem session_step_motionPoll_off (chunks : List (List UInt8)) (hp : h.powered = false) :
    session (step w h e (.timer .motionPoll chunks)) =
      { session h with polls := h.pending .motionPoll - 1 } := by
  have hdelivered : session (h.deliver .motionPoll) =
      { session h with polls := h.pending .motionPoll - 1 } := by
    simp [session, Helmet.deliver]
  rw [← hdelivered]
  by_cases hn : 0 < h.pending .motionPoll
  · have hoff : motionPoll w e (h.deliver .motionPoll) = h.deliver .motionPoll :=
      if_pos (by rw [Bool.not_eq_true]; exact hp)
    rw [← hoff]
    exact congrArg session (if_pos hn)
  · have hzero : h.pending .motionPoll - 1 = h.pending .motionPoll := by omega
    rw [hdelivered, hzero]
    exact congrArg session (if_neg hn)

theorem session_step_adcScan (chunks : List (List UInt8)) :
    session (step w h e (.timer .adcScan chunks)) =
      { session h with scans := if h.adc.task then h.pending .adcScan else h.pending .adcScan - 1 } := by
  by_cases hn : 0 < h.pending .adcScan
  · have hstep : step w h e (.timer .adcScan chunks) = adcScanTick (h.deliver .adcScan) := if_pos hn
    have hscan := session_adcRequestScan (h.deliver .adcScan)
    have htask := congrArg Session.adcTask hscan
    have hcount := congrArg Session.scans hscan
    rw [hstep]
    unfold adcScanTick
    dsimp only
    generalize adcRequestScan (h.deliver .adcScan) = t at hscan htask hcount ⊢
    change t.adc.task = h.adc.task at htask
    rw [htask]
    split
    · have hlater : session (t.sendLater .adcScan) = { session t with scans := t.pending .adcScan + 1 } := by
        simp [session, Helmet.sendLater]
      change t.pending .adcScan = _ at hcount
      rw [hlater, hscan, hcount]
      simp [session, Helmet.deliver, Nat.sub_add_cancel hn]
    · rw [hscan]
      simp [session, Helmet.deliver]
  · have hstep : step w h e (.timer .adcScan chunks) = h := if_neg hn
    have hzero : h.pending .adcScan = 0 := by omega
    rw [hstep]
    simp [session, hzero]

theorem session_step_adcSens (chunks : List (List UInt8)) :
    session (step w h e (.timer .adcSens chunks)) =
      { session h with senses := if h.adc.task then h.pending .adcSens else h.pending .adcSens - 1 } := by
  by_cases hn : 0 < h.pending .adcSens
  · have hstep : step w h e (.timer .adcSens chunks) = adcSensTick (h.deliver .adcSens) := if_pos hn
    have hsens := session_adcRequestSensIn (h.deliver .adcSens)
    have htask := congrArg Session.adcTask hsens
    have hcount := congrArg Session.senses hsens
    rw [hstep]
    unfold adcSensTick
    dsimp only
    generalize adcRequestSensIn (h.deliver .adcSens) = t at hsens htask hcount ⊢
    change t.adc.task = h.adc.task at htask
    rw [htask]
    split
    · have hlater : session (t.sendLater .adcSens) = { session t with senses := t.pending .adcSens + 1 } := by
        simp [session, Helmet.sendLater]
      change t.pending .adcSens = _ at hcount
      rw [hlater, hsens, hcount]
      simp [session, Helmet.deliver, Nat.sub_add_cancel hn]
    · rw [hsens]
      simp [session, Helmet.deliver]
  · have hstep : step w h e (.timer .adcSens chunks) = h := if_neg hn
    have hzero : h.pending .adcSens = 0 := by omega
    rw [hstep]
    simp [session, hzero]

theorem session_step_aside {m : Msg} (hm : m.aside = true) (chunks : List (List UInt8)) :
    session (step w h e (.timer m chunks)) = session h ∨
      session (step w h e (.timer m chunks)) = (session h).report := by
  by_cases hn : 0 < h.pending m
  · have hstep : step w h e (.timer m chunks) = onTimer w e m chunks (h.deliver m) := if_pos hn
    have hdeliver := session_deliver h hm
    rw [hstep, ← hdeliver]
    cases m with
    | reportTick => exact Or.inr (session_reportStart w e _)
    | i2cRetry =>
      rw [← session_shSensorsVerifyPass e (h.deliver .i2cRetry)]
      exact session_afterSensors w e _
    | rxPoll => exact Or.inl ((session_shRxPollArm _).trans (session_shUartDrain w e _ _))
    | linkCheck => exact session_shWisunOnTimeout w e _
    | _ => exact absurd hm Bool.false_ne_true
  · have hstep : step w h e (.timer m chunks) = h := if_neg hn
    rw [hstep]
    exact Or.inl rfl

theorem session_shLis3dhLogArm : ∃ n, session (shLis3dhLogArm h) = { session h with logs := n } := by
  unfold shLis3dhLogArm
  split
  · exact ⟨1, by simp [session, Helmet.sendLater, Helmet.cancelAll]⟩
  · exact ⟨h.pending .logTick, rfl⟩

def Reported (s s' : Session) : Prop := ∃ k, s'.flags = Session.report^[k] s.flags

theorem Reported.trans {s s' s'' : Session} (h : Reported s s') (h' : Reported s' s'') : Reported s s'' := by
  obtain ⟨k, hk⟩ := h
  obtain ⟨k', hk'⟩ := h'
  refine ⟨k' + k, ?_⟩
  rw [hk', hk, Function.iterate_add_apply]

theorem Reported.of_flags {s s' : Session} (h : s'.flags = s.flags) : Reported s s' := ⟨0, h⟩

theorem Reported.of_cases {s s' : Session} (h : s' = s ∨ s' = s.report) : Reported s s' := by
  rcases h with h | h
  · exact ⟨0, by rw [h]; rfl⟩
  · exact ⟨1, by rw [h, Session.report_flags]; rfl⟩

theorem reported_lis3dhChk (enable : Bool) : Reported (session h) (session (lis3dhChk w e enable h)) := by
  unfold lis3dhChk
  split
  · exact Reported.of_flags rfl
  · split
    · obtain ⟨n, harm⟩ := session_shLis3dhLogArm (shLis3dhLogSample w e h)
      apply (Reported.of_cases (session_shLis3dhLogSample w e h)).trans
      rw [harm]
      exact Reported.of_flags rfl
    · apply Reported.of_flags
      simp [session, Session.flags, Helmet.cancelAll]

theorem reported_step_logTick (chunks : List (List UInt8)) :
    Reported (session h) (session (step w h e (.timer .logTick chunks))) := by
  by_cases hn : 0 < h.pending .logTick
  · have hstep : step w h e (.timer .logTick chunks) = onTimer w e .logTick chunks (h.deliver .logTick) :=
      if_pos hn
    have hdeliver : Reported (session h) (session (h.deliver .logTick)) := by
      apply Reported.of_flags
      simp [session, Session.flags, Helmet.deliver]
    rw [hstep]
    apply hdeliver.trans
    generalize h.deliver .logTick = t
    obtain ⟨n, harm⟩ := session_shLis3dhLogArm (shLis3dhLogSample w e t)
    apply (Reported.of_cases (session_shLis3dhLogSample w e t)).trans
    have hback : Reported (session (shLis3dhLogSample w e t))
        (session (shLis3dhLogArm (shLis3dhLogSample w e t))) := by
      rw [harm]
      exact Reported.of_flags rfl
    exact hback.trans (Reported.of_cases (session_afterSensors w e _))
  · have hstep : step w h e (.timer .logTick chunks) = h := if_neg hn
    rw [hstep]
    exact Reported.of_flags rfl

def Event.isOther : Event → Bool
  | .init | .powerOn | .powerOff | .close | .uiRefresh _ | .timer .motionPoll _ => false
  | _ => true

theorem reported_step {ev : Event} (hev : ev.isOther = true) :
    Reported (session h) (session (step w h e ev)) := by
  cases ev with
  | lis3dhChk enable => exact reported_lis3dhChk w e h enable
  | moreData chunks => exact Reported.of_cases (Or.inl (session_shUartDrain w e h chunks))
  | adcResult source reading => exact Reported.of_cases (Or.inl (session_adcResult w e h source reading))
  | timer m chunks =>
    cases m with
    | motionPoll => exact absurd hev Bool.false_ne_true
    | logTick => exact reported_step_logTick w e h chunks
    | adcScan => exact Reported.of_flags (by rw [session_step_adcScan]; rfl)
    | adcSens => exact Reported.of_flags (by rw [session_step_adcSens]; rfl)
    | _ => exact Reported.of_cases (session_step_aside w e h rfl chunks)
  | _ => exact absurd hev Bool.false_ne_true

theorem powered_step_other {ev : Event} (hev : ev.isOther = true) : (step w h e ev).powered = h.powered := by
  obtain ⟨k, hk⟩ := reported_step w e h hev
  have hpowered : (session (step w h e ev)).flags.powered = h.powered := by
    rw [hk]
    exact Session.powered_reports _ k
  exact hpowered

theorem powered_step_motionPoll (chunks : List (List UInt8)) :
    (step w h e (.timer .motionPoll chunks)).powered = h.powered := by
  cases hp : h.powered with
  | false => exact (congrArg Session.powered (session_step_motionPoll_off w e h chunks hp)).trans hp
  | true =>
    by_cases hn : 0 < h.pending .motionPoll
    · have hstep := congrArg Session.powered (session_step_motionPoll w e h chunks hp hn)
      refine hstep.trans ?_
      split <;> exact hp
    · exact (congrArg Helmet.powered (if_neg hn)).trans hp

end Timers

end SmartHelmet.Firmware
