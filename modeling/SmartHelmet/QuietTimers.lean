import SmartHelmet.LinkFrame
import SmartHelmet.SessionSteps

namespace SmartHelmet.Firmware

def moduleTimers : List Msg := [.adcScan, .adcSens, .motionPoll, .reportTick, .rxPoll, .linkCheck, .i2cRetry]

structure Quiescent (h : Helmet) : Prop where
  off : h.powered = false → ∀ m ∈ moduleTimers, h.pending m = 0
  on : h.powered = true → h.pending .motionPoll = 1 ∧ h.pending .adcScan = 1 ∧ h.pending .adcSens = 1

def noteCold (cold : Bool) (ev : Env × Event) : Bool :=
  match ev.2 with
  | .init => ev.1.i2cInit
  | .powerOn => false
  | .close => false
  | .uiRefresh state => cold && !uiStateIsOn state
  | _ => cold

/-- The module was initialised and has been neither powered nor closed since. -/
def coldStarted (events : List (Env × Event)) : Bool := events.foldl noteCold false

def Event.isChk : Event → Bool
  | .lis3dhChk _ => true
  | _ => false

structure Beside where
  ticks : ℕ
  retries : ℕ
  rxPolls : ℕ
  checks : ℕ
  opened : Bool

def beside (h : Helmet) : Beside where
  ticks := h.pending .reportTick
  retries := h.pending .i2cRetry
  rxPolls := h.pending .rxPoll
  checks := h.pending .linkCheck
  opened := h.link.opened

def Beside.still : Beside := ⟨0, 0, 0, 0, false⟩

section Adc

variable (w : World) (e : Env) (h : Helmet)

theorem beside_shAdcRequestNextFull : beside (shAdcRequestNextFull h) = beside h := by
  unfold shAdcRequestNextFull
  split <;> rfl

theorem beside_adcRequestScan : beside (adcRequestScan h) = beside h := by
  unfold adcRequestScan
  split
  · exact beside_shAdcRequestNextFull _
  · rfl

theorem beside_adcRequestSensIn : beside (adcRequestSensIn h) = beside h := by
  unfold adcRequestSensIn
  split
  · rfl
  · split <;> rfl

theorem beside_update {m : Msg} (hm : m.aside = false) (n : ℕ) :
    beside { h with pending := Function.update h.pending m n } = beside h := by
  have hne (k : Msg) (hk : k.aside = true) : Function.update h.pending m n k = h.pending k := by
    apply Function.update_of_ne
    rintro rfl
    rw [hm] at hk
    exact Bool.false_ne_true hk
  simp [beside, hne .reportTick rfl, hne .i2cRetry rfl, hne .rxPoll rfl, hne .linkCheck rfl]

theorem beside_adcScanTick : beside (adcScanTick h) = beside h := by
  unfold adcScanTick
  dsimp only
  split
  · exact (beside_update _ rfl _).trans (beside_adcRequestScan h)
  · exact beside_adcRequestScan h

theorem beside_adcSensTick : beside (adcSensTick h) = beside h := by
  unfold adcSensTick
  dsimp only
  split
  · exact (beside_update _ rfl _).trans (beside_adcRequestSensIn h)
  · exact beside_adcRequestSensIn h

theorem beside_adcResult (source : AdcSource) (reading : UInt16) :
    beside (adcResult w e source reading h) = beside h := by
  unfold adcResult
  split
  · rfl
  · split
    · split <;> rfl
    · split
      · exact beside_shAdcRequestNextFull _
      · rfl

theorem beside_adcInit : beside (adcInit h) = beside h := by
  simp [beside, adcInit, Helmet.sendLater, Helmet.cancelAll]

theorem beside_adcStop : beside (adcStop h) = beside h := by
  unfold adcStop
  dsimp only
  split
  · simp [beside, Helmet.cancelAll]
  · rfl

end Adc

section Stop

variable (w : World) (h : Helmet)

theorem beside_reportStop : beside (reportStop h) = { beside h with ticks := 0 } := by
  simp [beside, reportStop, Helmet.cancelAll]

theorem beside_sensorsStopVerify : beside (sensorsStopVerify h) =
    { beside h with retries := if h.sensors.probeTask then 0 else h.pending .i2cRetry } := by
  unfold sensorsStopVerify
  cases h.sensors.probeTask with
  | true => simp [beside, Helmet.cancelAll]
  | false => simp [beside]

theorem beside_uartStopVerify (ht : h.link.task = true) :
    beside (uartStopVerify h) = { beside h with checks := 0 } ∧ (uartStopVerify h).link.task = true := by
  unfold uartStopVerify
  simp [beside, Helmet.cancelAll, ht]

theorem beside_uartClose (ht : h.link.task = true) :
    beside (uartClose w h) = { beside h with rxPolls := 0, checks := 0, opened := false } := by
  unfold uartClose
  dsimp only
  generalize hexit : (if h.link.opened = true then shWisunSendProbe w "exit" h else h) = left
  have hleft : beside left = beside h ∧ left.link.task = true := by
    rw [← hexit]
    split
    · exact ⟨rfl, ht⟩
    · exact ⟨rfl, ht⟩
  obtain ⟨hstop, htask⟩ := beside_uartStopVerify
    { left with link := { left.link with passthrough := false } } hleft.2
  generalize uartStopVerify { left with link := { left.link with passthrough := false } } = stopped
    at hstop htask ⊢
  rw [if_pos htask]
  have hcancel : beside { (Helmet.cancelAll .linkCheck (stopped.cancelAll .rxPoll)) with
      link := { stopped.link with opened := false } } =
      { beside stopped with rxPolls := 0, checks := 0, opened := false } := by
    simp [beside, Helmet.cancelAll]
  refine hcancel.trans ?_
  rw [hstop]
  exact congrArg (fun b : Beside => { b with rxPolls := 0, checks := 0, opened := false }) hleft.1

theorem beside_uartSleep (ht : h.link.task = true) :
    beside (uartSleep w h) = { beside h with rxPolls := 0, checks := 0, opened := false } := by
  unfold uartSleep
  dsimp only
  obtain ⟨hstop, htask⟩ := beside_uartStopVerify h ht
  generalize uartStopVerify h = stopped at hstop htask ⊢
  generalize hexit : (if stopped.link.passthrough = true ∧ stopped.link.opened = true
    then _ else stopped) = left
  have hleft : beside left = { beside h with checks := 0 } ∧ left.link.task = true := by
    rw [← hstop, ← hexit]
    split
    · exact ⟨rfl, htask⟩
    · exact ⟨rfl, htask⟩
  have hclose := beside_uartClose w { left with link := { left.link with
    wisun := { left.link.wisun with online := false } } } hleft.2
  refine hclose.trans ?_
  exact congrArg (fun b : Beside => { b with rxPolls := 0, checks := 0, opened := false }) hleft.1

theorem still_uartClose (hs : beside h = .still) : beside (uartClose w h) = .still := by
  cases ht : h.link.task with
  | true =>
    rw [beside_uartClose w h ht, hs]
    rfl
  | false =>
    have hopened : h.link.opened = false := congrArg Beside.opened hs
    unfold uartClose uartStopVerify
    simp only [hopened, ht, Bool.false_eq_true, ↓reduceIte]
    rw [← hs]
    simp [beside, hopened]

theorem beside_powerOff (hp : h.powered = true) (ht : h.link.task = true) (hprobe : h.sensors.probeTask = true) :
    beside (powerOff w h) = .still := by
  unfold powerOff
  rw [hp, if_neg (by simp)]
  dsimp only
  let quiet := Helmet.cancelAll .motionPoll (reportStop (clearMotion { h with powered := false }))
  have hquiet : beside quiet = { beside h with ticks := 0 } := by
    simp [quiet, beside, reportStop, clearMotion, Helmet.cancelAll]
  have hstop : beside (sensorsSleep (sensorsStopVerify quiet)) = { beside h with ticks := 0, retries := 0 } := by
    refine (beside_sensorsStopVerify quiet).trans ?_
    rw [hquiet, if_pos (show quiet.sensors.probeTask = true from hprobe)]
  have htask : (sensorsSleep (sensorsStopVerify quiet)).link.task = true :=
    (congrArg Link.task (link_sensorsStopVerify quiet)).trans ht
  rw [beside_adcStop, beside_uartSleep w _ htask, hstop]
  rfl

theorem beside_close (hs : beside h = .still ∨ h.link.task = true ∧ h.sensors.probeTask = true) :
    beside (close w h) = .still := by
  unfold close
  dsimp only
  let quiet := adcStop ((reportStop (sensorsStopVerify h)).cancelAll .motionPoll)
  have hquiet : beside quiet = { beside (sensorsStopVerify h) with ticks := 0 } := by
    refine (beside_adcStop _).trans ?_
    rw [← beside_reportStop]
    exact beside_update _ rfl 0
  have hlink : quiet.link = h.link := (link_adcStop _).trans (link_sensorsStopVerify h)
  change beside (uartClose w quiet) = .still
  rw [beside_sensorsStopVerify] at hquiet
  rcases hs with hs | ⟨ht, hprobe⟩
  · have hretries : h.pending .i2cRetry = 0 := congrArg Beside.retries hs
    apply still_uartClose
    rw [hquiet, hs, hretries, ite_self]
    rfl
  · rw [beside_uartClose w quiet (by rw [hlink]; exact ht), hquiet, if_pos hprobe]
    rfl

end Stop

def Session.timers (s : Session) : Session :=
  { s with since := false, holding := false, quiet := 0, prev := none, reports := [] }

theorem report_timers (s : Session) : s.report.timers = s.timers := by
  unfold Session.report Session.latch
  dsimp only
  split_ifs <;> rfl

structure TimersKept (s : Session) (b : Beside) (cold : Bool) : Prop where
  logs : s.logs = 0
  ready : s.ready = false → s.powered = false ∧ cold = false
  on : s.powered = true → cold = false ∧ s.linkTask = true ∧ s.probeTask = true ∧ s.adcTask = true ∧
    s.polls = 1 ∧ s.scans = 1 ∧ s.senses = 1
  off : s.powered = false → b = .still ∧ s.polls = 0 ∧ s.scans = cold.toNat ∧ s.senses = cold.toNat ∧
    (cold = true → s.adcTask = true)

section Steps

variable {s s' : Session} {b b' : Beside} {cold : Bool}

theorem TimersKept.congr (hk : TimersKept s b cold) (hs : s'.timers = s.timers)
    (hb : s.powered = false → b' = b) : TimersKept s' b' cold := by
  have hk' : TimersKept s.timers b' cold := by
    refine ⟨hk.logs, hk.ready, hk.on, ?_⟩
    intro hoff
    rw [hb hoff]
    exact hk.off hoff
  rw [← hs] at hk'
  exact ⟨hk'.logs, hk'.ready, hk'.on, hk'.off⟩

theorem TimersKept.off_scans (hk : TimersKept s b cold) :
    (if s.adcTask then 0 else s.scans) = 0 ∧ (if s.adcTask then 0 else s.senses) = 0 := by
  cases hp : s.powered with
  | true =>
    obtain ⟨_, _, _, hadc, _⟩ := hk.on hp
    simp [hadc]
  | false =>
    obtain ⟨_, _, hscans, hsenses, hadc⟩ := hk.off hp
    cases hadc' : s.adcTask with
    | true => simp
    | false =>
      have hwarm : cold = false := by
        by_contra hne
        rw [hadc (Bool.not_eq_false _ ▸ hne)] at hadc'
        exact Bool.false_ne_true hadc'.symm
      rw [hscans, hsenses, hwarm]
      exact ⟨rfl, rfl⟩

theorem TimersKept.close (hk : TimersKept s b cold) : TimersKept s.close .still false := by
  obtain ⟨hscans, hsenses⟩ := hk.off_scans
  exact ⟨hk.logs, fun _ => ⟨rfl, rfl⟩, fun h => absurd h Bool.false_ne_true,
    fun _ => ⟨rfl, rfl, hscans, hsenses, fun h => absurd h Bool.false_ne_true⟩⟩

theorem TimersKept.switchOff (hk : TimersKept s b cold) (hp : s.powered = true) :
    TimersKept s.off .still cold := by
  obtain ⟨hscans, hsenses⟩ := hk.off_scans
  obtain ⟨hcold, _⟩ := hk.on hp
  subst hcold
  refine ⟨hk.logs, ?_, fun h => absurd h Bool.false_ne_true,
    fun _ => ⟨rfl, rfl, hscans, hsenses, fun h => absurd h Bool.false_ne_true⟩⟩
  intro hr
  exact ⟨rfl, rfl⟩

theorem TimersKept.switchOn (hk : TimersKept s b cold) (hr : s.ready = true) :
    TimersKept s.on b' false := by
  have hon : s.on.timers = { s.timers with
      powered := true
      scans := 1
      senses := 1
      adcTask := true
      probeTask := true
      linkTask := true
      polls := 1 } :=
    congrArg (fun t : Session => { t with polls := 1 }) (report_timers { s with
      powered := true
      scans := 1
      senses := 1
      adcTask := true
      probeTask := true
      linkTask := true })
  have hpowered : s.on.powered = true := congrArg Session.powered hon
  refine ⟨(congrArg Session.logs hon).trans hk.logs, ?_, fun _ => ⟨rfl, congrArg Session.linkTask hon,
    congrArg Session.probeTask hon, congrArg Session.adcTask hon, congrArg Session.polls hon,
    congrArg Session.scans hon, congrArg Session.senses hon⟩, ?_⟩
  · intro hnot
    have hready := congrArg Session.ready hon
    change s.on.ready = s.ready at hready
    exact absurd (hnot.symm.trans (hready.trans hr)) Bool.false_ne_true
  · intro hoff
    rw [hpowered] at hoff
    exact absurd hoff.symm Bool.false_ne_true

theorem TimersKept.start (hk : TimersKept s .still false) (hp : s.powered = false) :
    TimersKept s.init .still true :=
  ⟨rfl, fun h => absurd h.symm Bool.false_ne_true,
    fun h => absurd (hp.symm.trans h) Bool.false_ne_true,
    fun _ => ⟨rfl, (hk.off hp).2.1, rfl, rfl, fun _ => rfl⟩⟩

end Steps

section Runs

variable (w : World) (e : Env) {h : Helmet} {cold : Bool}

def KeepsTimers (h : Helmet) (cold : Bool) : Prop := TimersKept (session h) (beside h) cold

theorem beside_init (hs : beside h = .still ∨ h.link.task = true ∧ h.sensors.probeTask = true)
    (hr : h.ready = false → beside h = .still) : beside (init w e h) = .still := by
  have hclosed : beside (if h.ready then Firmware.close w h else h) = .still := by
    split
    · exact beside_close w h hs
    · next hnot => exact hr (Bool.eq_false_iff.mpr hnot)
  unfold init
  dsimp only
  generalize (if h.ready = true then Firmware.close w h else h) = t at hclosed ⊢
  split
  · exact hclosed
  · refine Eq.trans ?_ ((beside_adcInit t).trans hclosed)
    exact beside_update (m := .logTick)
      { adcInit t with sensors := { (adcInit t).sensors with logTask := true } } rfl 0

theorem KeepsTimers.closable (hk : KeepsTimers h cold) :
    beside h = .still ∨ h.link.task = true ∧ h.sensors.probeTask = true := by
  cases hp : h.powered with
  | true =>
    obtain ⟨_, htask, hprobe, _⟩ := hk.on hp
    exact Or.inr ⟨htask, hprobe⟩
  | false => exact Or.inl (hk.off hp).1

theorem keepsTimers_init (hk : KeepsTimers h cold) : KeepsTimers (init w e h) e.i2cInit := by
  have hstill : beside (init w e h) = .still := by
    apply beside_init w e hk.closable
    intro hr
    exact (hk.off (hk.ready hr).1).1
  unfold KeepsTimers
  rw [hstill, session_init]
  have hclosed : TimersKept (if h.ready then (session h).close else session h) .still false ∧
      (if h.ready then (session h).close else session h).powered = false := by
    split
    · exact ⟨hk.close, rfl⟩
    · next hnot =>
      obtain ⟨hp, hcold⟩ := hk.ready (Bool.eq_false_iff.mpr hnot)
      have hk' : TimersKept (session h) (beside h) cold := hk
      rw [hcold, (hk.off hp).1] at hk'
      exact ⟨hk', hp⟩
  cases e.i2cInit with
  | true => exact hclosed.1.start hclosed.2
  | false => exact hclosed.1

theorem keepsTimers_powerOn (hk : KeepsTimers h cold) : KeepsTimers (powerOn w e h) false := by
  unfold KeepsTimers
  rw [session_powerOn]
  split
  · next hskip =>
    have hcold : cold = false := by
      rcases hskip with hr | hp
      · exact (hk.ready (Bool.eq_false_iff.mpr hr)).2
      · exact (hk.on hp).1
    have hsame : powerOn w e h = h := if_pos hskip
    rw [hsame, ← hcold]
    exact hk
  · next hgo =>
    apply hk.switchOn
    by_contra hr
    exact hgo (Or.inl hr)

theorem keepsTimers_powerOff (hk : KeepsTimers h cold) : KeepsTimers (powerOff w h) cold := by
  cases hp : h.powered with
  | true =>
    obtain ⟨_, htask, hprobe, _⟩ := hk.on hp
    unfold KeepsTimers
    rw [session_powerOff, beside_powerOff w h hp htask hprobe, if_pos hp]
    exact hk.switchOff hp
  | false =>
    have hsame : powerOff w h = h := if_pos (by rw [hp]; exact Bool.false_ne_true)
    rw [hsame]
    exact hk

theorem KeepsTimers.scans (hk : KeepsTimers h cold) :
    (if h.adc.task then h.pending .adcScan else h.pending .adcScan - 1) = h.pending .adcScan ∧
      (if h.adc.task then h.pending .adcSens else h.pending .adcSens - 1) = h.pending .adcSens := by
  cases htask : h.adc.task with
  | true => exact ⟨rfl, rfl⟩
  | false =>
    have hzero : (if h.adc.task then 0 else h.pending .adcScan) = 0 ∧
        (if h.adc.task then 0 else h.pending .adcSens) = 0 := TimersKept.off_scans hk
    rw [htask] at hzero
    have hscan : h.pending .adcScan = 0 := hzero.1
    have hsens : h.pending .adcSens = 0 := hzero.2
    rw [hscan, hsens]
    exact ⟨rfl, rfl⟩

theorem KeepsTimers.none_pending (hk : KeepsTimers h cold) {m : Msg} (hp : h.powered = false)
    (hm : m ≠ .adcScan) (hm' : m ≠ .adcSens) : h.pending m = 0 := by
  obtain ⟨hstill, hpolls, _⟩ := hk.off hp
  cases m with
  | reportTick => exact congrArg Beside.ticks hstill
  | motionPoll => exact hpolls
  | i2cRetry => exact congrArg Beside.retries hstill
  | logTick => exact hk.logs
  | adcScan => exact absurd rfl hm
  | adcSens => exact absurd rfl hm'
  | rxPoll => exact congrArg Beside.rxPolls hstill
  | linkCheck => exact congrArg Beside.checks hstill

theorem keepsTimers_adc (hk : KeepsTimers h cold) (chunks : List (List UInt8)) :
    KeepsTimers (step w h e (.timer .adcScan chunks)) cold ∧
      KeepsTimers (step w h e (.timer .adcSens chunks)) cold := by
  obtain ⟨hscans, hsenses⟩ := hk.scans
  have hdeliver {m : Msg} (hm : m.aside = false) : beside (h.deliver m) = beside h := beside_update h hm _
  constructor
  · have hsession : session (step w h e (.timer .adcScan chunks)) = session h := by
      rw [session_step_adcScan, hscans]
      rfl
    have hbeside : beside (step w h e (.timer .adcScan chunks)) = beside h := by
      by_cases hn : 0 < h.pending .adcScan
      · have hstep : step w h e (.timer .adcScan chunks) = adcScanTick (h.deliver .adcScan) := if_pos hn
        rw [hstep, beside_adcScanTick, hdeliver rfl]
      · exact congrArg beside (if_neg hn)
    unfold KeepsTimers
    rw [hsession, hbeside]
    exact hk
  · have hsession : session (step w h e (.timer .adcSens chunks)) = session h := by
      rw [session_step_adcSens, hsenses]
      rfl
    have hbeside : beside (step w h e (.timer .adcSens chunks)) = beside h := by
      by_cases hn : 0 < h.pending .adcSens
      · have hstep : step w h e (.timer .adcSens chunks) = adcSensTick (h.deliver .adcSens) := if_pos hn
        rw [hstep, beside_adcSensTick, hdeliver rfl]
      · exact congrArg beside (if_neg hn)
    unfold KeepsTimers
    rw [hsession, hbeside]
    exact hk

theorem keepsTimers_timer (hk : KeepsTimers h cold) (m : Msg) (chunks : List (List UInt8)) :
    KeepsTimers (step w h e (.timer m chunks)) cold := by
  by_cases hscan : m = .adcScan
  · subst hscan
    exact (keepsTimers_adc w e hk chunks).1
  by_cases hsens : m = .adcSens
  · subst hsens
    exact (keepsTimers_adc w e hk chunks).2
  cases hp : h.powered with
  | false =>
    have hzero := hk.none_pending hp hscan hsens
    have hstep : step w h e (.timer m chunks) = h := if_neg (by rw [hzero]; exact Nat.lt_irrefl 0)
    rw [hstep]
    exact hk
  | true =>
    have hon (hs : (session (step w h e (.timer m chunks))).timers = (session h).timers) :
        KeepsTimers (step w h e (.timer m chunks)) cold := by
      apply TimersKept.congr hk hs
      intro hoff
      exact absurd (hoff.symm.trans hp) Bool.false_ne_true
    have haside (hm : m.aside = true) : KeepsTimers (step w h e (.timer m chunks)) cold := by
      apply hon
      rcases session_step_aside w e h hm chunks with hs | hs
      · rw [hs]
      · rw [hs, report_timers]
    cases m with
    | adcScan => exact absurd rfl hscan
    | adcSens => exact absurd rfl hsens
    | motionPoll =>
      obtain ⟨_, _, _, _, hpolls, _⟩ := hk.on hp
      apply hon
      rw [session_step_motionPoll w e h chunks hp (by rw [show h.pending .motionPoll = 1 from hpolls]; exact one_pos)]
      split <;> rfl
    | logTick =>
      have hzero : h.pending .logTick = 0 := hk.logs
      have hstep : step w h e (.timer .logTick chunks) = h := if_neg (by rw [hzero]; exact Nat.lt_irrefl 0)
      rw [hstep]
      exact hk
    | _ => exact haside rfl

theorem keepsTimers_step (hk : KeepsTimers h cold) {ev : Event} (hchk : ev.isChk = false) :
    KeepsTimers (step w h e ev) (noteCold cold (e, ev)) := by
  cases ev with
  | init => exact keepsTimers_init w e hk
  | powerOn => exact keepsTimers_powerOn w e hk
  | powerOff => exact keepsTimers_powerOff w hk
  | close =>
    unfold KeepsTimers
    have hstep : step w h e .close = Firmware.close w h := rfl
    rw [hstep, beside_close w h hk.closable, session_close]
    exact hk.close
  | uiRefresh state =>
    have hrefresh : step w h e (.uiRefresh state) =
        if uiStateIsOn state then powerOn w e h else if h.powered then powerOff w h else h := rfl
    rw [hrefresh, noteCold]
    dsimp only
    cases uiStateIsOn state with
    | true =>
      rw [Bool.not_true, Bool.and_false]
      exact keepsTimers_powerOn w e hk
    | false =>
      rw [Bool.not_false, Bool.and_true]
      split
      · next hoff => exact absurd hoff Bool.false_ne_true
      · split
        · exact keepsTimers_powerOff w hk
        · exact hk
  | lis3dhChk enable => exact absurd hchk.symm Bool.false_ne_true
  | timer m chunks => exact keepsTimers_timer w e hk m chunks
  | moreData chunks =>
    apply TimersKept.congr hk (congrArg Session.timers (session_shUartDrain w e h chunks))
    intro hoff
    have hopened : h.link.opened = false := congrArg Beside.opened (hk.off hoff).1
    have hstep : step w h e (.moreData chunks) = h := if_neg (by rw [hopened]; exact Bool.false_ne_true)
    rw [hstep]
  | adcResult source reading =>
    exact TimersKept.congr hk (congrArg Session.timers (session_adcResult w e h source reading))
      (fun _ => beside_adcResult w e h source reading)

theorem keepsTimers_run (events : List (Env × Event)) (hchk : ∀ ev ∈ events, ev.2.isChk = false) :
    KeepsTimers (runHelmet w events) (coldStarted events) := by
  induction events using List.reverseRecOn with
  | nil =>
    exact ⟨rfl, fun _ => ⟨rfl, rfl⟩, fun h => absurd h Bool.false_ne_true,
      fun _ => ⟨rfl, rfl, rfl, rfl, fun h => absurd h Bool.false_ne_true⟩⟩
  | append_singleton events ev ih =>
    have hk := ih (fun x hx => hchk x (List.mem_append_left _ hx))
    have hev : ev.2.isChk = false := hchk ev (by simp)
    have hcold : coldStarted (events ++ [ev]) = noteCold (coldStarted events) ev := by
      simp only [coldStarted, List.foldl_append, List.foldl_cons, List.foldl_nil]
    rw [runHelmet_concat, hcold]
    exact keepsTimers_step w ev.1 hk hev

/-- In every state of every run the module is quiescent unless it was initialised and has not been
powered or closed since. -/
theorem quiescent_iff_not_cold (events : List (Env × Event)) (hchk : ∀ ev ∈ events, ev.2.isChk = false) :
    Quiescent (runHelmet w events) ↔ coldStarted events = false := by
  have hk := keepsTimers_run w events hchk
  constructor
  · intro hq
    cases hp : (runHelmet w events).powered with
    | true => exact (hk.on hp).1
    | false =>
      have hzero : (runHelmet w events).pending .adcScan = 0 := hq.off hp .adcScan (by decide)
      have hcold : (runHelmet w events).pending .adcScan = (coldStarted events).toNat := (hk.off hp).2.2.1
      rw [hzero] at hcold
      exact (Bool.toNat_eq_zero.mp hcold.symm)
  · intro hwarm
    constructor
    · intro hp m hm
      obtain ⟨_, _, hscans, hsenses, _⟩ := hk.off hp
      rw [hwarm] at hscans hsenses
      by_cases hscan : m = .adcScan
      · subst hscan
        exact hscans
      by_cases hsens : m = .adcSens
      · subst hsens
        exact hsenses
      exact hk.none_pending hp hscan hsens
    · intro hp
      exact (hk.on hp).2.2.2.2

end Runs

theorem quiescent_iff_not_cold_powered :
    (∀ ev ∈ poweredRun, ev.2.isChk = false) ∧
      (Quiescent (runHelmet plainWorld poweredRun) ↔ coldStarted poweredRun = false) := by
  have hchk : ∀ ev ∈ poweredRun, ev.2.isChk = false := by
    intro ev hev
    fin_cases hev <;> rfl
  exact ⟨hchk, quiescent_iff_not_cold plainWorld poweredRun hchk⟩

theorem not_quiescent_after_init : ¬ Quiescent (runHelmet plainWorld [(plainEnv, .init)]) := by
  intro hq
  exact absurd (hq.off rfl .adcSens (by decide)) (by decide)

end SmartHelmet.Firmware
