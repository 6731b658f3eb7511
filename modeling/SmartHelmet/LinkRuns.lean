import SmartHelmet.PowerSimulation

namespace SmartHelmet.Firmware

open Relation Phase

variable {allowed : Phase → Prop}

def eventOk (w : World) (e : Env) (ok : Helmet → Prop) (h : Helmet) : Event → Prop
  | .moreData chunks => h.link.opened = true → chunksOk w e ok h chunks
  | .timer .rxPoll chunks =>
    0 < h.pending .rxPoll → h.link.opened = true → chunksOk w e ok (h.deliver .rxPoll) chunks
  | _ => True

def runOk (w : World) (ok : Helmet → Prop) (h : Helmet) : List (Env × Event) → Prop
  | [] => True
  | (e, ev) :: events => eventOk w e ok h ev ∧ runOk w ok (step w h e ev) events

section Steps

variable (w : World) (e : Env) {h : Helmet}

theorem shUartDrain_path_of_opened {chunks : List (List UInt8)} (h : Helmet)
    (hok : h.link.opened = true → chunksOk w e (fun h => allowed (view h)) h chunks) :
    Path allowed (view h) (view (shUartDrain w e chunks h)) := by
  by_cases hopen : h.link.opened = true
  · exact shUartDrain_path w e chunks h (hok hopen)
  · rw [shUartDrain, if_neg hopen]
    exact ReflTransGen.refl

theorem timer_path (m : Msg) (chunks : List (List UInt8)) (hsettled : (view h).Settled)
    (hpending : 0 < h.pending m)
    (hok : eventOk w e (fun h => allowed (view h)) h (.timer m chunks)) :
    Path allowed (view h) (view (onTimer w e m chunks (h.deliver m))) := by
  cases m with
  | reportTick =>
    -- The delivered tick is gone from the queue until the report ends.
    have hpath : Path allowed _ _ := reportStart_path w e (h.deliver .reportTick)
    have harmed : (view (h.deliver .reportTick)).armed = view h := by
      rw [view_deliver_armed, Phase.armed, view]
      simp [hpending]
    rwa [harmed] at hpath
  | motionPoll =>
    rw [← view_deliver h (show Msg.motionPoll ≠ .reportTick by decide)]
    exact Path.of_eq (view_motionPoll e _ w)
  | i2cRetry =>
    rw [← view_deliver h (show Msg.i2cRetry ≠ .reportTick by decide), ← view_shSensorsVerifyPass e]
    exact afterSensors_path w e _
  | logTick =>
    rw [← view_deliver h (show Msg.logTick ≠ .reportTick by decide)]
    refine (shLis3dhLogSample_path w e _).trans ?_
    rw [← view_shLis3dhLogArm]
    exact afterSensors_path w e _
  | adcScan =>
    rw [← view_deliver h (show Msg.adcScan ≠ .reportTick by decide)]
    exact Path.of_eq (view_adcScanTick _)
  | adcSens =>
    rw [← view_deliver h (show Msg.adcSens ≠ .reportTick by decide)]
    exact Path.of_eq (view_adcSensTick _)
  | rxPoll =>
    rw [← view_deliver h (show Msg.rxPoll ≠ .reportTick by decide), onTimer, view_shRxPollArm]
    exact shUartDrain_path_of_opened w e _ (hok hpending)
  | linkCheck =>
    have hview := view_deliver h (show Msg.linkCheck ≠ .reportTick by decide)
    rw [← hview] at hsettled ⊢
    exact shWisunOnTimeout_path w e hsettled

theorem step_path (ev : Event) (hsettled : (view h).Settled)
    (hok : eventOk w e (fun h => allowed (view h)) h ev) :
    Path allowed (view h) (view (step w h e ev)) := by
  cases ev with
  | init => exact init_path w e h
  | powerOn => exact powerOn_path w e h
  | powerOff => exact powerOff_path w h
  | close => exact close_path w h
  | uiRefresh state => exact uiRefresh_path w e h state
  | lis3dhChk enable => exact lis3dhChk_path w e h enable
  | timer m chunks =>
    by_cases hpending : 0 < h.pending m
    · rw [step, if_pos hpending]
      exact timer_path w e m chunks hsettled hpending hok
    · rw [step, if_neg hpending]
      exact ReflTransGen.refl
  | moreData chunks => exact shUartDrain_path_of_opened w e h hok
  | adcResult source reading => exact Path.of_eq (view_adcResult h w e source reading)

theorem steps_path (events : List (Env × Event)) :
    ∀ h : Helmet, (view h).Settled → runOk w (fun h => allowed (view h)) h events →
      Path allowed (view h) (view (steps w h events)) := by
  induction events with
  | nil => exact fun h _ _ => ReflTransGen.refl
  | cons ev events ih =>
    intro h hsettled hok
    have hstep := step_path w ev.1 ev.2 hsettled hok.1
    exact hstep.trans (ih _ (hstep.settled hsettled) hok.2)

end Steps

theorem runHelmet_path (w : World) (events : List (Env × Event))
    (hok : runOk w (fun h => allowed (view h)) .boot events) :
    Path allowed (view .boot) (view (runHelmet w events)) :=
  steps_path w events .boot (fun hp => absurd hp (by decide)) hok

/-- Where every late `send ok` finds a tick pending, a set flag always has one pending. -/
theorem reportTick_pending_of_passthrough (w : World) (events : List (Env × Event))
    (hok : runOk w (fun h => 0 < h.pending .reportTick) .boot events)
    (hp : (runHelmet w events).link.passthrough = true) :
    0 < (runHelmet w events).pending .reportTick := by
  have hticking : (fun h : Helmet => 0 < h.pending .reportTick) = fun h => (view h).ticking = true := by
    funext h
    simp [view]
  rw [hticking] at hok
  have hpath : Path (fun a => a.ticking = true) _ _ := runHelmet_path w events hok
  have hboot : (view .boot).Reporting := fun hp => absurd hp (by decide)
  have hreport := path_keeps (fun _ _ hm => hm.reporting (fun _ ha => ha)) hpath hboot
  simpa [view] using hreport hp

def silentBringUp : List (Env × Event) :=
  poweredRun ++ List.replicate 7 (plainEnv, .timer .linkCheck [])

theorem reportTick_pending_after_bringUp :
    (runHelmet plainWorld silentBringUp).link.passthrough = true ∧
      0 < (runHelmet plainWorld silentBringUp).pending .reportTick := by
  have hp : (runHelmet plainWorld silentBringUp).link.passthrough = true := by decide +kernel
  have hok : runOk plainWorld (fun h => 0 < h.pending .reportTick) .boot silentBringUp := by
    repeat' constructor
  exact ⟨hp, reportTick_pending_of_passthrough plainWorld silentBringUp hok hp⟩

theorem reportTick_lost :
    let h := runHelmet plainWorld (silentBringUp ++
      [(plainEnv, .moreData [bytes "send fail\r\n"]), (plainEnv, .moreData [bytes "send ok\r\n"])])
    h.powered = true ∧ h.link.passthrough = true ∧ h.pending .reportTick = 0 := by
  decide +kernel

/-- Where every late `send ok` is taken after `+++`, a set flag follows `+++`, and so does
all payload. -/
theorem passthrough_follows_pass (w : World) (events : List (Env × Event))
    (hok : runOk w (fun h => h.link.step = .pass) .boot events) :
    ((runHelmet w events).link.passthrough = true → lastMode (runHelmet w events).log = some .pass) ∧
      ∀ newer older frame ok, (runHelmet w events).log = newer ++ .tx .payload frame ok :: older →
        lastMode older = some .pass := by
  have hpath : Path (fun a => a.step = .pass) _ _ := runHelmet_path w events hok
  have hboot : (view .boot).Told := ⟨fun hp => absurd hp (by decide), fun hs => absurd hs (by decide), rfl⟩
  have htold := path_keeps (fun _ _ hm => hm.told (fun _ ha => ha)) hpath hboot
  refine ⟨htold.flag, ?_⟩
  intro newer older frame ok hlog
  have haimed : misdirected (runHelmet w events).log = false := htold.aimed
  rw [hlog] at haimed
  exact lastMode_of_misdirected haimed

theorem passthrough_follows_pass_after_bringUp :
    (runHelmet plainWorld silentBringUp).link.passthrough = true ∧
      lastMode (runHelmet plainWorld silentBringUp).log = some .pass := by
  have hp : (runHelmet plainWorld silentBringUp).link.passthrough = true := by decide +kernel
  have hok : runOk plainWorld (fun h => h.link.step = .pass) .boot silentBringUp := by
    repeat' constructor
  exact ⟨hp, (passthrough_follows_pass plainWorld silentBringUp hok).1 hp⟩

theorem payload_in_command_mode :
    let h := runHelmet plainWorld (poweredRun ++ [(plainEnv, .moreData [bytes "send ok\r\n"])])
    let h' := step plainWorld h plainEnv (.timer .reportTick [])
    h.link.passthrough = true ∧ lastMode h.log = some .exit ∧ misdirected h'.log = true := by
  decide +kernel

end SmartHelmet.Firmware
