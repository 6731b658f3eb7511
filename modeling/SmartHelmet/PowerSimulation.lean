import SmartHelmet.DialogueSimulation

namespace SmartHelmet.Firmware

open Relation Phase

variable {allowed : Phase → Prop}

section Power

variable (w : World) (e : Env) (h : Helmet)

theorem Commanded.of_view {h h' : Helmet} {ticking : Bool} {told : Option Mode} {s : Step}
    (hs : s ≠ .pass) (hview : view h' =
      { view h with passthrough := false, step := s, ticking := ticking, told := told }) :
    Commanded h h' := by
  refine ⟨congrArg Phase.passthrough hview, ?_, congrArg Phase.misdirected hview⟩
  intro hpass
  exact hs ((congrArg Phase.step hview).symm.trans hpass)

theorem view_uartStopVerify : view (uartStopVerify h) = { view h with step := .idle } := by
  have hcancel : view (h.cancelAll .linkCheck) = view h := view_cancelAll _ (by decide)
  unfold uartStopVerify
  dsimp only
  split
  · exact congrArg (fun a : Phase => { a with step := .idle }) hcancel
  · rfl

theorem view_uartClose :
    ∃ told, view (uartClose w h) = { view h with passthrough := false, step := .idle, told := told } := by
  unfold uartClose
  dsimp only
  generalize hexit : (if h.link.opened = true then shWisunSendProbe w "exit" h else h) = left
  have hleft : ∃ told, view left = { view h with told := told } := by
    rw [← hexit]
    split
    · exact ⟨_, rfl⟩
    · exact ⟨_, rfl⟩
  obtain ⟨told, hleft⟩ := hleft
  generalize hstop : uartStopVerify { left with link := { left.link with passthrough := false } } = stopped
  have hstopped : view stopped = { view h with passthrough := false, step := .idle, told := told } := by
    rw [← hstop, view_uartStopVerify]
    exact congrArg (fun a : Phase => { a with passthrough := false, step := .idle }) hleft
  refine ⟨told, ?_⟩
  rw [← hstopped]
  split
  · have hcancel : view (Helmet.cancelAll .linkCheck (stopped.cancelAll .rxPoll)) = view stopped := by
      rw [view_cancelAll _ (by decide), view_cancelAll _ (by decide)]
    exact hcancel
  · rfl

theorem view_uartSleep :
    ∃ told, view (uartSleep w h) = { view h with passthrough := false, step := .idle, told := told } := by
  unfold uartSleep
  dsimp only
  have hstopped := view_uartStopVerify h
  generalize uartStopVerify h = stopped at hstopped
  generalize hexit : (if stopped.link.passthrough = true ∧ stopped.link.opened = true
    then _ else stopped) = left
  have hleft : ∃ p told, view left = { view h with passthrough := p, step := .idle, told := told } := by
    rw [← hexit]
    split
    · exact ⟨false, some .exit, congrArg (fun a : Phase =>
        { a with passthrough := false, told := some .exit }) hstopped⟩
    · exact ⟨_, _, hstopped⟩
  obtain ⟨p, told, hleft⟩ := hleft
  obtain ⟨told', hclose⟩ := view_uartClose w
    { left with link := { left.link with wisun := { left.link.wisun with online := false } } }
  refine ⟨told', hclose.trans ?_⟩
  exact congrArg (fun a : Phase => { a with passthrough := false, step := .idle, told := told' }) hleft

theorem powerOff_path : Path allowed (view h) (view (powerOff w h)) := by
  unfold powerOff
  split
  · exact ReflTransGen.refl
  · dsimp only
    rw [view_adcStop]
    obtain ⟨told, hsleep⟩ := view_uartSleep w (sensorsSleep (sensorsStopVerify
      (Helmet.cancelAll .motionPoll (reportStop (clearMotion { h with powered := false })))))
    have hstop : view (sensorsSleep (sensorsStopVerify (Helmet.cancelAll .motionPoll
        (reportStop (clearMotion { h with powered := false }))))) =
        { view h with ticking := false } := by
      rw [sensorsSleep, view_sensors, view_sensorsStopVerify, view_cancelAll _ (by decide), view_reportStop]
      rfl
    rw [hstop] at hsleep
    exact (Commanded.of_view (by decide) hsleep).path

theorem close_path : Path allowed (view h) (view (close w h)) := by
  unfold close
  dsimp only
  obtain ⟨told, hclose⟩ := view_uartClose w
    (adcStop (Helmet.cancelAll .motionPoll (reportStop (sensorsStopVerify h))))
  rw [view_adcStop, view_cancelAll _ (by decide), view_reportStop, view_sensorsStopVerify] at hclose
  exact (Commanded.of_view (by decide) hclose).path

theorem init_path : Path allowed (view h) (view (init w e h)) := by
  unfold init
  dsimp only
  generalize hclosed : (if h.ready = true then close w h else h) = closed
  have hpath : Path allowed (view h) (view closed) := by
    rw [← hclosed]
    split
    · exact close_path w h
    · exact ReflTransGen.refl
  split
  · exact hpath
  · refine hpath.trans (Path.of_eq ?_)
    have hcancel : view (Helmet.cancelAll .logTick
        { adcInit closed with sensors := { (adcInit closed).sensors with logTask := true } }) =
        view closed := by
      rw [view_cancelAll _ (by decide), view_sensors, view_adcInit]
    exact hcancel

theorem uartStartVerify_commanded : Commanded h (uartStartVerify w h) :=
  leavePassthrough_commanded w .reset rfl rfl

theorem powerOn_path : Path allowed (view h) (view (powerOn w e h)) := by
  unfold powerOn
  split
  · exact ReflTransGen.refl
  · dsimp only
    rw [view_sendLater _ (by decide), view_cancelAll _ (by decide)]
    generalize hup : uartInit e (Helmet.vitalsInit (sensorsStartVerify (sensorsInit e
      (adcInit { h with powered := true })))) = up
    have hview : view up = view h := by
      rw [← hup, view_uartInit, view_vitalsInit, view_sensorsStartVerify, sensorsInit, view_sensors,
        view_adcInit]
      rfl
    rw [← hview]
    refine (uartStartVerify_commanded w up).path.trans ?_
    have hpath : Path allowed _ _ := reportStart_path_any w e (adcRequestScan (uartStartVerify w up))
    rwa [view_adcRequestScan] at hpath

theorem uiRefresh_path (state : ℕ) : Path allowed (view h) (view (uiRefresh w e state h)) := by
  unfold uiRefresh
  split
  · exact powerOn_path w e h
  · split
    · exact powerOff_path w h
    · exact ReflTransGen.refl

end Power

end SmartHelmet.Firmware
