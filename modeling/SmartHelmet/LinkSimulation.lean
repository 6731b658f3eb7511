import SmartHelmet.LinkView

namespace SmartHelmet.Firmware

open Relation Phase

variable {allowed : Phase → Prop}

def Path (allowed : Phase → Prop) : Phase → Phase → Prop := ReflTransGen (Move allowed)

theorem Path.of_eq {a b : Phase} (h : b = a) : Path allowed a b := by
  rw [h]
  exact ReflTransGen.refl

theorem Path.settled {a b : Phase} (hpath : Path allowed a b) (ha : a.Settled) : b.Settled :=
  path_keeps (fun _ _ hm => hm.settled) hpath ha

section Commands

variable (w : World) (h : Helmet)

structure Commanded (h h' : Helmet) : Prop where
  left : h'.link.passthrough = false
  step : h'.link.step ≠ .pass
  aimed : misdirected h'.log = misdirected h.log

theorem Commanded.path {h h' : Helmet} (hc : Commanded h h') : Path allowed (view h) (view h') := by
  have htarget : view h' = { view h with
      passthrough := false
      step := h'.link.step
      ticking := decide (0 < h'.pending .reportTick)
      told := lastMode h'.log } := by
    unfold view
    rw [hc.left, hc.aimed]
  rw [htarget]
  exact ReflTransGen.single (Move.command _ _ _ hc.step)

theorem view_shWisunSendProbe (cmd : String) :
    view (shWisunSendProbe w cmd h) =
      { view h with told := noteMode (commandFrame cmd) (lastMode h.log) } := rfl

theorem view_leavePassthrough (next : Step) :
    view (leavePassthrough w next h) = { view h with step := .leave, told := some .exit } := by
  rw [leavePassthrough, view_shWisunArm, view_shWisunSendProbe]
  rfl

theorem view_uartRejoin (e : Env) :
    view (uartRejoin w e h) = view h ∨
      view (uartRejoin w e h) =
        { view h with passthrough := false, step := .leave, ticking := false, told := some .exit } := by
  unfold uartRejoin
  split
  · exact Or.inl rfl
  · split
    · exact Or.inl rfl
    · right
      dsimp only
      rw [view_leavePassthrough, view_reportStop]
      have hdrop := view_dropOnline { h with link := { h.link with
        rejoinMs := e.timeUs / 1000
        rejoining := true
        passthrough := false } }
      simp only [view, Phase.mk.injEq] at hdrop ⊢
      exact ⟨hdrop.1, trivial, trivial, trivial, hdrop.2.2.2.2⟩

theorem view_uartNoteReportSent (e : Env) (ok : Bool) :
    view (uartNoteReportSent w e ok h) = view h ∨
      view (uartNoteReportSent w e ok h) =
        { view h with passthrough := false, step := .leave, ticking := false, told := some .exit } := by
  unfold uartNoteReportSent
  split
  · have hrejoin := view_uartRejoin w (dropOnline h) e
    rwa [view_dropOnline] at hrejoin
  · split
    · dsimp only
      split
      · exact view_uartRejoin w _ e
      · exact Or.inl rfl
    · exact Or.inl rfl

theorem uartRejoin_path (e : Env) : Path allowed (view h) (view (uartRejoin w e h)) := by
  rcases view_uartRejoin w h e with hv | hv
  · exact Path.of_eq hv
  · rw [hv]
    exact ReflTransGen.single (Move.command .leave false (some .exit) (by decide))

theorem shOnCmdTooLong_path : Path allowed (view h) (view (shOnCmdTooLong w h)) := by
  unfold shOnCmdTooLong
  dsimp only
  have hstop : view (reportStop { h with link := { h.link with passthrough := false } }) =
      { view h with passthrough := false, ticking := false } := view_reportStop _
  split
  · split
    · rw [hstop]
      exact ReflTransGen.single (Move.stop false)
    · rw [view_leavePassthrough]
      exact ReflTransGen.single (Move.command .leave false (some .exit) (by decide))
  · rw [hstop]
    exact ReflTransGen.single (Move.stop false)

end Commands

section Report

variable (w : World) (e : Env) (h : Helmet)

theorem view_reportSample : view (reportSample w e h) = view h := by
  unfold reportSample
  dsimp only
  split
  · rw [view_vitalsProcess, view_vitalsPushAccel]
    rfl
  · rfl

theorem view_reportBuild : view (reportBuild h).1 = view h := by
  obtain ⟨holding, quiet, since, hlatch⟩ := latchMotion_eq h
  unfold reportBuild
  dsimp only
  rw [view_note _ rfl, hlatch]
  rfl

theorem sendFrames_path (frames : List (List UInt8)) :
    ∀ h : Helmet, h.link.passthrough = true →
      Path allowed (view h).armed (view (sendFrames w frames h).1).armed := by
  induction frames with
  | nil => exact fun h _ => ReflTransGen.refl
  | cons frame frames ih =>
    intro h hp
    have hmove : Move allowed (view h).armed (view (uartSend w .payload frame h).1).armed :=
      Move.payload hp
    unfold sendFrames
    dsimp only
    split
    · exact ReflTransGen.head hmove (ih _ hp)
    · exact ReflTransGen.single hmove

theorem reportStart_path : Path allowed (view h).armed (view (reportStart w e h)) := by
  unfold reportStart
  split
  case isTrue hcan =>
    have hp : h.link.passthrough = true := (Bool.and_eq_true_iff.mp hcan).1
    dsimp only
    generalize hline : (reportBuild (reportSample w e h)).2 = line
    generalize hbuilt : (reportBuild (reportSample w e h)).1 = built
    have hview : view built = view h := by rw [← hbuilt, view_reportBuild, view_reportSample]
    have hp' : built.link.passthrough = true := by
      have := congrArg Phase.passthrough hview
      exact this.trans hp
    have hframes : Path allowed _ _ := sendFrames_path w (reportFrames line) built hp'
    rw [hview] at hframes
    rw [view_reportArm]
    refine hframes.trans ?_
    rw [shSendReportLines]
    dsimp only
    rcases view_uartNoteReportSent w (sendFrames w (reportFrames line) built).1 e
      (sendFrames w (reportFrames line) built).2 with hv | hv
    · rw [hv]
    · rw [hv]
      exact ReflTransGen.single (Move.command .leave true (some .exit) (by decide))
  case isFalse =>
    rw [view_reportArm, view_reportBuild]
    exact ReflTransGen.refl

theorem reportStart_path_any : Path allowed (view h) (view (reportStart w e h)) :=
  ReflTransGen.head Move.tick (reportStart_path w e h)

theorem view_logFeed (x y z : Int16) : view (logFeed w x y z h) = view h := by
  rw [logFeed, view_vitalsProcess, view_vitalsPushAccel]
  rfl

theorem shLis3dhLogSample_path : Path allowed (view h) (view (shLis3dhLogSample w e h)) := by
  unfold shLis3dhLogSample
  split
  · exact ReflTransGen.refl
  · next r _ =>
    rw [← view_logFeed w h r.mg.1 r.mg.2.1 r.mg.2.2]
    generalize logFeed w r.mg.1 r.mg.2.1 r.mg.2.2 h = fed
    unfold logChange
    split
    · rw [← view_sensors fed { fed.sensors with logLast := fed.vitals.status.motion }]
      exact reportStart_path_any w e _
    · exact ReflTransGen.refl

theorem lis3dhChk_path (enable : Bool) : Path allowed (view h) (view (lis3dhChk w e enable h)) := by
  unfold lis3dhChk
  split
  · exact ReflTransGen.refl
  · split
    · rw [view_shLis3dhLogArm]
      exact shLis3dhLogSample_path w e h
    · exact Path.of_eq (view_cancelAll h (by decide))

theorem afterSensors_path : Path allowed (view h) (view (afterSensors w e h)) := by
  unfold afterSensors
  split
  · exact reportStart_path_any w e h
  · exact ReflTransGen.refl

end Report

end SmartHelmet.Firmware
