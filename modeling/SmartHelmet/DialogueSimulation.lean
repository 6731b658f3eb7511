import SmartHelmet.LinkSimulation

namespace SmartHelmet.Firmware

open Relation Phase

variable {allowed : Phase → Prop}

/-- The chunk is read as a `send ok` that arrives between leaving and entering passthrough. -/
def lateOk (h : Helmet) (chunk : List UInt8) : Prop :=
  shContainsFold chunk "send fail" = false ∧ shContainsFold chunk "send ok" = true ∧
    h.link.step.rejoins = true

section Receive

variable (w : World) (e : Env)

theorem shRxLineFlush_path (h : Helmet) : Path allowed (view h) (view (shRxLineFlush w h)) := by
  unfold shRxLineFlush
  split
  · exact ReflTransGen.refl
  · dsimp only
    split
    · exact shOnCmdTooLong_path w h
    · exact ReflTransGen.refl

theorem view_noteRestart (h : Helmet) : view (noteRestart h) = view h := view_note _ rfl

theorem shRxByte_path (h : Helmet) (b : UInt8) : Path allowed (view h) (view (shRxByte w h b)) := by
  unfold shRxByte
  split
  · split
    · have hpath : Path allowed _ _ := shRxLineFlush_path w (noteRestart h)
      rwa [view_noteRestart] at hpath
    · exact shRxLineFlush_path w h
  · split
    · exact ReflTransGen.refl
    · dsimp only
      split
      · exact shRxLineFlush_path w h
      · exact ReflTransGen.refl

theorem shRxLinePush_path (data : List UInt8) :
    ∀ h : Helmet, Path allowed (view h) (view (shRxLinePush w data h)) := by
  induction data with
  | nil => exact fun h => ReflTransGen.refl
  | cons b data ih => exact fun h => (shRxByte_path w h b).trans (ih _)

theorem noteSendFail_path (h : Helmet) : Path allowed (view h) (view (noteSendFail w e h)) := by
  unfold noteSendFail
  have hpath : Path allowed _ _ := uartRejoin_path w
    { dropOnline h with link := { (dropOnline h).link with sendOkWait := false } } e
  have hview : view { dropOnline h with link := { (dropOnline h).link with sendOkWait := false } } =
      view h := view_dropOnline h
  rwa [hview] at hpath

theorem view_noteSendOk (h : Helmet) :
    view (noteSendOk h) = if h.link.step.rejoins then { view h with passthrough := true, step := .done }
      else view h := by
  unfold noteSendOk
  dsimp only
  split <;> split <;> rfl

theorem noteSendOk_path (h : Helmet) (hok : h.link.step.rejoins = true → allowed (view h)) :
    Path allowed (view h) (view (noteSendOk h)) := by
  rw [view_noteSendOk]
  split
  · next hs => exact ReflTransGen.single (Move.lateOk hs (hok hs))
  · exact ReflTransGen.refl

theorem shWisunNoteRx_path (data : List UInt8) (h : Helmet) (hok : lateOk h data → allowed (view h)) :
    Path allowed (view h) (view (shWisunNoteRx w e data h)) := by
  unfold shWisunNoteRx
  split
  · exact ReflTransGen.refl
  · dsimp only
    generalize hnoted : ({ h with link := { h.link with wisun := noteModule data h.link } } : Helmet) = noted
    have hview : view noted = view h := by
      rw [← hnoted]
      rfl
    rw [← hview]
    have hkeyword : Path allowed (view noted)
        (view (if shContainsFold data "send fail" then noteSendFail w e noted
          else if shContainsFold data "send ok" then noteSendOk noted else noted)) := by
      split
      · exact noteSendFail_path w e noted
      · next hfail =>
        split
        · next hsend =>
          apply noteSendOk_path
          intro hs
          rw [hview]
          have hstep : noted.link.step = h.link.step := congrArg Phase.step hview
          exact hok ⟨by simpa using hfail, hsend, by rwa [hstep] at hs⟩
        · exact ReflTransGen.refl
    split
    · rw [view_noteRestart]
      exact hkeyword
    · exact hkeyword

theorem view_shResetNoteBanner (h : Helmet) : view (shResetNoteBanner h) = view h := by
  unfold shResetNoteBanner
  dsimp only
  split
  · exact view_shWisunArm _
  · rfl

theorem view_armAfterRx (h : Helmet) : view (armAfterRx h) = view h := by
  unfold armAfterRx
  split
  · dsimp only
    split
    · exact view_shResetNoteBanner h
    · rw [view_shWisunArm]
      exact view_shResetNoteBanner h
  · split
    · exact view_shWisunArm h
    · rfl

theorem shUartConsume_path (h : Helmet) (chunk : List UInt8) (hok : lateOk h chunk → allowed (view h)) :
    Path allowed (view h) (view (shUartConsume w e h chunk)) := by
  unfold shUartConsume
  dsimp only
  rw [view_armAfterRx]
  generalize h.link.rxAsm ++ _ = asm
  refine ReflTransGen.trans ?_ (shRxLinePush_path w chunk _)
  exact shWisunNoteRx_path w e chunk { h with link := { h.link with rxAsm := asm } } hok

def chunksOk (ok : Helmet → Prop) (h : Helmet) : List (List UInt8) → Prop
  | [] => True
  | chunk :: chunks => (lateOk h chunk → ok h) ∧ chunksOk ok (shUartConsume w e h chunk) chunks

theorem consumes_path (chunks : List (List UInt8)) :
    ∀ h : Helmet, chunksOk w e (fun h => allowed (view h)) h chunks →
      Path allowed (view h) (view (chunks.foldl (shUartConsume w e) h)) := by
  induction chunks with
  | nil => exact fun h _ => ReflTransGen.refl
  | cons chunk chunks ih =>
    intro h hok
    exact (shUartConsume_path w e h chunk hok.1).trans (ih _ hok.2)

theorem shUartDrain_path (chunks : List (List UInt8)) (h : Helmet)
    (hok : chunksOk w e (fun h => allowed (view h)) h chunks) :
    Path allowed (view h) (view (shUartDrain w e chunks h)) := by
  unfold shUartDrain
  split
  · exact consumes_path w e chunks h hok
  · exact ReflTransGen.refl

end Receive

section BringUp

variable (w : World) (e : Env) {h : Helmet}

theorem shWisunSendProbe_commanded {h h' : Helmet} (cmd : String) (hc : Commanded h h') :
    Commanded h (shWisunArm (shWisunSendProbe w cmd h')) := by
  have hview := view_shWisunArm (shWisunSendProbe w cmd h')
  rw [view_shWisunSendProbe] at hview
  refine ⟨?_, ?_, ?_⟩
  · exact (congrArg Phase.passthrough hview).trans hc.left
  · intro hs
    exact hc.step ((congrArg Phase.step hview).symm.trans hs)
  · exact (congrArg Phase.misdirected hview).trans hc.aimed

theorem leavePassthrough_commanded {h h' : Helmet} (next : Step) (hleft : h'.link.passthrough = false)
    (haimed : misdirected h'.log = misdirected h.log) : Commanded h (leavePassthrough w next h') :=
  shWisunSendProbe_commanded w "exit" ⟨hleft, by simp, haimed⟩

theorem shProvSendCurrent_commanded {h h' : Helmet} (hleft : h'.link.passthrough = false)
    (haimed : misdirected h'.log = misdirected h.log) : Commanded h (shProvSendCurrent w h') := by
  unfold shProvSendCurrent
  split
  · have hsave : Commanded h (shWisunArm (shWisunSendProbe w "save"
        { h' with link := { h'.link with provDirty := true, rxAsm := [], step := .provSet } })) :=
      shWisunSendProbe_commanded w "save" ⟨hleft, by simp, haimed⟩
    exact ⟨hsave.left, hsave.step, hsave.aimed⟩
  · exact shWisunSendProbe_commanded w _ ⟨hleft, by simp, haimed⟩

theorem shAtFinish_commanded {h h' : Helmet} (haimed : misdirected h'.log = misdirected h.log) :
    Commanded h (shAtFinish w h') := by
  unfold shAtFinish
  dsimp only
  apply leavePassthrough_commanded
  · rfl
  · split <;> exact haimed

theorem shAtSendCurrent_commanded {h h' : Helmet} (hleft : h'.link.passthrough = false)
    (haimed : misdirected h'.log = misdirected h.log) : Commanded h (shAtSendCurrent w h') := by
  unfold shAtSendCurrent
  split
  · exact shAtFinish_commanded w haimed
  · exact shWisunSendProbe_commanded w _ ⟨hleft, by simp, haimed⟩

theorem onResetTimeout_commanded (hleft : h.link.passthrough = false) (hstep : h.link.step = .reset) :
    Commanded h (onResetTimeout w h) := by
  unfold onResetTimeout
  split
  · split
    · exact shAtSendCurrent_commanded w hleft rfl
    · exact shWisunSendProbe_commanded w _ ⟨hleft, by simp, rfl⟩
  · split
    · exact shWisunSendProbe_commanded w _ ⟨hleft, by simp [hstep], rfl⟩
    · exact shAtFinish_commanded w rfl

theorem onProvReadTimeout_commanded (hleft : h.link.passthrough = false) :
    Commanded h (onProvReadTimeout w h) := by
  unfold onProvReadTimeout
  dsimp only
  split
  · exact shAtSendCurrent_commanded w hleft rfl
  · exact shProvSendCurrent_commanded w hleft rfl

theorem onProvSetTimeout_commanded (hleft : h.link.passthrough = false) :
    Commanded h (onProvSetTimeout w h) := by
  unfold onProvSetTimeout
  split
  · exact shWisunSendProbe_commanded w _ ⟨hleft, by simp, rfl⟩
  · exact shProvSendCurrent_commanded w hleft rfl

theorem onLeaveTimeout_path (hleft : h.link.passthrough = false) :
    Path allowed (view h) (view (onLeaveTimeout w h)) := by
  unfold onLeaveTimeout
  split
  · rw [view_shWisunArm]
    exact Commanded.path ⟨hleft, by simp, rfl⟩
  · apply Commanded.path
    exact shWisunSendProbe_commanded w _ ⟨hleft, by simp, rfl⟩

theorem onDestTimeout_path : Path allowed (view h) (view (onDestTimeout w h)) := by
  rw [onDestTimeout, view_shWisunArm, view_shWisunSendProbe]
  exact ReflTransGen.single Move.enter

theorem onPassTimeout_path (hstep : h.link.step = .pass) :
    Path allowed (view h) (view (onPassTimeout w e h)) := by
  rw [onPassTimeout_eq]
  dsimp only
  split
  · apply Commanded.path
    exact leavePassthrough_commanded w .dest rfl rfl
  · split
    · refine ReflTransGen.head (Move.accept hstep) ?_
      exact reportStart_path w e { h with link := { h.link with
        step := .done
        passthrough := true
        wisun := { h.link.wisun with online := false } } }
    · exact ReflTransGen.single Move.reject

theorem onCmdTimeout_commanded (hleft : h.link.passthrough = false) : Commanded h (onCmdTimeout w h) := by
  unfold onCmdTimeout shAtNoteResult
  exact shAtSendCurrent_commanded w hleft rfl

theorem shWisunOnTimeout_path (hsettled : (view h).Settled) :
    Path allowed (view h) (view (shWisunOnTimeout w e h)) := by
  -- Outside `done` the flag is already cleared.
  have hleft (hs : h.link.step ≠ .done) : h.link.passthrough = false := by
    by_contra hp
    exact hs (hsettled (by simpa [view] using hp))
  unfold shWisunOnTimeout
  split
  case h_1 hs => exact (onResetTimeout_commanded w (hleft (by simp [hs])) hs).path
  case h_2 hs => exact (onProvReadTimeout_commanded w (hleft (by simp [hs]))).path
  case h_3 hs => exact (onProvSetTimeout_commanded w (hleft (by simp [hs]))).path
  case h_4 hs => exact onLeaveTimeout_path w (hleft (by simp [hs]))
  case h_5 => exact onDestTimeout_path w
  case h_6 hs => exact onPassTimeout_path w e hs
  case h_7 hs => exact (onCmdTimeout_commanded w (hleft (by simp [hs]))).path
  case h_8 | h_9 => exact ReflTransGen.refl

end BringUp

end SmartHelmet.Firmware
