import SmartHelmet.ModuleTask

namespace SmartHelmet.Firmware

open MachineArith

def Obs.brOnline? : Obs → Option Bool
  | .brOnline online => some online
  | _ => none

/-- The notifications are newest first. -/
structure Presence where
  online : Bool
  rejoining : Bool
  told : List Bool

def presence (h : Helmet) : Presence where
  online := h.link.wisun.online
  rejoining := h.link.rejoining
  told := h.log.filterMap Obs.brOnline?

structure Follows (p p' : Presence) : Prop where
  told : ∃ new, p'.told = new ++ p.told ∧ new.head?.getD p.online = p'.online
  apart : (p.online && p.rejoining) = false → (p'.online && p'.rejoining) = false

theorem Follows.refl (p : Presence) : Follows p p := ⟨⟨[], rfl, rfl⟩, id⟩

theorem Follows.of_eq {p p' : Presence} (h : p' = p) : Follows p p' := by
  rw [h]
  exact Follows.refl p

theorem Follows.trans {p p' p'' : Presence} (h : Follows p p') (h' : Follows p' p'') : Follows p p'' := by
  obtain ⟨new, htold, hlast⟩ := h.told
  obtain ⟨new', htold', hlast'⟩ := h'.told
  refine ⟨⟨new' ++ new, ?_, ?_⟩, fun hp => h'.apart (h.apart hp)⟩
  · rw [htold', htold, List.append_assoc]
  · cases new' with
    | nil => exact hlast.trans hlast'
    | cons v new' => exact hlast'

section Commands

variable (w : World) (e : Env) (h : Helmet)

theorem presence_note {o : Obs} (ho : o.brOnline? = none) : presence (h.note o) = presence h := by
  simp [presence, Helmet.note, ho]

@[simp]
theorem presence_shWisunArm : presence (shWisunArm h) = presence h := by
  unfold shWisunArm
  split <;> rfl

theorem follows_dropOnline : Follows (presence h) (presence (dropOnline h)) := by
  unfold dropOnline
  cases hon : h.link.wisun.online with
  | true => exact ⟨⟨[false], rfl, rfl⟩, fun _ => rfl⟩
  | false => exact ⟨⟨[], rfl, hon⟩, fun _ => rfl⟩

@[simp]
theorem presence_leavePassthrough (next : Step) : presence (leavePassthrough w next h) = presence h := by
  rw [leavePassthrough, presence_shWisunArm]
  rfl

theorem follows_uartRejoin : Follows (presence h) (presence (uartRejoin w e h)) := by
  unfold uartRejoin
  split
  · exact Follows.refl _
  · split
    · exact Follows.refl _
    · dsimp only
      rw [presence_leavePassthrough]
      -- the flag is dropped in the same call that raises the rejoin
      unfold dropOnline
      cases hon : h.link.wisun.online with
      | true => exact ⟨⟨[false], rfl, rfl⟩, fun _ => rfl⟩
      | false => exact ⟨⟨[], rfl, hon⟩, fun _ => rfl⟩

theorem follows_uartNoteReportSent (ok : Bool) :
    Follows (presence h) (presence (uartNoteReportSent w e ok h)) := by
  unfold uartNoteReportSent
  split
  · exact (follows_dropOnline h).trans (follows_uartRejoin w e _)
  · split
    · dsimp only
      split
      · exact follows_uartRejoin w e { h with link := { h.link with missedOk := incSat 12 h.link.missedOk } }
      · exact Follows.of_eq rfl
    · exact Follows.of_eq rfl

@[simp]
theorem presence_shOnCmdTooLong : presence (shOnCmdTooLong w h) = presence h := by
  unfold shOnCmdTooLong
  dsimp only
  split
  · split
    · rfl
    · rw [presence_leavePassthrough]
      rfl
  · rfl

end Commands

section Receive

variable (w : World) (e : Env) (h : Helmet)

theorem presence_vitalsInit : presence h.vitalsInit = presence h := presence_note _ rfl

theorem presence_shRxLineFlush : presence (shRxLineFlush w h) = presence h := by
  unfold shRxLineFlush
  split
  · rfl
  · dsimp only
    split
    · exact presence_shOnCmdTooLong w h
    · rfl

theorem presence_noteRestart : presence (noteRestart h) = presence h := presence_vitalsInit _

theorem presence_shRxByte (b : UInt8) : presence (shRxByte w h b) = presence h := by
  unfold shRxByte
  split
  · rw [presence_shRxLineFlush]
    split
    · exact presence_noteRestart h
    · rfl
  · split
    · rfl
    · dsimp only
      split
      · exact presence_shRxLineFlush w h
      · rfl

theorem presence_shRxLinePush (data : List UInt8) :
    ∀ h : Helmet, presence (shRxLinePush w data h) = presence h := by
  induction data with
  | nil => exact fun _ => rfl
  | cons b data ih => exact fun h => (ih _).trans (presence_shRxByte w h b)

theorem presence_wisun {s : WisunStatus} (hs : s.online = h.link.wisun.online) :
    presence { h with link := { h.link with wisun := s } } = presence h := by
  simp [presence, hs]

theorem online_noteModule (data : List UInt8) (l : Link) : (noteModule data l).online = l.wisun.online := by
  unfold noteModule
  dsimp only
  split_ifs <;> simp [online_shNoteStatus]

theorem follows_noteSendFail : Follows (presence h) (presence (noteSendFail w e h)) := by
  unfold noteSendFail
  dsimp only
  exact (follows_dropOnline h).trans (follows_uartRejoin w e
    { dropOnline h with link := { (dropOnline h).link with sendOkWait := false } })

theorem follows_noteSendOk : Follows (presence h) (presence (noteSendOk h)) := by
  unfold noteSendOk
  dsimp only
  cases hon : h.link.wisun.online with
  | true =>
    simp only [↓reduceIte]
    split
    · exact ⟨⟨[], rfl, hon⟩, fun _ => rfl⟩
    · exact ⟨⟨[], rfl, hon⟩, fun _ => rfl⟩
  | false =>
    simp only [Bool.false_eq_true, ↓reduceIte]
    split
    · exact ⟨⟨[true], rfl, rfl⟩, fun _ => rfl⟩
    · exact ⟨⟨[true], rfl, rfl⟩, fun _ => rfl⟩

theorem follows_shWisunNoteRx (data : List UInt8) : Follows (presence h) (presence (shWisunNoteRx w e data h)) := by
  unfold shWisunNoteRx
  split
  · exact Follows.refl _
  · dsimp only
    have hnoted := presence_wisun h (online_noteModule data h.link)
    generalize ({ h with link := { h.link with wisun := noteModule data h.link } } : Helmet) = noted at hnoted ⊢
    rw [← hnoted]
    have hrest (t : Helmet) (ht : Follows (presence noted) (presence t)) : Follows (presence noted)
        (presence (if shContainsFold data "RESTART_SENSOR" = true then noteRestart t else t)) := by
      split
      · rw [presence_noteRestart]
        exact ht
      · exact ht
    apply hrest
    split
    · exact follows_noteSendFail w e noted
    · split
      · exact follows_noteSendOk noted
      · exact Follows.refl _

theorem presence_armAfterRx : presence (armAfterRx h) = presence h := by
  have hbanner : presence (shResetNoteBanner h) = presence h := by
    unfold shResetNoteBanner
    dsimp only
    split
    · exact (presence_shWisunArm _).trans rfl
    · rfl
  unfold armAfterRx
  split
  · dsimp only
    split
    · exact hbanner
    · rw [presence_shWisunArm]
      exact hbanner
  · split
    · exact presence_shWisunArm h
    · rfl

theorem follows_shUartConsume (chunk : List UInt8) :
    Follows (presence h) (presence (shUartConsume w e h chunk)) := by
  unfold shUartConsume
  dsimp only
  rw [presence_armAfterRx, presence_shRxLinePush]
  generalize h.link.rxAsm ++ _ = asm
  exact follows_shWisunNoteRx w e { h with link := { h.link with rxAsm := asm } } chunk

theorem follows_shUartDrain (chunks : List (List UInt8)) :
    Follows (presence h) (presence (shUartDrain w e chunks h)) := by
  have hfold : ∀ t : Helmet, Follows (presence t) (presence (chunks.foldl (shUartConsume w e) t)) := by
    induction chunks with
    | nil => exact fun _ => Follows.refl _
    | cons chunk chunks ih => exact fun t => (follows_shUartConsume w e t chunk).trans (ih _)
  unfold shUartDrain
  split
  · exact hfold h
  · exact Follows.refl _

end Receive

section Report

variable (w : World) (e : Env) (h : Helmet)

theorem presence_vitalsPushAccel (x y z : Int16) : presence (h.vitalsPushAccel w x y z) = presence h :=
  presence_note _ rfl

theorem presence_reportSample : presence (reportSample w e h) = presence h := by
  unfold reportSample
  dsimp only
  split
  · exact presence_vitalsPushAccel w _ _ _ _
  · rfl

theorem presence_reportBuild : presence (reportBuild h).1 = presence h := by
  obtain ⟨holding, quiet, since, hlatch⟩ := latchMotion_eq h
  unfold reportBuild
  dsimp only
  rw [presence_note _ rfl, hlatch]
  rfl

theorem presence_sendFrames (frames : List (List UInt8)) :
    ∀ h : Helmet, presence (sendFrames w frames h).1 = presence h := by
  induction frames with
  | nil => exact fun _ => rfl
  | cons frame frames ih =>
    intro h
    unfold sendFrames
    dsimp only
    split
    · exact ih _
    · rfl

theorem reportStart_cases : presence (reportStart w e h) = presence h ∨
    ∃ t ok, presence t = presence h ∧ presence (reportStart w e h) = presence (uartNoteReportSent w e ok t) := by
  unfold reportStart
  split
  · have hbuilt : presence (reportBuild (reportSample w e h)).1 = presence h := by
      rw [presence_reportBuild, presence_reportSample]
    generalize reportBuild (reportSample w e h) = built at hbuilt
    exact Or.inr ⟨_, _, (presence_sendFrames w (reportFrames built.2) built.1).trans hbuilt, rfl⟩
  · exact Or.inl (presence_reportBuild h)

theorem follows_reportStart : Follows (presence h) (presence (reportStart w e h)) := by
  obtain hsame | ⟨t, ok, ht, hsent⟩ := reportStart_cases w e h
  · exact Follows.of_eq hsame
  · rw [hsent, ← ht]
    exact follows_uartNoteReportSent w e t ok

theorem follows_afterSensors : Follows (presence h) (presence (afterSensors w e h)) := by
  unfold afterSensors
  split
  · exact follows_reportStart w e h
  · exact Follows.refl _

theorem follows_shLis3dhLogSample : Follows (presence h) (presence (shLis3dhLogSample w e h)) := by
  have hchange (t : Helmet) : Follows (presence t) (presence (logChange w e t)) := by
    unfold logChange
    split
    · exact follows_reportStart w e { t with sensors := { t.sensors with logLast := t.vitals.status.motion } }
    · exact Follows.refl _
  unfold shLis3dhLogSample
  cases e.lis3dhLog with
  | none => exact Follows.refl _
  | some r =>
    have hfeed : presence (logFeed w r.mg.1 r.mg.2.1 r.mg.2.2 h) = presence h := presence_vitalsPushAccel w _ _ _ _
    rw [← hfeed]
    exact hchange _

end Report

section Dialogue

variable (w : World) (e : Env) (h : Helmet)

theorem presence_shProvSendCurrent : presence (shProvSendCurrent w h) = presence h := by
  unfold shProvSendCurrent
  split
  · exact (presence_shWisunArm _).trans rfl
  · exact (presence_shWisunArm _).trans rfl

theorem presence_shAtFinish : presence (shAtFinish w h) = presence h := by
  unfold shAtFinish
  dsimp only
  rw [presence_leavePassthrough]
  split <;> rfl

theorem presence_shAtSendCurrent : presence (shAtSendCurrent w h) = presence h := by
  unfold shAtSendCurrent
  split
  · exact presence_shAtFinish w h
  · exact (presence_shWisunArm _).trans rfl

theorem presence_onResetTimeout : presence (onResetTimeout w h) = presence h := by
  unfold onResetTimeout
  split
  · split
    · exact presence_shAtSendCurrent w _
    · exact (presence_shWisunArm _).trans rfl
  · split
    · exact (presence_shWisunArm _).trans rfl
    · exact presence_shAtFinish w _

theorem presence_onProvReadTimeout : presence (onProvReadTimeout w h) = presence h := by
  unfold onProvReadTimeout
  dsimp only
  split
  · exact presence_shAtSendCurrent w _
  · exact presence_shProvSendCurrent w _

theorem presence_onProvSetTimeout : presence (onProvSetTimeout w h) = presence h := by
  unfold onProvSetTimeout
  split
  · exact (presence_shWisunArm _).trans rfl
  · exact presence_shProvSendCurrent w _

theorem presence_onLeaveTimeout : presence (onLeaveTimeout w h) = presence h := by
  unfold onLeaveTimeout
  split
  · exact (presence_shWisunArm _).trans rfl
  · exact (presence_shWisunArm _).trans rfl

theorem presence_onDestTimeout : presence (onDestTimeout w h) = presence h := (presence_shWisunArm _).trans rfl

theorem presence_onCmdTimeout : presence (onCmdTimeout w h) = presence h := by
  unfold onCmdTimeout shAtNoteResult
  dsimp only
  rw [presence_shAtSendCurrent]
  have hstatus := online_shNoteStatus h.link.wisun h.link.rxAsm
  split
  · exact presence_wisun h (s := { shNoteStatus h.link.wisun h.link.rxAsm with
      atPass := incSat 0xff (shNoteStatus h.link.wisun h.link.rxAsm).atPass }) hstatus
  · exact presence_wisun h (s := { shNoteStatus h.link.wisun h.link.rxAsm with
      atFail := incSat 0xff (shNoteStatus h.link.wisun h.link.rxAsm).atFail }) hstatus

/-- The expiry that enters passthrough: it clears the flag and tells nobody. -/
def entersPassthrough (l : Link) : Bool :=
  let entered := shAsmHas l "transparent" || shAsmHas l "passthrough"
  let rejected := shAsmHas l "cmd too long" || shAsmHas l "format err"
  decide (l.step = .pass) && !(rejected && decide (l.tooLongRetry < 2)) && (entered || !rejected)

theorem onPassTimeout_enters (hpass : h.link.step = .pass) (hq : entersPassthrough h.link = true) :
    onPassTimeout w e h = reportStart w e { h with link := { h.link with
      step := .done
      passthrough := true
      wisun := { h.link.wisun with online := false } } } := by
  rw [onPassTimeout_eq]
  dsimp only
  simp only [entersPassthrough, hpass, decide_true, Bool.true_and, Bool.and_eq_true, Bool.not_eq_true'] at hq
  rw [if_neg, if_pos hq.2]
  rintro ⟨hrej, hretry⟩
  rw [hrej, Bool.true_and] at hq
  exact absurd hretry (of_decide_eq_false hq.1)

theorem onPassTimeout_stays (hpass : h.link.step = .pass) (hq : entersPassthrough h.link = false) :
    onPassTimeout w e h = leavePassthrough w .dest { h with link := { h.link with
        tooLongRetry := h.link.tooLongRetry + 1
        passthrough := false
        rxAsm := [] } } ∨
      onPassTimeout w e h = { h with link := { h.link with step := .done, passthrough := false } } := by
  rw [onPassTimeout_eq]
  dsimp only
  split
  · exact Or.inl rfl
  · next hstay =>
    split
    · next henter =>
      simp only [entersPassthrough, hpass, decide_true, Bool.true_and] at hq
      rw [henter, Bool.and_true, Bool.not_eq_false', Bool.and_eq_true] at hq
      exact absurd ⟨hq.1, of_decide_eq_true hq.2⟩ hstay
    · exact Or.inr rfl

theorem presence_onPassTimeout (hpass : h.link.step = .pass) (hq : entersPassthrough h.link = false) :
    presence (onPassTimeout w e h) = presence h := by
  rcases onPassTimeout_stays w e h hpass hq with hleave | hdone
  · rw [hleave]
    exact presence_leavePassthrough w _ _
  · rw [hdone]
    rfl

end Dialogue

end SmartHelmet.Firmware
