import SmartHelmet.BringupMoves
import SmartHelmet.History

namespace SmartHelmet.Firmware

open MachineArith Bringup

inductive LinkEvent where
  | rx (chunk : List UInt8)
  | expiry

def linkStep (w : World) (h : Helmet) (ev : Env × LinkEvent) : Helmet :=
  match ev.2 with
  | .rx chunk => shUartConsume w ev.1 h chunk
  | .expiry => if 0 < h.pending .linkCheck then shWisunOnTimeout w ev.1 (h.deliver .linkCheck) else h

def linkStart (w : World) (e : Env) (h : Helmet) : Helmet := uartStartVerify w (uartInit e h)

def Obs.restarts : Obs → Bool
  | .tx .command frame _ => isRestart frame
  | _ => false

def assembled (chunk : List UInt8) (l : Link) : Link :=
  { l with rxAsm := l.rxAsm ++ chunk.take (rxBufSize - l.rxAsm.length) }

def passRejected (l : Link) : Bool :=
  (shAsmHas l "cmd too long" || shAsmHas l "format err") && decide (l.tooLongRetry < 2)

/-- The state right after the handler of the event has stored its step. The same handler may leave
the step again: a line `cmd too long` behind `send ok` in one chunk, or a report that fails right
after the check. -/
def afterStore (w : World) (h : Helmet) (ev : Env × LinkEvent) : Helmet :=
  match ev.2 with
  | .rx chunk => shWisunNoteRx w ev.1 chunk { h with link := assembled chunk h.link }
  | .expiry =>
    if 0 < h.pending .linkCheck ∧ h.link.step = .pass then onPassStored w (h.deliver .linkCheck)
    else linkStep w h ev

def storesDone (w : World) (h : Helmet) (ev : Env × LinkEvent) : Bool :=
  decide (h.link.step ≠ .done ∧ (afterStore w h ev).link.step = .done)

def noteLink (w : World) (h : Helmet) (ev : Env × LinkEvent) (g : Record) : Record where
  expiries := match ev.2 with
    | .rx _ => g.expiries
    | .expiry => if 0 < h.pending .linkCheck then g.expiries + 1 else g.expiries
  reached := g.reached || storesDone w h ev
  probes := match ev.2 with
    | .rx _ => g.probes
    | .expiry => if 0 < h.pending .linkCheck ∧ h.link.step = .cmd then
        g.probes ++ [(h.link.atIdx, shAtReplyOk h.link)] else g.probes
  heard := if (linkStep w h ev).log.countP Obs.restarts = h.log.countP Obs.restarts then
      match ev.2 with
      | .rx chunk => g.heard ++ chunk
      | .expiry => g.heard
    else []

def linkRun (w : World) (e : Env) (h : Helmet) (evs : List (Env × LinkEvent)) : Helmet :=
  evs.foldl (linkStep w) (linkStart w e h)

def linkRecord (w : World) (e : Env) (h : Helmet) (evs : List (Env × LinkEvent)) : Record :=
  History.after (linkStep w) (noteLink w) (linkStart w e h) ⟨0, false, [], []⟩ evs

def bringup (h : Helmet) : Bringup where
  task := h.link.task
  step := h.link.step
  next := h.link.leaveNext
  tries := h.link.wisun.tries
  resetSeen := h.link.wisun.resetSeen
  provDone := h.link.provDone
  provQ := h.link.provQ
  provI := h.link.provI
  atIdx := h.link.atIdx
  atPass := h.link.wisun.atPass
  atFail := h.link.wisun.atFail
  atOk := h.link.wisun.atOk
  retry := h.link.tooLongRetry
  asm := h.link.rxAsm
  checks := h.pending .linkCheck
  resets := h.log.countP Obs.restarts

section Commands

variable (w : World) (e : Env) (h : Helmet)

theorem bringup_note {o : Obs} (ho : o.restarts = false) : bringup (h.note o) = bringup h := by
  simp [bringup, Helmet.note, ho]

theorem bringup_cancelAll {m : Msg} (hm : m ≠ .linkCheck) : bringup (h.cancelAll m) = bringup h := by
  simp [bringup, Helmet.cancelAll, Function.update_of_ne hm.symm]

theorem bringup_sendLater {m : Msg} (hm : m ≠ .linkCheck) : bringup (h.sendLater m) = bringup h := by
  simp [bringup, Helmet.sendLater, Function.update_of_ne hm.symm]

theorem bringup_shWisunArm : bringup (shWisunArm h) = arm (bringup h) := by
  unfold shWisunArm
  cases ht : h.link.task with
  | true => simp [bringup, arm, Helmet.sendLater, Helmet.cancelAll, ht]
  | false => simp [bringup, arm, ht]

theorem bringup_shWisunSendProbe {cmd : String} (hcmd : isRestart (commandFrame cmd) = false) :
    bringup (shWisunSendProbe w cmd h) = bringup h := by
  simp [bringup, shWisunSendProbe, uartSend, Obs.restarts, hcmd]

theorem bringup_shWisunSendProbe_restart {cmd : String} (hcmd : isRestart (commandFrame cmd) = true) :
    bringup (shWisunSendProbe w cmd h) = { bringup h with resets := (bringup h).resets + 1 } := by
  simp [bringup, shWisunSendProbe, uartSend, Obs.restarts, hcmd]

theorem bringup_leavePassthrough (next : Step) :
    bringup (leavePassthrough w next h) = (bringup h).leave next := by
  unfold leavePassthrough
  rw [bringup_shWisunArm, bringup_shWisunSendProbe w _ (by decide)]
  rfl

theorem bringup_dropOnline : bringup (dropOnline h) = bringup h := by
  unfold dropOnline
  dsimp only
  split
  · exact bringup_note _ rfl
  · rfl

theorem bringup_reportStop : bringup (reportStop h) = bringup h := bringup_cancelAll h (by decide)

def Rejoins (b b' : Bringup) : Prop := b' = b ∨ (b.step.rejoins = false ∧ b' = b.leave .dest)

theorem rejoins_uartRejoin : Rejoins (bringup h) (bringup (uartRejoin w e h)) := by
  unfold uartRejoin
  split
  · exact Or.inl rfl
  · next hs =>
    split
    · exact Or.inl rfl
    · refine Or.inr ⟨Bool.eq_false_iff.mpr hs, ?_⟩
      dsimp only
      rw [bringup_leavePassthrough, bringup_reportStop]
      exact congrArg (leave .dest) (bringup_dropOnline { h with link := { h.link with
        rejoinMs := e.timeUs / 1000
        rejoining := true
        passthrough := false } })

theorem rejoins_uartNoteReportSent (ok : Bool) :
    Rejoins (bringup h) (bringup (uartNoteReportSent w e ok h)) := by
  unfold uartNoteReportSent
  split
  · rw [← bringup_dropOnline h]
    exact rejoins_uartRejoin w e (dropOnline h)
  · split
    · dsimp only
      split
      · exact rejoins_uartRejoin w e { h with link := { h.link with missedOk := incSat 12 h.link.missedOk } }
      · exact Or.inl rfl
    · exact Or.inl rfl

end Commands

section Report

variable (w : World) (e : Env) (h : Helmet)

theorem bringup_reportSample : bringup (reportSample w e h) = bringup h := by
  unfold reportSample
  dsimp only
  split
  · exact bringup_note _ rfl
  · rfl

theorem bringup_reportBuild : bringup (reportBuild h).1 = bringup h := by
  obtain ⟨holding, quiet, since, hlatch⟩ := latchMotion_eq h
  unfold reportBuild
  dsimp only
  rw [bringup_note _ rfl, hlatch]
  rfl

theorem bringup_sendFrames (frames : List (List UInt8)) :
    ∀ h : Helmet, bringup (sendFrames w frames h).1 = bringup h := by
  induction frames with
  | nil => exact fun _ => rfl
  | cons frame frames ih =>
    intro h
    have hsend : bringup (uartSend w .payload frame h).1 = bringup h := by
      simp [bringup, uartSend, Obs.restarts]
    unfold sendFrames
    dsimp only
    split
    · exact (ih _).trans hsend
    · exact hsend

theorem bringup_reportArm : bringup (reportArm h) = bringup h := by
  unfold reportArm
  rw [bringup_sendLater _ (by decide), bringup_cancelAll _ (by decide)]

theorem rejoins_reportStart : Rejoins (bringup h) (bringup (reportStart w e h)) := by
  unfold reportStart
  split
  · have hbuilt : bringup (reportBuild (reportSample w e h)).1 = bringup h := by
      rw [bringup_reportBuild, bringup_reportSample]
    rw [← hbuilt]
    generalize reportBuild (reportSample w e h) = built
    have hsent := bringup_sendFrames w (reportFrames built.2) built.1
    dsimp only
    rw [bringup_reportArm, ← hsent]
    exact rejoins_uartNoteReportSent w e _ _
  · refine Or.inl ?_
    rw [bringup_reportArm, bringup_reportBuild]

end Report

section Receive

variable (w : World) (e : Env) (g : Record)

theorem Rejoins.path {b b' : Bringup} (hr : Rejoins b b') : Path (b, g) (b', g) := by
  obtain heq | ⟨hs, heq⟩ := hr
  · rw [heq]
    exact .refl
  · rw [heq]
    exact .single (.rejoin hs)

theorem shOnCmdTooLong_dialogue (h : Helmet) : Path (bringup h, g) (bringup (shOnCmdTooLong w h), g) := by
  unfold shOnCmdTooLong
  dsimp only
  have hstop : bringup (reportStop { h with link := { h.link with passthrough := false } }) = bringup h :=
    bringup_reportStop { h with link := { h.link with passthrough := false } }
  generalize reportStop { h with link := { h.link with passthrough := false } } = stopped at hstop ⊢
  rw [← hstop]
  split
  · next hs =>
    split
    · exact .refl
    · next hretry =>
      rw [bringup_leavePassthrough]
      exact .single (.tooLong hs (Nat.not_le.mp hretry))
  · exact .refl

theorem shRxLineFlush_dialogue (h : Helmet) : Path (bringup h, g) (bringup (shRxLineFlush w h), g) := by
  unfold shRxLineFlush
  split
  · exact .refl
  · dsimp only
    split
    · exact shOnCmdTooLong_dialogue w g h
    · exact .refl

theorem bringup_noteRestart (h : Helmet) : bringup (noteRestart h) = bringup h := bringup_note _ rfl

theorem shRxByte_dialogue (h : Helmet) (b : UInt8) : Path (bringup h, g) (bringup (shRxByte w h b), g) := by
  unfold shRxByte
  split
  · have hrestart : bringup (if shContainsFold h.link.rxLine "RESTART_SENSOR" then noteRestart h else h) =
        bringup h := by
      split
      · exact bringup_noteRestart h
      · rfl
    rw [← hrestart]
    exact shRxLineFlush_dialogue w g _
  · split
    · exact .refl
    · dsimp only
      split
      · exact shRxLineFlush_dialogue w g h
      · exact .refl

theorem shRxLinePush_dialogue (data : List UInt8) :
    ∀ h : Helmet, Path (bringup h, g) (bringup (shRxLinePush w data h), g) := by
  induction data with
  | nil => exact fun _ => .refl
  | cons b data ih => exact fun h => (shRxByte_dialogue w g h b).trans (ih _)

theorem bringup_noteModule (data : List UInt8) (h : Helmet) :
    bringup { h with link := { h.link with wisun := noteModule data h.link } } = bringup h := by
  obtain ⟨code, hcode⟩ := shNoteStatus_eq { h.link.wisun with rxSeen := true, moduleSeen := true } data
  simp only [bringup, noteModule, hcode]
  split_ifs <;> rfl

inductive Noted (b : Bringup) : Bringup → Prop
  | same : Noted b b
  | rejoin (hs : b.step.rejoins = false) : Noted b (b.leave .dest)
  | sendOk (hs : b.step.rejoins = false) : Noted b { b with retry := 0 }
  | lateOk (hs : b.step.rejoins = true) : Noted b { b with retry := 0, step := .done }

theorem noted_noteSendFail (h : Helmet) : Noted (bringup h) (bringup (noteSendFail w e h)) := by
  unfold noteSendFail
  dsimp only
  have hr : Rejoins (bringup h) _ := (bringup_dropOnline h) ▸ rejoins_uartRejoin w e
    { dropOnline h with link := { (dropOnline h).link with sendOkWait := false } }
  obtain heq | ⟨hs, heq⟩ := hr
  · rw [heq]
    exact .same
  · rw [heq]
    exact .rejoin hs

theorem noted_noteSendOk (h : Helmet) : Noted (bringup h) (bringup (noteSendOk h)) := by
  have hquiet (t : Helmet) (online : Bool) :
      bringup (if online then t else t.note (.brOnline true)) = bringup t := by
    cases online with
    | true => rfl
    | false => exact bringup_note t rfl
  unfold noteSendOk
  dsimp only
  rw [hquiet]
  cases hs : h.link.step.rejoins with
  | true => exact .lateOk hs
  | false => exact .sendOk hs

theorem noted_shWisunNoteRx (data : List UInt8) (h : Helmet) :
    Noted (bringup h) (bringup (shWisunNoteRx w e data h)) := by
  have hrestart (t : Helmet) :
      bringup (if shContainsFold data "RESTART_SENSOR" = true then noteRestart t else t) = bringup t := by
    split
    · exact bringup_noteRestart t
    · rfl
  unfold shWisunNoteRx
  split
  · exact .same
  · dsimp only
    rw [hrestart, ← bringup_noteModule data h]
    split
    · exact noted_noteSendFail w e _
    · split
      · exact noted_noteSendOk _
      · exact .same

theorem Noted.path {b b' : Bringup} (hn : Noted b b') :
    Path (b, g) (b', { g with reached := g.reached || decide (b.step ≠ .done ∧ b'.step = .done) }) := by
  have hkeep (s : Step) (hs : ¬ (b.step ≠ .done ∧ s = .done)) :
      { g with reached := g.reached || decide (b.step ≠ .done ∧ s = .done) } = g := by
    rw [decide_eq_false hs, Bool.or_false]
  cases hn with
  | same =>
    rw [hkeep _ fun h => h.1 h.2]
    exact .refl
  | rejoin hs =>
    rw [hkeep _ fun h => Step.noConfusion h.2]
    exact .single (.rejoin hs)
  | sendOk hs =>
    rw [hkeep _ fun h => h.1 h.2]
    exact .single (.sendOk hs)
  | lateOk hs =>
    have hne : b.step ≠ .done := by
      intro h
      rw [h] at hs
      exact absurd hs (by decide)
    rw [decide_eq_true (And.intro hne rfl), Bool.or_true]
    exact .single (.lateOk hs)

theorem shWisunArm_dialogue (h : Helmet) : Path (bringup h, g) (bringup (shWisunArm h), g) := by
  rw [bringup_shWisunArm]
  exact .single .settle

theorem shResetNoteBanner_dialogue {h : Helmet} (hs : h.link.step = .reset) :
    Path (bringup h, g) (bringup (shResetNoteBanner h), g) := by
  unfold shResetNoteBanner
  dsimp only
  split
  · next hb =>
    rw [bringup_shWisunArm]
    exact Path.single (p := (bringup h, g)) (.banner hs hb)
  · exact .refl

theorem armAfterRx_dialogue (h : Helmet) : Path (bringup h, g) (bringup (armAfterRx h), g) := by
  unfold armAfterRx
  split
  · next hs =>
    have hbanner := shResetNoteBanner_dialogue g hs
    dsimp only
    split
    · exact hbanner
    · exact hbanner.trans (shWisunArm_dialogue g _)
  · split
    · exact shWisunArm_dialogue g h
    · exact .refl

theorem shUartConsume_dialogue (h : Helmet) (chunk : List UInt8) :
    Path (bringup h, g) (bringup (shUartConsume w e h chunk), { g with
      heard := g.heard ++ chunk
      reached := g.reached || storesDone w h (e, .rx chunk) }) := by
  let h' : Helmet := { h with link := assembled chunk h.link }
  have hhear : Path (bringup h, g) (bringup h', { g with heard := g.heard ++ chunk }) :=
    .single (.hear chunk)
  have hnoted := (noted_shWisunNoteRx w e chunk h').path { g with heard := g.heard ++ chunk }
  have hline := shRxLinePush_dialogue w { g with
    heard := g.heard ++ chunk
    reached := g.reached || storesDone w h (e, .rx chunk) } chunk (shWisunNoteRx w e chunk h')
  exact ((hhear.trans hnoted).trans hline).trans (armAfterRx_dialogue _ _)

end Receive

section Expiry

variable (w : World) (e : Env) (g : Record) {h : Helmet} {b : Bringup}

theorem not_restart_probe : ∀ p ∈ shAtCmds, isRestart (commandFrame p.1) = false := by decide

theorem bringup_shAtFinish (ht : h.link.task = true) : bringup (shAtFinish w h) = finish (bringup h) := by
  unfold shAtFinish
  dsimp only
  rw [bringup_leavePassthrough, if_pos ht]
  simp [finish, leave, arm, bringup, Helmet.cancelAll, ht]

theorem bringup_shAtSendCurrent (ht : h.link.task = true) : bringup (shAtSendCurrent w h) =
    if h.link.atIdx < shAtCmds.length then ask .cmd (bringup h) else finish (bringup h) := by
  unfold shAtSendCurrent
  cases hcmd : shAtCmds[h.link.atIdx]? with
  | none =>
    rw [if_neg (Nat.not_lt.mpr (List.getElem?_eq_none_iff.mp hcmd))]
    exact bringup_shAtFinish w ht
  | some p =>
    obtain ⟨hlt, -⟩ := List.getElem?_eq_some_iff.mp hcmd
    rw [if_pos hlt]
    dsimp only
    rw [bringup_shWisunArm,
      bringup_shWisunSendProbe w _ (not_restart_probe p (List.mem_of_getElem? hcmd))]
    rfl

theorem bringup_onCmdTimeout (ht : h.link.task = true) : bringup (onCmdTimeout w h) =
    let b := probed (shAtReplyOk h.link) (bringup h)
    if b.atIdx < shAtCmds.length then ask .cmd b else finish b := by
  obtain ⟨code, hcode⟩ := shNoteStatus_eq h.link.wisun h.link.rxAsm
  unfold onCmdTimeout shAtNoteResult
  dsimp only
  have hreply : shAtReplyOk { h.link with wisun := shNoteStatus h.link.wisun h.link.rxAsm } = shAtReplyOk h.link := rfl
  rw [hreply, hcode]
  refine (bringup_shAtSendCurrent w ?_).trans ?_
  · exact ht
  · cases shAtReplyOk h.link <;> rfl

def PlanOk (q : List String) : Prop :=
  q.length ≤ 8 ∧ ∀ cmd ∈ q, isRestart (commandFrame cmd) = false

theorem planOk_provFix {cmd : String} (hcmd : isRestart (commandFrame cmd) = false) {matched : Bool}
    {q : List String} (hq : PlanOk q) : PlanOk (provFix matched cmd q) := by
  unfold provFix shProvQueue
  split
  · exact hq
  · split
    · exact hq
    · next hroom =>
      constructor
      · rw [List.length_append, List.length_singleton]
        omega
      · intro cmd' hmem
        obtain hmem | hmem := List.mem_append.mp hmem
        · exact hq.2 cmd' hmem
        · rw [List.mem_singleton.mp hmem]
          exact hcmd

theorem planOk_shProvPlan : PlanOk (shProvPlan h).link.provQ := by
  have hnil : PlanOk [] := ⟨Nat.zero_le 8, fun _ hmem => absurd hmem List.not_mem_nil⟩
  unfold shProvPlan
  dsimp only
  apply planOk_provFix (by decide)
  apply planOk_provFix (by decide)
  apply planOk_provFix (by decide)
  apply planOk_provFix (by decide)
  apply planOk_provFix (by decide)
  apply planOk_provFix (by decide)
  exact planOk_provFix (by decide) hnil

theorem bringup_shProvSendCurrent (hq : ∀ cmd ∈ h.link.provQ, isRestart (commandFrame cmd) = false) :
    bringup (shProvSendCurrent w h) = ask .provSet
      (if h.link.provI < h.link.provQ.length then bringup h else { bringup h with provI := 0xff }) := by
  unfold shProvSendCurrent
  cases hcmd : h.link.provQ[h.link.provI]? with
  | none =>
    rw [if_neg (Nat.not_lt.mpr (List.getElem?_eq_none_iff.mp hcmd))]
    have hsave (t : Helmet) : bringup (shWisunArm (shWisunSendProbe w "save" t)) = arm (bringup t) := by
      rw [bringup_shWisunArm, bringup_shWisunSendProbe w _ (by decide)]
    have hlate (t : Helmet) : bringup { t with link := { t.link with provI := 0xff } } =
        { bringup t with provI := 0xff } := rfl
    dsimp only
    rw [hlate, hsave]
    rfl
  | some cmd =>
    obtain ⟨hlt, -⟩ := List.getElem?_eq_some_iff.mp hcmd
    rw [if_pos hlt]
    dsimp only
    rw [bringup_shWisunArm, bringup_shWisunSendProbe w _ (hq cmd (List.mem_of_getElem? hcmd))]
    rfl

theorem ask_checks (s : Step) (ht : b.task = true) (checks : ℕ) : ask s { b with checks := checks } = ask s b := by
  simp [ask, arm, ht]

theorem leave_checks (s : Step) (ht : b.task = true) (checks : ℕ) :
    leave s { b with checks := checks } = leave s b := by
  simp [leave, arm, ht]

theorem finish_checks (ht : b.task = true) (checks : ℕ) : finish { b with checks := checks } = finish b := by
  simp [finish, leave, arm, ht]

theorem bringup_deliver :
    bringup (h.deliver .linkCheck) = { bringup h with checks := h.pending .linkCheck - 1 } := by
  simp [bringup, Helmet.deliver]

theorem linkStep_expiry (hp : 0 < h.pending .linkCheck) :
    linkStep w h (e, .expiry) = shWisunOnTimeout w e (h.deliver .linkCheck) := if_pos hp

theorem noteLink_expiry (hp : 0 < h.pending .linkCheck) : noteLink w h (e, .expiry) g =
    { expiries := g.expiries + 1
      reached := g.reached || storesDone w h (e, .expiry)
      probes := if h.link.step = .cmd then g.probes ++ [(h.link.atIdx, shAtReplyOk h.link)] else g.probes
      heard := if (bringup (linkStep w h (e, .expiry))).resets = (bringup h).resets then g.heard else [] } := by
  simp only [noteLink, hp, true_and, if_true]
  rfl

theorem storesDone_step (hpass : h.link.step ≠ .pass) : storesDone w h (e, .expiry) =
    decide (h.link.step ≠ .done ∧ (bringup (linkStep w h (e, .expiry))).step = .done) := by
  have hstored : afterStore w h (e, .expiry) = linkStep w h (e, .expiry) := if_neg fun hp => hpass hp.2
  rw [storesDone, hstored]
  rfl

theorem step_onPassStored (h : Helmet) :
    (onPassStored w h).link.step = if passRejected h.link then .leave else .done := by
  have hsame : ((shAsmHas h.link "cmd too long" || shAsmHas h.link "format err") = true ∧ h.link.tooLongRetry < 2) =
      (passRejected h.link = true) := by
    rw [passRejected, Bool.and_eq_true, decide_eq_true_eq]
  unfold onPassStored
  simp only [hsame]
  split
  · exact congrArg Bringup.step (bringup_leavePassthrough w _ .dest)
  · split <;> rfl

theorem storesDone_pass (hp : 0 < h.pending .linkCheck) (hs : h.link.step = .pass) :
    storesDone w h (e, .expiry) = !passRejected h.link := by
  have hstored : afterStore w h (e, .expiry) = onPassStored w (h.deliver .linkCheck) := if_pos ⟨hp, hs⟩
  have hbefore : h.link.step ≠ .done := by simp [hs]
  have hstep : (onPassStored w (h.deliver .linkCheck)).link.step = if passRejected h.link then .leave else .done :=
    step_onPassStored w (h.deliver .linkCheck)
  rw [storesDone, hstored, hstep]
  cases passRejected h.link with
  | true => exact decide_eq_false fun h => Step.noConfusion h.2
  | false => exact decide_eq_true ⟨hbefore, rfl⟩

theorem expiry_of_move {b' : Bringup} {g' : Record} (hstep : bringup (linkStep w h (e, .expiry)) = b')
    (hnote : noteLink w h (e, .expiry) g = g') (hm : Move (bringup h) g b' g') :
    Path (bringup h, g) (bringup (linkStep w h (e, .expiry)), noteLink w h (e, .expiry) g) := by
  rw [hnote, hstep]
  exact .single hm

theorem expiry_plain (hp : 0 < h.pending .linkCheck) (hcmd : h.link.step ≠ .cmd) (hpass : h.link.step ≠ .pass)
    {b' : Bringup} (hstep : bringup (linkStep w h (e, .expiry)) = b') (hresets : b'.resets = (bringup h).resets)
    (hopen : b'.step ≠ .done) (hm : Move (bringup h) g b' g.expire) :
    Path (bringup h, g) (bringup (linkStep w h (e, .expiry)), noteLink w h (e, .expiry) g) := by
  apply expiry_of_move w e g hstep ?_ hm
  rw [noteLink_expiry w e g hp, storesDone_step w e hpass, hstep, if_pos hresets, if_neg hcmd,
    decide_eq_false fun h => hopen h.2, Bool.or_false]
  rfl

theorem expiry_restart (hp : 0 < h.pending .linkCheck) (hcmd : h.link.step ≠ .cmd) (hpass : h.link.step ≠ .pass)
    {b' : Bringup} (hstep : bringup (linkStep w h (e, .expiry)) = b')
    (hresets : b'.resets = (bringup h).resets + 1) (hopen : b'.step ≠ .done)
    (hm : Move (bringup h) g b' { g.expire with heard := [] }) :
    Path (bringup h, g) (bringup (linkStep w h (e, .expiry)), noteLink w h (e, .expiry) g) := by
  have hne : b'.resets ≠ (bringup h).resets := by omega
  apply expiry_of_move w e g hstep ?_ hm
  rw [noteLink_expiry w e g hp, storesDone_step w e hpass, hstep, if_neg hne, if_neg hcmd,
    decide_eq_false fun h => hopen h.2, Bool.or_false]
  rfl

theorem expiry_leave (ht : h.link.task = true) (hp : 0 < h.pending .linkCheck) (hs : h.link.step = .leave) :
    Path (bringup h, g) (bringup (linkStep w h (e, .expiry)), noteLink w h (e, .expiry) g) := by
  have hs' : (h.deliver .linkCheck).link.step = .leave := hs
  have hcmd : h.link.step ≠ .cmd := by simp [hs]
  have hpass : h.link.step ≠ .pass := by simp [hs]
  by_cases hnext : h.link.leaveNext = .reset
  · have hnext' : (h.deliver .linkCheck).link.leaveNext = .reset := hnext
    have hstep : bringup (linkStep w h (e, .expiry)) =
        ask .reset { bringup h with tries := 0, resetSeen := false } := by
      rw [linkStep_expiry w e hp, shWisunOnTimeout, hs']
      dsimp only
      rw [onLeaveTimeout, if_pos hnext']
      dsimp only
      rw [bringup_shWisunArm]
      exact ask_checks (b := { bringup h with tries := 0, resetSeen := false }) .reset ht _
    exact expiry_plain w e g hp hcmd hpass hstep rfl Step.noConfusion (.leaveReset hs hnext)
  · have hnext' : ¬ (h.deliver .linkCheck).link.leaveNext = .reset := hnext
    have hstep : bringup (linkStep w h (e, .expiry)) = ask .dest (bringup h) := by
      rw [linkStep_expiry w e hp, shWisunOnTimeout, hs']
      dsimp only
      rw [onLeaveTimeout, if_neg hnext', bringup_shWisunArm, bringup_shWisunSendProbe w _ (by decide)]
      exact ask_checks (b := bringup h) .dest ht _
    exact expiry_plain w e g hp hcmd hpass hstep rfl Step.noConfusion (.leaveDest hs hnext)

theorem expiry_dest (ht : h.link.task = true) (hp : 0 < h.pending .linkCheck) (hs : h.link.step = .dest) :
    Path (bringup h, g) (bringup (linkStep w h (e, .expiry)), noteLink w h (e, .expiry) g) := by
  have hs' : (h.deliver .linkCheck).link.step = .dest := hs
  have hcmd : h.link.step ≠ .cmd := by simp [hs]
  have hpass : h.link.step ≠ .pass := by simp [hs]
  have hstep : bringup (linkStep w h (e, .expiry)) = ask .pass (bringup h) := by
    rw [linkStep_expiry w e hp, shWisunOnTimeout, hs']
    dsimp only
    rw [onDestTimeout, bringup_shWisunArm, bringup_shWisunSendProbe w _ (by decide)]
    exact ask_checks (b := bringup h) .pass ht _
  exact expiry_plain w e g hp hcmd hpass hstep rfl Step.noConfusion (.enter hs)

theorem expiry_idle (hp : 0 < h.pending .linkCheck) (hs : h.link.step = .idle ∨ h.link.step = .done) :
    Path (bringup h, g) (bringup (linkStep w h (e, .expiry)), noteLink w h (e, .expiry) g) := by
  have hcmd : h.link.step ≠ .cmd := by
    obtain hs | hs := hs <;> simp [hs]
  have hpass : h.link.step ≠ .pass := by
    obtain hs | hs := hs <;> simp [hs]
  have hstep : bringup (linkStep w h (e, .expiry)) =
      { bringup h with checks := h.pending .linkCheck - 1 } := by
    rw [linkStep_expiry w e hp, ← bringup_deliver]
    congr 1
    unfold shWisunOnTimeout
    obtain hs | hs := hs
    · have hs' : (h.deliver .linkCheck).link.step = .idle := hs
      rw [hs']
    · have hs' : (h.deliver .linkCheck).link.step = .done := hs
      rw [hs']
  have hnone : ¬ (h.link.step ≠ Step.done ∧ h.link.step = Step.done) := fun h => h.1 h.2
  apply expiry_of_move w e g hstep ?_ (.idle hs _)
  rw [noteLink_expiry w e g hp, storesDone_step w e hpass, hstep, if_pos rfl, if_neg hcmd]
  change { g.expire with reached := g.reached || decide (h.link.step ≠ Step.done ∧ h.link.step = Step.done) } = _
  rw [decide_eq_false hnone, Bool.or_false]
  rfl

theorem expiry_cmd (ht : h.link.task = true) (hp : 0 < h.pending .linkCheck) (hs : h.link.step = .cmd) :
    Path (bringup h, g) (bringup (linkStep w h (e, .expiry)), noteLink w h (e, .expiry) g) := by
  have hs' : (h.deliver .linkCheck).link.step = .cmd := hs
  have hpass : h.link.step ≠ .pass := by simp [hs]
  have hstep : bringup (linkStep w h (e, .expiry)) =
      let b := probed (shAtReplyOk h.link) (bringup h)
      if b.atIdx < shAtCmds.length then ask .cmd b else finish b := by
    rw [linkStep_expiry w e hp, shWisunOnTimeout, hs']
    dsimp only
    have ht' : (h.deliver .linkCheck).link.task = true := ht
    rw [bringup_onCmdTimeout w ht', bringup_deliver]
    dsimp only
    split
    · next hlt =>
      have hlt' : (probed (shAtReplyOk h.link) (bringup h)).atIdx < shAtCmds.length := hlt
      rw [if_pos hlt']
      exact ask_checks (b := probed (shAtReplyOk h.link) (bringup h)) .cmd ht _
    · next hlt =>
      have hlt' : ¬ (probed (shAtReplyOk h.link) (bringup h)).atIdx < shAtCmds.length := hlt
      rw [if_neg hlt']
      exact finish_checks (b := probed (shAtReplyOk h.link) (bringup h)) ht _
  have hresets : (bringup (linkStep w h (e, .expiry))).resets = (bringup h).resets := by
    rw [hstep]
    dsimp only
    split <;> rfl
  have hnote : noteLink w h (e, .expiry) g =
      { g.expire with probes := g.probes ++ [(h.link.atIdx, shAtReplyOk h.link)] } := by
    have hopen : ¬ (h.link.step ≠ .done ∧ (bringup (linkStep w h (e, .expiry))).step = .done) := by
      rw [hstep]
      dsimp only
      split <;> exact fun h => Step.noConfusion h.2
    rw [noteLink_expiry w e g hp, storesDone_step w e hpass, if_pos hresets, if_pos hs, decide_eq_false hopen,
      Bool.or_false]
    rfl
  dsimp only at hstep
  split at hstep
  · next hlt => exact expiry_of_move w e g hstep hnote (.probeNext hs _ hlt)
  · next hlt => exact expiry_of_move w e g hstep hnote (.probeLast hs _ (Nat.not_lt.mp hlt))

theorem bringup_probe_first (ht : h.link.task = true) (hidx : h.link.atIdx = 0) :
    bringup (shAtSendCurrent w h) = ask .cmd (bringup h) := by
  rw [bringup_shAtSendCurrent w ht, hidx]
  exact if_pos (by decide)

theorem expiry_reset (ht : h.link.task = true) (hp : 0 < h.pending .linkCheck) (hs : h.link.step = .reset) :
    Path (bringup h, g) (bringup (linkStep w h (e, .expiry)), noteLink w h (e, .expiry) g) := by
  have hs' : (h.deliver .linkCheck).link.step = .reset := hs
  have hcmd : h.link.step ≠ .cmd := by simp [hs]
  have hpass : h.link.step ≠ .pass := by simp [hs]
  have hrun : linkStep w h (e, .expiry) = onResetTimeout w (h.deliver .linkCheck) := by
    rw [linkStep_expiry w e hp, shWisunOnTimeout, hs']
  cases hseen : h.link.wisun.resetSeen with
  | true =>
    have hseen' : (h.deliver .linkCheck).link.wisun.resetSeen = true := hseen
    cases hdone : h.link.provDone with
    | true =>
      have hdone' : (h.deliver .linkCheck).link.provDone = true := hdone
      have hstep : bringup (linkStep w h (e, .expiry)) = ask .cmd { bringup h with atIdx := 0 } := by
        rw [hrun, onResetTimeout, if_pos hseen', if_pos hdone']
        refine (bringup_probe_first w ?_ rfl).trans ?_
        · exact ht
        · exact ask_checks (b := { bringup h with atIdx := 0 }) .cmd ht _
      exact expiry_plain w e g hp hcmd hpass hstep rfl Step.noConfusion (.probeFirst hs hdone)
    | false =>
      have hdone' : ¬ (h.deliver .linkCheck).link.provDone = true := by
        rw [Bool.not_eq_true]
        exact hdone
      have hstep : bringup (linkStep w h (e, .expiry)) = ask .provRead (bringup h) := by
        rw [hrun, onResetTimeout, if_pos hseen', if_neg hdone', bringup_shWisunArm,
          bringup_shWisunSendProbe w _ (by decide)]
        exact ask_checks (b := bringup h) .provRead ht _
      exact expiry_plain w e g hp hcmd hpass hstep rfl Step.noConfusion (.provRead hs hdone)
  | false =>
    have hseen' : ¬ (h.deliver .linkCheck).link.wisun.resetSeen = true := by
      rw [Bool.not_eq_true]
      exact hseen
    by_cases htries : h.link.wisun.tries = 0 ∨ h.link.wisun.tries < 2
    · have htries' : (h.deliver .linkCheck).link.wisun.tries = 0 ∨
          (h.deliver .linkCheck).link.wisun.tries < 2 := htries
      have hlt : h.link.wisun.tries < 2 := by omega
      have hstep : bringup (linkStep w h (e, .expiry)) =
          ask .reset { bringup h with tries := h.link.wisun.tries + 1, resets := (bringup h).resets + 1 } := by
        rw [hrun, onResetTimeout, if_neg hseen', if_pos htries']
        dsimp only
        rw [bringup_shWisunArm, bringup_shWisunSendProbe_restart w _ (by decide)]
        simp only [bringup, ask, arm, Helmet.deliver, ht, hs, if_true]
      exact expiry_restart w e g hp hcmd hpass hstep rfl Step.noConfusion (.resetAgain hs hseen hlt)
    · have htries' : ¬ ((h.deliver .linkCheck).link.wisun.tries = 0 ∨
          (h.deliver .linkCheck).link.wisun.tries < 2) := htries
      have hstep : bringup (linkStep w h (e, .expiry)) =
          finish { bringup h with atFail := u8 (h.link.wisun.atFail + 1) } := by
        rw [hrun, onResetTimeout, if_neg hseen', if_neg htries']
        dsimp only
        refine (bringup_shAtFinish w ?_).trans ?_
        · exact ht
        · exact finish_checks (b := { bringup h with atFail := u8 (h.link.wisun.atFail + 1) }) ht _
      exact expiry_plain w e g hp hcmd hpass hstep rfl Step.noConfusion (.resetFail hs)

theorem expiry_provRead (ht : h.link.task = true) (hp : 0 < h.pending .linkCheck) (hs : h.link.step = .provRead) :
    Path (bringup h, g) (bringup (linkStep w h (e, .expiry)), noteLink w h (e, .expiry) g) := by
  have hs' : (h.deliver .linkCheck).link.step = .provRead := hs
  have hcmd : h.link.step ≠ .cmd := by simp [hs]
  have hpass : h.link.step ≠ .pass := by simp [hs]
  have hrun : linkStep w h (e, .expiry) = onProvReadTimeout w (h.deliver .linkCheck) := by
    rw [linkStep_expiry w e hp, shWisunOnTimeout, hs']
  obtain ⟨hlen, hquiet⟩ := planOk_shProvPlan (h := h.deliver .linkCheck)
  by_cases hq : (shProvPlan (h.deliver .linkCheck)).link.provQ = []
  · have hstep : bringup (linkStep w h (e, .expiry)) =
        ask .cmd { bringup h with provQ := [], provI := 0, provDone := true, atIdx := 0 } := by
      rw [hrun, onProvReadTimeout]
      dsimp only
      rw [if_pos hq]
      refine (bringup_probe_first w ?_ rfl).trans ?_
      · exact ht
      · rw [← hq]
        exact ask_checks (b := { bringup h with
          provQ := (shProvPlan (h.deliver .linkCheck)).link.provQ
          provI := 0
          provDone := true
          atIdx := 0 }) .cmd ht _
    exact expiry_plain w e g hp hcmd hpass hstep rfl Step.noConfusion (.provMatched hs)
  · have hstep : bringup (linkStep w h (e, .expiry)) = ask .provSet { bringup h with
        provQ := (shProvPlan (h.deliver .linkCheck)).link.provQ
        provI := 0 } := by
      have hfirst : (shProvPlan (h.deliver .linkCheck)).link.provI <
          (shProvPlan (h.deliver .linkCheck)).link.provQ.length := List.length_pos_of_ne_nil hq
      rw [hrun, onProvReadTimeout]
      dsimp only
      rw [if_neg hq, bringup_shProvSendCurrent w hquiet, if_pos hfirst]
      exact ask_checks (b := { bringup h with
        provQ := (shProvPlan (h.deliver .linkCheck)).link.provQ
        provI := 0 }) .provSet ht _
    exact expiry_plain w e g hp hcmd hpass hstep rfl Step.noConfusion (.provPlan hs _ hq hlen hquiet)

theorem expiry_provSet (ht : h.link.task = true) (hp : 0 < h.pending .linkCheck) (hs : h.link.step = .provSet)
    (hi : Indexed (bringup h)) :
    Path (bringup h, g) (bringup (linkStep w h (e, .expiry)), noteLink w h (e, .expiry) g) := by
  have hs' : (h.deliver .linkCheck).link.step = .provSet := hs
  have hcmd : h.link.step ≠ .cmd := by simp [hs]
  have hpass : h.link.step ≠ .pass := by simp [hs]
  have hrun : linkStep w h (e, .expiry) = onProvSetTimeout w (h.deliver .linkCheck) := by
    rw [linkStep_expiry w e hp, shWisunOnTimeout, hs']
  by_cases hff : h.link.provI = 0xff
  · have hff' : (h.deliver .linkCheck).link.provI = 0xff := hff
    have hstep : bringup (linkStep w h (e, .expiry)) = ask .reset { bringup h with
        provDone := true
        resetSeen := false
        resets := (bringup h).resets + 1 } := by
      rw [hrun, onProvSetTimeout, if_pos hff']
      dsimp only
      rw [bringup_shWisunArm, bringup_shWisunSendProbe_restart w _ (by decide)]
      simp only [bringup, ask, arm, Helmet.deliver, ht, if_true]
    exact expiry_restart w e g hp hcmd hpass hstep rfl Step.noConfusion (.provReset hs hff)
  · have hff' : ¬ (h.deliver .linkCheck).link.provI = 0xff := hff
    have hlt : h.link.provI < h.link.provQ.length ∧ h.link.provQ.length ≤ 8 := (hi.prov_lt hs).resolve_right hff
    have hu8 : u8 ((h.deliver .linkCheck).link.provI + 1) = h.link.provI + 1 := by
      simp only [u8, Helmet.deliver]
      omega
    have hsend := bringup_shProvSendCurrent w (h := { h.deliver .linkCheck with link :=
      { h.link with provI := h.link.provI + 1 } }) hi.provQ
    by_cases hnext : h.link.provI + 1 < h.link.provQ.length
    · have hstep : bringup (linkStep w h (e, .expiry)) =
          ask .provSet { bringup h with provI := h.link.provI + 1 } := by
        rw [hrun, onProvSetTimeout, if_neg hff', hu8]
        refine hsend.trans ((congrArg (ask .provSet) (if_pos hnext)).trans ?_)
        exact ask_checks (b := { bringup h with provI := h.link.provI + 1 }) .provSet ht _
      exact expiry_plain w e g hp hcmd hpass hstep rfl Step.noConfusion (.provNext hs hff hnext)
    · have hstep : bringup (linkStep w h (e, .expiry)) = ask .provSet { bringup h with provI := 0xff } := by
        rw [hrun, onProvSetTimeout, if_neg hff', hu8]
        refine hsend.trans ((congrArg (ask .provSet) (if_neg hnext)).trans ?_)
        exact ask_checks (b := { bringup h with provI := 0xff }) .provSet ht _
      exact expiry_plain w e g hp hcmd hpass hstep rfl Step.noConfusion (.provSave hs hff)

theorem expiry_pass (ht : h.link.task = true) (hp : 0 < h.pending .linkCheck) (hs : h.link.step = .pass) :
    Path (bringup h, g) (bringup (linkStep w h (e, .expiry)), noteLink w h (e, .expiry) g) := by
  have hs' : (h.deliver .linkCheck).link.step = .pass := hs
  have hcmd : h.link.step ≠ .cmd := by simp [hs]
  have hrun : linkStep w h (e, .expiry) = onPassTimeout w e (h.deliver .linkCheck) := by
    rw [linkStep_expiry w e hp, shWisunOnTimeout, hs']
  have hnote (hresets : (bringup (linkStep w h (e, .expiry))).resets = (bringup h).resets) :
      noteLink w h (e, .expiry) g = { g.expire with reached := g.reached || !passRejected h.link } := by
    rw [noteLink_expiry w e g hp, storesDone_pass w e hp hs, if_pos hresets, if_neg hcmd]
    rfl
  rw [onPassTimeout_eq] at hrun
  dsimp only at hrun
  split at hrun
  · next hrej =>
    have hrej' : passRejected h.link = true := by
      simpa [passRejected, shAsmHas, Helmet.deliver] using hrej
    have hstep : bringup (linkStep w h (e, .expiry)) =
        leave .dest { bringup h with retry := h.link.tooLongRetry + 1, asm := [] } := by
      rw [hrun, bringup_leavePassthrough]
      exact leave_checks (b := { bringup h with retry := h.link.tooLongRetry + 1, asm := [] }) .dest ht _
    have hnote' := hnote ((congrArg Bringup.resets hstep).trans rfl)
    rw [hrej', Bool.not_true, Bool.or_false] at hnote'
    exact expiry_of_move w e g hstep hnote' (.passAgain hs hrej.2)
  · next hrej =>
    have hrej' : passRejected h.link = false := by
      rw [← Bool.not_eq_true]
      intro hall
      apply hrej
      simpa [passRejected, shAsmHas, Helmet.deliver] using hall
    have hdone : Move (bringup h) g { bringup h with step := .done, checks := h.pending .linkCheck - 1 }
        { g.expire with reached := true } := .passDone hs _
    have hfinal (t : Helmet) (hr : Rejoins { bringup h with step := .done, checks := h.pending .linkCheck - 1 }
        (bringup t)) (ht : linkStep w h (e, .expiry) = t) :
        Path (bringup h, g) (bringup (linkStep w h (e, .expiry)), noteLink w h (e, .expiry) g) := by
      have hresets : (bringup t).resets = (bringup h).resets := by
        obtain heq | ⟨-, heq⟩ := hr
        · rw [heq]
        · exact (congrArg Bringup.resets heq).trans rfl
      have hnote' := hnote (ht ▸ hresets)
      rw [hrej', Bool.not_false, Bool.or_true] at hnote'
      rw [hnote', ht]
      exact (Path.single hdone).trans (hr.path _)
    have hdelivered (l : Link) : (bringup { h.deliver .linkCheck with link := l }) =
        { bringup { h with link := l } with checks := h.pending .linkCheck - 1 } := by
      simp [bringup, Helmet.deliver]
    split at hrun
    · apply hfinal _ ?_ hrun
      have hr := rejoins_reportStart w e { h.deliver .linkCheck with link := { h.link with
        step := .done
        passthrough := true
        wisun := { h.link.wisun with online := false } } }
      rw [hdelivered] at hr
      exact hr
    · apply hfinal _ ?_ hrun
      exact Or.inl (hdelivered { h.link with step := .done, passthrough := false })

end Expiry

section Stored

variable (w : World) (e : Env) {h : Helmet} {chunk : List UInt8}

end Stored

section Runs

variable (w : World) (e : Env) (h : Helmet)

theorem linkStep_path (ev : Env × LinkEvent) (g : Record) (hs : Sound (bringup h) g) :
    Path (bringup h, g) (bringup (linkStep w h ev), noteLink w h ev g) := by
  obtain ⟨e, ev⟩ := ev
  have ht : h.link.task = true := hs.armed.task
  cases ev with
  | rx chunk =>
    have hpath := shUartConsume_dialogue w e g h chunk
    -- received bytes never restart the module
    have hresets := hpath.resets.2 rfl
    have hnote : noteLink w h (e, .rx chunk) g =
        { g with heard := g.heard ++ chunk, reached := g.reached || storesDone w h (e, .rx chunk) } := by
      unfold noteLink
      dsimp only
      rw [if_pos]
      exact hresets
    rw [hnote]
    exact hpath
  | expiry =>
    by_cases hp : 0 < h.pending .linkCheck
    · cases hstep : h.link.step with
      | idle => exact expiry_idle w e g hp (Or.inl hstep)
      | done => exact expiry_idle w e g hp (Or.inr hstep)
      | reset => exact expiry_reset w e g ht hp hstep
      | cmd => exact expiry_cmd w e g ht hp hstep
      | provRead => exact expiry_provRead w e g ht hp hstep
      | provSet => exact expiry_provSet w e g ht hp hstep hs.indexed
      | dest => exact expiry_dest w e g ht hp hstep
      | pass => exact expiry_pass w e g ht hp hstep
      | leave => exact expiry_leave w e g ht hp hstep
    · have hrun : linkStep w h (e, .expiry) = h := if_neg hp
      have hnote : noteLink w h (e, .expiry) g = g := by
        have hstored : afterStore w h (e, .expiry) = h := (if_neg fun h => hp h.1).trans hrun
        unfold noteLink storesDone
        rw [hrun, hstored]
        simp [hp]
      rw [hrun, hnote]
      exact .refl

theorem sound_linkStart : Sound (bringup (linkStart w e h)) ⟨0, false, [], []⟩ := by
  have htask : (uartInit e h).link.task = true := by
    unfold uartInit
    dsimp only
    split_ifs <;> rfl
  unfold linkStart uartStartVerify
  rw [bringup_leavePassthrough]
  refine ⟨armed_leave htask, ?_, hearing_cleared rfl fun hseen => absurd hseen Bool.false_ne_true, ?_, ?_⟩
  · exact indexed_leave (fun cmd hmem => absurd hmem List.not_mem_nil) (Nat.zero_le 2)
  · exact counted_early Step.noConfusion ⟨rfl, rfl, rfl⟩
  · exact fun _ => ⟨Step.noConfusion, le_refl 37⟩

theorem sound_run (evs : List (Env × LinkEvent)) :
    Sound (bringup (linkRun w e h evs)) (linkRecord w e h evs) := by
  apply History.invariant (P := fun h g => Sound (bringup h) g)
  · exact sound_linkStart w e h
  · intro h g ev hs
    exact (linkStep_path w h ev g hs).sound hs

end Runs

end SmartHelmet.Firmware
