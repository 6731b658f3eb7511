import SmartHelmet.History
import SmartHelmet.LinkFrame
import SmartHelmet.PresenceView

namespace SmartHelmet.Firmware

open MachineArith

inductive LinkCall where
  | init | startVerify | sleep | close | rejoin | expiry
  | reportSent (ok : Bool)
  | rx (chunk : List UInt8)

def linkCallStep (w : World) (h : Helmet) (c : Env × LinkCall) : Helmet :=
  match c.2 with
  | .init => uartInit c.1 h
  | .startVerify => uartStartVerify w h
  | .sleep => uartSleep w h
  | .close => uartClose w h
  | .rejoin => uartRejoin w c.1 h
  | .expiry => if 0 < h.pending .linkCheck then shWisunOnTimeout w c.1 (h.deliver .linkCheck) else h
  | .reportSent ok => uartNoteReportSent w c.1 ok h
  | .rx chunk => shUartDrain w c.1 [chunk] h

def linkCallRun (w : World) (calls : List (Env × LinkCall)) : Helmet := calls.foldl (linkCallStep w) .boot

def uartIsRejoining (h : Helmet) : Bool := h.link.rejoining

def entersAt (h : Helmet) : Bool := decide (0 < h.pending .linkCheck) && entersPassthrough h.link

def passEntered (h : Helmet) : Helmet :=
  { h.deliver .linkCheck with link := { h.link with
    step := .done
    passthrough := true
    wisun := { h.link.wisun with online := false } } }

def reportWritten (w : World) (e : Env) (h : Helmet) : Bool :=
  let (built, line) := reportBuild (reportSample w e h)
  canSend h && (sendFrames w (reportFrames line) built).2

def missesTwelve (l : Link) : Bool := l.sendOkWait && decide (incSat 12 l.missedOk ≥ 12)

/-- The call passes `no send OK` to `SmartHelmet_UartRejoin`. -/
def asksForSendOk (w : World) (h : Helmet) (c : Env × LinkCall) : Bool :=
  match c.2 with
  | .reportSent ok => ok && missesTwelve h.link
  | .expiry => entersAt h && reportWritten w c.1 (passEntered h) && missesTwelve h.link
  | _ => false

def acknowledges (chunk : List UInt8) : Bool := shContainsFold chunk "send ok" && !shContainsFold chunk "send fail"

/-- The reports written since the last `send ok`, `StartVerify` or entry into passthrough, before
the report that the call itself may write. -/
def writtenBefore (h : Helmet) (c : Env × LinkCall) (n : ℕ) : ℕ :=
  match c.2 with
  | .startVerify => 0
  | .expiry => if entersAt h then 0 else n
  | .rx chunk => if h.link.opened && acknowledges chunk then 0 else n
  | _ => n

def writes (w : World) (h : Helmet) (c : Env × LinkCall) : Bool :=
  match c.2 with
  | .reportSent ok => ok
  | .expiry => entersAt h && reportWritten w c.1 (passEntered h)
  | _ => false

def noteWritten (w : World) (h : Helmet) (c : Env × LinkCall) (n : ℕ) : ℕ :=
  writtenBefore h c n + (writes w h c).toNat

def unanswered (w : World) (calls : List (Env × LinkCall)) : ℕ :=
  History.after (linkCallStep w) (noteWritten w) .boot 0 calls

def okDebt (l : Link) : ℕ := l.missedOk + l.sendOkWait.toNat

/-- A session or a passthrough phase begins with the count of an earlier one. -/
def carriesOver (h : Helmet) (c : Env × LinkCall) : Bool :=
  match c.2 with
  | .startVerify => h.link.rejoining || decide (okDebt h.link ≠ 0)
  | .expiry => entersAt h && decide (okDebt h.link ≠ 0)
  | _ => false

def startsFresh (w : World) (h : Helmet) : List (Env × LinkCall) → Bool
  | [] => true
  | c :: calls => !carriesOver h c && startsFresh w (linkCallStep w h c) calls

section Commands

variable (w : World) (e : Env) (h : Helmet)

theorem okDebt_shWisunArm : okDebt (shWisunArm h).link = okDebt h.link := congrArg okDebt (link_shWisunArm h)

theorem okDebt_dropOnline : okDebt (dropOnline h).link = okDebt h.link := by
  unfold dropOnline
  dsimp only
  split <;> rfl

theorem okDebt_leavePassthrough (next : Step) : okDebt (leavePassthrough w next h).link = okDebt h.link := by
  rw [leavePassthrough, okDebt_shWisunArm]
  rfl

theorem okDebt_uartRejoin : okDebt (uartRejoin w e h).link ≤ okDebt h.link := by
  unfold uartRejoin
  split
  · exact le_rfl
  · split
    · exact le_rfl
    · dsimp only
      rw [okDebt_leavePassthrough]
      have hdrop := okDebt_dropOnline { h with link := { h.link with
        rejoinMs := e.timeUs / 1000
        rejoining := true
        passthrough := false } }
      exact (Nat.add_le_add_left (Nat.zero_le _) _).trans hdrop.le

theorem okDebt_uartNoteReportSent (ok : Bool) : okDebt (uartNoteReportSent w e ok h).link ≤ okDebt h.link + ok.toNat := by
  unfold uartNoteReportSent
  cases ok with
  | false => exact (okDebt_uartRejoin w e _).trans (okDebt_dropOnline h).le
  | true =>
    rw [if_neg (by decide)]
    cases hwait : h.link.sendOkWait with
    | false =>
      rw [if_neg (by decide)]
      unfold okDebt
      rw [hwait]
      exact le_rfl
    | true =>
      rw [if_pos rfl]
      have hmiss : okDebt { h.link with missedOk := incSat 12 h.link.missedOk } ≤ okDebt h.link + 1 := by
        have hinc : incSat 12 h.link.missedOk ≤ h.link.missedOk + 1 := by
          unfold incSat
          split_ifs <;> omega
        unfold okDebt
        dsimp only
        omega
      dsimp only
      split
      · exact (okDebt_uartRejoin w e _).trans hmiss
      · exact hmiss

theorem okDebt_uartStopVerify : okDebt (uartStopVerify h).link = okDebt h.link := by
  unfold uartStopVerify
  dsimp only
  split <;> rfl

theorem okDebt_uartClose : okDebt (uartClose w h).link = okDebt h.link := by
  unfold uartClose
  dsimp only
  split_ifs <;> exact (okDebt_uartStopVerify _).trans rfl

theorem okDebt_uartSleep : okDebt (uartSleep w h).link = okDebt h.link := by
  have hstop := okDebt_uartStopVerify h
  unfold uartSleep
  dsimp only
  rw [okDebt_uartClose, ← hstop]
  split <;> rfl

theorem okDebt_uartInit : okDebt (uartInit e h).link = okDebt h.link := by
  unfold uartInit
  dsimp only
  split
  · rfl
  · split <;> rfl

theorem okDebt_shOnCmdTooLong : okDebt (shOnCmdTooLong w h).link = okDebt h.link := by
  unfold shOnCmdTooLong
  dsimp only
  split
  · split
    · rfl
    · exact (okDebt_leavePassthrough w _ _).trans rfl
  · rfl

end Commands

section Receive

variable (w : World) (e : Env) (h : Helmet)

theorem okDebt_shRxLineFlush : okDebt (shRxLineFlush w h).link = okDebt h.link := by
  unfold shRxLineFlush
  split
  · rfl
  · dsimp only
    split
    · exact (okDebt_shOnCmdTooLong w h)
    · rfl

theorem okDebt_shRxByte (b : UInt8) : okDebt (shRxByte w h b).link = okDebt h.link := by
  unfold shRxByte
  split
  · rw [okDebt_shRxLineFlush]
    split <;> rfl
  · split
    · rfl
    · dsimp only
      split
      · exact okDebt_shRxLineFlush w h
      · rfl

theorem okDebt_shRxLinePush (data : List UInt8) : ∀ h : Helmet, okDebt (shRxLinePush w data h).link = okDebt h.link := by
  induction data with
  | nil => exact fun _ => rfl
  | cons b data ih => exact fun h => (ih _).trans (okDebt_shRxByte w h b)

theorem okDebt_noteSendOk : okDebt (noteSendOk h).link = 0 := by
  unfold noteSendOk
  dsimp only
  split_ifs <;> rfl

theorem okDebt_noteSendFail : okDebt (noteSendFail w e h).link ≤ okDebt h.link := by
  have hdrop := okDebt_dropOnline h
  unfold noteSendFail
  refine (okDebt_uartRejoin w e _).trans ?_
  rw [← hdrop]
  exact Nat.add_le_add_left (Nat.zero_le _) _

theorem okDebt_armAfterRx : okDebt (armAfterRx h).link = okDebt h.link := by
  have hbanner : okDebt (shResetNoteBanner h).link = okDebt h.link := by
    unfold shResetNoteBanner
    dsimp only
    split
    · exact (okDebt_shWisunArm _).trans rfl
    · rfl
  unfold armAfterRx
  split
  · dsimp only
    split
    · exact hbanner
    · rw [okDebt_shWisunArm]
      exact hbanner
  · split
    · exact okDebt_shWisunArm h
    · rfl

theorem okDebt_shWisunNoteRx (data : List UInt8) :
    okDebt (shWisunNoteRx w e data h).link ≤ if acknowledges data then 0 else okDebt h.link := by
  unfold shWisunNoteRx
  by_cases hempty : data = []
  · rw [if_pos hempty, hempty]
    exact le_rfl
  · rw [if_neg hempty]
    have hrestart (t : Helmet) :
        okDebt (if shContainsFold data "RESTART_SENSOR" = true then noteRestart t else t).link = okDebt t.link := by
      split <;> rfl
    dsimp only
    rw [hrestart]
    unfold acknowledges
    cases hfail : shContainsFold data "send fail" with
    | true =>
      rw [if_pos rfl, Bool.not_true, Bool.and_false, if_neg Bool.false_ne_true]
      exact okDebt_noteSendFail w e _
    | false =>
      rw [if_neg Bool.false_ne_true, Bool.not_false, Bool.and_true]
      split
      · exact (okDebt_noteSendOk _).le
      · exact le_rfl

theorem okDebt_shUartDrain (chunk : List UInt8) :
    okDebt (shUartDrain w e [chunk] h).link ≤ if h.link.opened && acknowledges chunk then 0 else okDebt h.link := by
  unfold shUartDrain
  cases hopen : h.link.opened with
  | false => exact le_rfl
  | true =>
    rw [if_pos rfl, List.foldl_cons, List.foldl_nil, Bool.true_and]
    unfold shUartConsume
    dsimp only
    rw [okDebt_armAfterRx, okDebt_shRxLinePush]
    exact okDebt_shWisunNoteRx w e _ chunk

end Receive

section Report

variable (w : World) (e : Env) (h : Helmet)

theorem okDebt_sendFrames (frames : List (List UInt8)) :
    ∀ h : Helmet, okDebt (sendFrames w frames h).1.link = okDebt h.link := by
  induction frames with
  | nil => exact fun _ => rfl
  | cons frame frames ih =>
    intro h
    unfold sendFrames
    dsimp only
    split
    · exact ih _
    · rfl

theorem okDebt_reportBuild : okDebt (reportBuild h).1.link = okDebt h.link := by
  obtain ⟨holding, quiet, since, hlatch⟩ := latchMotion_eq h
  unfold reportBuild
  dsimp only
  rw [hlatch]
  rfl

theorem okDebt_reportSample : okDebt (reportSample w e h).link = okDebt h.link := by
  unfold reportSample
  dsimp only
  split <;> rfl

theorem okDebt_reportStart : okDebt (reportStart w e h).link ≤ okDebt h.link + (reportWritten w e h).toNat := by
  have hbuilt : okDebt (reportBuild (reportSample w e h)).1.link = okDebt h.link := by
    rw [okDebt_reportBuild, okDebt_reportSample]
  unfold reportStart reportWritten
  dsimp only
  cases hcan : canSend h with
  | false =>
    rw [if_neg Bool.false_ne_true]
    exact (okDebt_reportBuild h).le
  | true =>
    rw [if_pos rfl, Bool.true_and, ← hbuilt]
    generalize reportBuild (reportSample w e h) = built
    have hsent := okDebt_sendFrames w (reportFrames built.2) built.1
    rw [← hsent]
    exact okDebt_uartNoteReportSent w e _ _

end Report

section Dialogue

variable (w : World) (e : Env) (h : Helmet)

theorem okDebt_shProvSendCurrent : okDebt (shProvSendCurrent w h).link = okDebt h.link := by
  unfold shProvSendCurrent
  split
  · exact (okDebt_shWisunArm _).trans rfl
  · exact (okDebt_shWisunArm _).trans rfl

theorem okDebt_shAtFinish : okDebt (shAtFinish w h).link = okDebt h.link := by
  unfold shAtFinish
  dsimp only
  rw [okDebt_leavePassthrough]
  split <;> rfl

theorem okDebt_shAtSendCurrent : okDebt (shAtSendCurrent w h).link = okDebt h.link := by
  unfold shAtSendCurrent
  split
  · exact okDebt_shAtFinish w h
  · exact (okDebt_shWisunArm _).trans rfl

theorem okDebt_onResetTimeout : okDebt (onResetTimeout w h).link = okDebt h.link := by
  unfold onResetTimeout
  split
  · split
    · exact okDebt_shAtSendCurrent w _
    · exact (okDebt_shWisunArm _).trans rfl
  · split
    · exact (okDebt_shWisunArm _).trans rfl
    · exact okDebt_shAtFinish w _

theorem okDebt_onProvReadTimeout : okDebt (onProvReadTimeout w h).link = okDebt h.link := by
  unfold onProvReadTimeout
  dsimp only
  split
  · exact okDebt_shAtSendCurrent w _
  · exact okDebt_shProvSendCurrent w _

theorem okDebt_onProvSetTimeout : okDebt (onProvSetTimeout w h).link = okDebt h.link := by
  unfold onProvSetTimeout
  split
  · exact (okDebt_shWisunArm _).trans rfl
  · exact okDebt_shProvSendCurrent w _

theorem okDebt_onLeaveTimeout : okDebt (onLeaveTimeout w h).link = okDebt h.link := by
  unfold onLeaveTimeout
  split
  · exact (okDebt_shWisunArm _).trans rfl
  · exact (okDebt_shWisunArm _).trans rfl

theorem okDebt_onDestTimeout : okDebt (onDestTimeout w h).link = okDebt h.link := (okDebt_shWisunArm _).trans rfl

theorem okDebt_onCmdTimeout : okDebt (onCmdTimeout w h).link = okDebt h.link := by
  unfold onCmdTimeout shAtNoteResult
  dsimp only
  rw [okDebt_shAtSendCurrent]
  rfl

theorem okDebt_onPassTimeout (hpass : h.link.step = .pass) (hstay : entersPassthrough h.link = false) :
    okDebt (onPassTimeout w e h).link = okDebt h.link := by
  rcases onPassTimeout_stays w e h hpass hstay with hleave | hdone
  · rw [hleave]
    exact okDebt_leavePassthrough w _ _
  · rw [hdone]
    rfl

theorem okDebt_shWisunOnTimeout (hstay : entersPassthrough h.link = false) :
    okDebt (shWisunOnTimeout w e h).link = okDebt h.link := by
  unfold shWisunOnTimeout
  split
  · exact okDebt_onResetTimeout w h
  · exact okDebt_onProvReadTimeout w h
  · exact okDebt_onProvSetTimeout w h
  · exact okDebt_onLeaveTimeout w h
  · exact okDebt_onDestTimeout w h
  · next hpass => exact okDebt_onPassTimeout w e h hpass hstay
  · exact okDebt_onCmdTimeout w h
  · rfl
  · rfl

theorem shWisunOnTimeout_enters (henters : entersAt h = true) :
    shWisunOnTimeout w e (h.deliver .linkCheck) = reportStart w e (passEntered h) := by
  have henter : entersPassthrough h.link = true := (Bool.and_eq_true_iff.mp henters).2
  have hpass : h.link.step = .pass := by
    unfold entersPassthrough at henter
    simp only [Bool.and_eq_true, decide_eq_true_eq] at henter
    exact henter.1.1
  unfold shWisunOnTimeout
  have hstep : (h.deliver .linkCheck).link.step = .pass := hpass
  rw [hstep]
  exact onPassTimeout_enters w e (h.deliver .linkCheck) hpass henter

end Dialogue

section Runs

variable (w : World)

theorem okDebt_step {h : Helmet} {c : Env × LinkCall} {n : ℕ} (howed : okDebt h.link ≤ n)
    (hfresh : carriesOver h c = false) : okDebt (linkCallStep w h c).link ≤ noteWritten w h c n := by
  obtain ⟨e, call⟩ := c
  cases call with
  | init => exact (okDebt_uartInit e h).trans_le howed
  | startVerify =>
    unfold carriesOver at hfresh
    dsimp only at hfresh
    rw [Bool.or_eq_false_iff, decide_eq_false_iff_not, not_not] at hfresh
    have hverify : okDebt (uartStartVerify w h).link = okDebt h.link := okDebt_leavePassthrough w _ .reset
    exact (hverify.trans hfresh.2).trans_le (Nat.zero_le _)
  | sleep => exact (okDebt_uartSleep w h).trans_le howed
  | close => exact (okDebt_uartClose w h).trans_le howed
  | rejoin => exact (okDebt_uartRejoin w e h).trans howed
  | reportSent ok => exact (okDebt_uartNoteReportSent w e h ok).trans (Nat.add_le_add_right howed _)
  | rx chunk =>
    have hdrain := okDebt_shUartDrain w e h chunk
    unfold noteWritten writtenBefore writes linkCallStep
    dsimp only
    rw [Bool.toNat_false, Nat.add_zero]
    split
    · next hack => rwa [if_pos hack] at hdrain
    · next hack =>
      rw [if_neg hack] at hdrain
      exact hdrain.trans howed
  | expiry =>
    unfold noteWritten writtenBefore writes linkCallStep
    unfold carriesOver at hfresh
    dsimp only at hfresh ⊢
    cases henters : entersAt h with
    | true =>
      rw [henters, Bool.true_and, decide_eq_false_iff_not, not_not] at hfresh
      have hpending : 0 < h.pending .linkCheck := of_decide_eq_true (Bool.and_eq_true_iff.mp henters).1
      have hreport := okDebt_reportStart w e (passEntered h)
      have hentered : okDebt (passEntered h).link = 0 := hfresh
      rw [hentered] at hreport
      rw [if_pos hpending, if_pos rfl, Bool.true_and, shWisunOnTimeout_enters w e h henters]
      exact hreport
    | false =>
      rw [if_neg Bool.false_ne_true, Bool.false_and, Bool.toNat_false, Nat.add_zero]
      split
      · next hpending =>
        unfold entersAt at henters
        rw [decide_eq_true hpending, Bool.true_and] at henters
        exact (okDebt_shWisunOnTimeout w e (h.deliver .linkCheck) henters).trans_le howed
      · exact howed

theorem startsFresh_append {before after : List (Env × LinkCall)} {h : Helmet}
    (hfresh : startsFresh w h (before ++ after) = true) :
    startsFresh w h before = true ∧ startsFresh w (before.foldl (linkCallStep w) h) after = true := by
  induction before generalizing h with
  | nil => exact ⟨rfl, hfresh⟩
  | cons c before ih =>
    rw [List.cons_append, startsFresh, Bool.and_eq_true_iff] at hfresh
    obtain ⟨hbefore, hafter⟩ := ih hfresh.2
    rw [startsFresh, Bool.and_eq_true_iff, List.foldl_cons]
    exact ⟨⟨hfresh.1, hbefore⟩, hafter⟩

theorem not_carriesOver {before after : List (Env × LinkCall)} {c : Env × LinkCall}
    (hfresh : startsFresh w .boot (before ++ c :: after) = true) : carriesOver (linkCallRun w before) c = false := by
  have hhere := (startsFresh_append w hfresh).2
  rw [startsFresh, Bool.and_eq_true_iff, Bool.not_eq_true'] at hhere
  exact hhere.1

theorem okDebt_le_unanswered {calls : List (Env × LinkCall)} (hfresh : startsFresh w .boot calls = true) :
    okDebt (linkCallRun w calls).link ≤ unanswered w calls := by
  induction calls using List.reverseRecOn with
  | nil => exact Nat.zero_le _
  | append_singleton calls c ih =>
    have hbefore := (startsFresh_append w hfresh).1
    rw [unanswered, History.after_concat, linkCallRun, List.foldl_append, List.foldl_cons, List.foldl_nil]
    exact okDebt_step w (ih hbefore) (not_carriesOver w hfresh)

theorem twelve_le_okDebt {l : Link} (hmisses : missesTwelve l = true) : 12 ≤ okDebt l := by
  unfold missesTwelve at hmisses
  rw [Bool.and_eq_true_iff, decide_eq_true_eq] at hmisses
  obtain ⟨hwait, htwelve⟩ := hmisses
  unfold okDebt
  rw [hwait, Bool.toNat_true]
  unfold incSat at htwelve
  split_ifs at htwelve <;> omega

theorem rejoining_uartStartVerify (h : Helmet) : (uartStartVerify w h).link.rejoining = h.link.rejoining := by
  unfold uartStartVerify leavePassthrough shWisunArm
  split <;> rfl

end Runs

theorem link_supervision_fresh (w : World) (before : List (Env × LinkCall)) (c : Env × LinkCall)
    (hfresh : startsFresh w .boot (before ++ [c]) = true) :
    (asksForSendOk w (linkCallRun w before) c = true →
      12 ≤ writtenBefore (linkCallRun w before) c (unanswered w before)) ∧
    (c.2 = .startVerify → uartIsRejoining (linkCallRun w (before ++ [c])) = false) := by
  have hhere := not_carriesOver w hfresh
  have howed := okDebt_le_unanswered w (startsFresh_append w hfresh).1
  have hlast : linkCallRun w (before ++ [c]) = linkCallStep w (linkCallRun w before) c := by
    rw [linkCallRun, List.foldl_append, List.foldl_cons, List.foldl_nil, linkCallRun]
  rw [hlast]
  generalize linkCallRun w before = h at *
  obtain ⟨e, call⟩ := c
  cases call with
  | reportSent ok =>
    refine ⟨fun hasks => ?_, fun hstart => LinkCall.noConfusion hstart⟩
    exact (twelve_le_okDebt (Bool.and_eq_true_iff.mp hasks).2).trans howed
  | expiry =>
    refine ⟨fun hasks => ?_, fun hstart => LinkCall.noConfusion hstart⟩
    -- an entry that carries nothing over has nothing to count
    unfold asksForSendOk at hasks
    unfold carriesOver at hhere
    dsimp only at hasks hhere
    rw [Bool.and_eq_true_iff, Bool.and_eq_true_iff] at hasks
    rw [hasks.1.1, Bool.true_and, decide_eq_false_iff_not, not_not] at hhere
    have htwelve := twelve_le_okDebt hasks.2
    omega
  | startVerify =>
    refine ⟨fun hasks => absurd hasks Bool.false_ne_true, fun _ => ?_⟩
    unfold carriesOver at hhere
    dsimp only at hhere
    rw [Bool.or_eq_false_iff] at hhere
    exact (rejoining_uartStartVerify w h).trans hhere.1
  | init | sleep | close | rejoin | rx =>
    exact ⟨fun hasks => absurd hasks Bool.false_ne_true, fun hstart => LinkCall.noConfusion hstart⟩

def silent (c : LinkCall) : Env × LinkCall := ({}, c)

def silentSession (reports : ℕ) : List (Env × LinkCall) :=
  [silent .init, silent .startVerify] ++ List.replicate 7 (silent .expiry) ++
    List.replicate reports (silent (.reportSent true))

theorem link_supervision_first_session :
    asksForSendOk plainWorld (linkCallRun plainWorld (silentSession 12)) (silent (.reportSent true)) = true ∧
      12 ≤ unanswered plainWorld (silentSession 12) := by
  have hfresh : startsFresh plainWorld .boot (silentSession 12 ++ [silent (.reportSent true)]) = true := by
    decide
  have hasks : asksForSendOk plainWorld (linkCallRun plainWorld (silentSession 12)) (silent (.reportSent true)) = true := by
    decide
  exact ⟨hasks, (link_supervision_fresh plainWorld _ _ hfresh).1 hasks⟩

/-- After a power cycle the flag of the old rejoin stands, and the second report of the new
session asks for another one. -/
theorem link_supervision_carried_over :
    let first := silentSession 13 ++ [silent .sleep, silent .init]
    uartIsRejoining (linkCallRun plainWorld (first ++ [silent .startVerify])) = true ∧
      asksForSendOk plainWorld (linkCallRun plainWorld (first ++ silentSession 1)) (silent (.reportSent true)) = true ∧
      unanswered plainWorld (first ++ silentSession 1) = 1 := by
  decide

end SmartHelmet.Firmware
