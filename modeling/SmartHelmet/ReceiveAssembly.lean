import SmartHelmet.BringupRuns
import SmartHelmet.KeywordScan
import SmartHelmet.LinkFrame
import SmartHelmet.SessionSteps

namespace SmartHelmet.Firmware

open MachineArith

def received (h : Helmet) : Event → List UInt8
  | .moreData chunks => if h.link.opened then chunks.flatten else []
  | .timer .rxPoll chunks => if 0 < h.pending .rxPoll ∧ h.link.opened then chunks.flatten else []
  | _ => []

def clearsOnExpiry (l : Link) : Bool :=
  match l.step with
  | .idle | .done => false
  | .pass => passRejected l
  | _ => true

def clearsAsm (h : Helmet) (ev : Event) : Bool :=
  startsSession h ev || match ev with
    | .timer .linkCheck _ => decide (0 < h.pending .linkCheck) && clearsOnExpiry h.link
    | _ => false

def noteReceived (h : Helmet) (ev : Env × Event) (since : List UInt8) : List UInt8 :=
  if clearsAsm h ev.2 then [] else since ++ received h ev.2

def receivedSinceClear (w : World) (events : List (Env × Event)) : List UInt8 :=
  History.after (fun h ev => step w h ev.1 ev.2) noteReceived .boot [] events

section Receive

variable (w : World) (e : Env) (h : Helmet)

theorem rxAsm_shWisunArm : (shWisunArm h).link.rxAsm = h.link.rxAsm := congrArg Link.rxAsm (link_shWisunArm h)

theorem rxAsm_leavePassthrough (next : Step) : (leavePassthrough w next h).link.rxAsm = h.link.rxAsm :=
  rxAsm_shWisunArm _

theorem rxAsm_shOnCmdTooLong : (shOnCmdTooLong w h).link.rxAsm = h.link.rxAsm := by
  unfold shOnCmdTooLong
  dsimp only
  split
  · split
    · rfl
    · exact rxAsm_leavePassthrough w _ _
  · rfl

theorem rxAsm_shRxLineFlush : (shRxLineFlush w h).link.rxAsm = h.link.rxAsm := by
  unfold shRxLineFlush
  split
  · rfl
  · dsimp only
    split
    · exact rxAsm_shOnCmdTooLong w h
    · rfl

theorem rxAsm_shRxByte (b : UInt8) : (shRxByte w h b).link.rxAsm = h.link.rxAsm := by
  unfold shRxByte
  split
  · rw [rxAsm_shRxLineFlush]
    split <;> rfl
  · split
    · rfl
    · dsimp only
      split
      · exact rxAsm_shRxLineFlush w h
      · rfl

theorem rxAsm_shRxLinePush (data : List UInt8) : ∀ h : Helmet, (shRxLinePush w data h).link.rxAsm = h.link.rxAsm := by
  induction data with
  | nil => exact fun _ => rfl
  | cons b data ih => exact fun h => (ih _).trans (rxAsm_shRxByte w h b)

theorem rxAsm_shWisunNoteRx (data : List UInt8) : (shWisunNoteRx w e data h).link.rxAsm = h.link.rxAsm := by
  have hasm {b : Bringup} (hn : Noted (bringup h) b) : b.asm = h.link.rxAsm := by
    cases hn <;> rfl
  exact hasm (noted_shWisunNoteRx w e data h)

theorem rxAsm_armAfterRx : (armAfterRx h).link.rxAsm = h.link.rxAsm := by
  have hbanner : (shResetNoteBanner h).link.rxAsm = h.link.rxAsm := by
    unfold shResetNoteBanner
    dsimp only
    split
    · exact rxAsm_shWisunArm _
    · rfl
  unfold armAfterRx
  split
  · dsimp only
    split
    · exact hbanner
    · exact (rxAsm_shWisunArm _).trans hbanner
  · split
    · exact rxAsm_shWisunArm h
    · rfl

theorem rxAsm_shUartConsume (chunk : List UInt8) :
    (shUartConsume w e h chunk).link.rxAsm = h.link.rxAsm ++ chunk.take (512 - h.link.rxAsm.length) := by
  unfold shUartConsume
  dsimp only
  rw [rxAsm_armAfterRx, rxAsm_shRxLinePush, rxAsm_shWisunNoteRx]

theorem append_take_eq {asm : List UInt8} (h : asm.length ≤ 512) (chunk : List UInt8) :
    asm ++ chunk.take (512 - asm.length) = (asm ++ chunk).take 512 := by
  rw [List.take_append, List.take_of_length_le h]

theorem take_append_take (xs ys : List UInt8) : (xs.take 512 ++ ys).take 512 = (xs ++ ys).take 512 := by
  rw [List.take_append, List.take_append, List.take_take, List.length_take, Nat.min_self]
  congr 2
  omega

theorem rxAsm_shUartDrain (chunks : List (List UInt8)) (hlen : h.link.rxAsm.length ≤ 512) :
    (shUartDrain w e chunks h).link.rxAsm =
      (h.link.rxAsm ++ if h.link.opened then chunks.flatten else []).take 512 := by
  have hfold (t : Helmet) (ht : t.link.rxAsm.length ≤ 512) :
      (chunks.foldl (shUartConsume w e) t).link.rxAsm = (t.link.rxAsm ++ chunks.flatten).take 512 := by
    induction chunks generalizing t with
    | nil => rw [List.foldl_nil, List.flatten_nil, List.append_nil, List.take_of_length_le ht]
    | cons chunk chunks ih =>
      have hasm := rxAsm_shUartConsume w e t chunk
      rw [append_take_eq ht] at hasm
      have hlen' : (shUartConsume w e t chunk).link.rxAsm.length ≤ 512 := by
        rw [hasm, List.length_take]
        exact min_le_left _ _
      rw [List.foldl_cons, ih _ hlen', hasm, take_append_take, List.flatten_cons, List.append_assoc]
  unfold shUartDrain
  split
  · exact hfold h hlen
  · rw [List.append_nil, List.take_of_length_le hlen]

end Receive

section Dialogue

variable (w : World) (e : Env) (h : Helmet)

theorem rxAsm_of_rejoins {t : Helmet} (hr : Rejoins (bringup h) (bringup t)) : t.link.rxAsm = h.link.rxAsm := by
  rcases hr with hr | ⟨-, hr⟩
  · exact congrArg Bringup.asm hr
  · exact congrArg Bringup.asm hr

theorem rxAsm_reportStart : (reportStart w e h).link.rxAsm = h.link.rxAsm :=
  rxAsm_of_rejoins h (rejoins_reportStart w e h)

theorem rxAsm_shAtFinish : (shAtFinish w h).link.rxAsm = [] := rxAsm_leavePassthrough w _ _

theorem rxAsm_shAtSendCurrent : (shAtSendCurrent w h).link.rxAsm = [] := by
  unfold shAtSendCurrent
  split
  · exact rxAsm_shAtFinish w h
  · exact rxAsm_shWisunArm _

theorem rxAsm_shProvSendCurrent : (shProvSendCurrent w h).link.rxAsm = [] := by
  unfold shProvSendCurrent
  split
  · exact rxAsm_shWisunArm _
  · exact rxAsm_shWisunArm _

theorem rxAsm_onResetTimeout : (onResetTimeout w h).link.rxAsm = [] := by
  unfold onResetTimeout
  split
  · split
    · exact rxAsm_shAtSendCurrent w _
    · exact rxAsm_shWisunArm _
  · split
    · exact rxAsm_shWisunArm _
    · exact rxAsm_shAtFinish w _

theorem rxAsm_onProvReadTimeout : (onProvReadTimeout w h).link.rxAsm = [] := by
  unfold onProvReadTimeout
  dsimp only
  split
  · exact rxAsm_shAtSendCurrent w _
  · exact rxAsm_shProvSendCurrent w _

theorem rxAsm_onProvSetTimeout : (onProvSetTimeout w h).link.rxAsm = [] := by
  unfold onProvSetTimeout
  split
  · exact rxAsm_shWisunArm _
  · exact rxAsm_shProvSendCurrent w _

theorem rxAsm_onLeaveTimeout : (onLeaveTimeout w h).link.rxAsm = [] := by
  unfold onLeaveTimeout
  split
  · exact rxAsm_shWisunArm _
  · exact rxAsm_shWisunArm _

theorem rxAsm_onPassTimeout : (onPassTimeout w e h).link.rxAsm = if passRejected h.link then [] else h.link.rxAsm := by
  have hsame : ((shAsmHas h.link "cmd too long" || shAsmHas h.link "format err") = true ∧ h.link.tooLongRetry < 2) =
      (passRejected h.link = true) := by
    rw [passRejected, Bool.and_eq_true, decide_eq_true_eq]
  rw [onPassTimeout_eq]
  simp only [hsame]
  split
  · exact rxAsm_leavePassthrough w _ _
  · split
    · exact rxAsm_reportStart w e _
    · rfl

theorem rxAsm_shWisunOnTimeout :
    (shWisunOnTimeout w e h).link.rxAsm = if clearsOnExpiry h.link then [] else h.link.rxAsm := by
  unfold shWisunOnTimeout clearsOnExpiry
  cases h.link.step with
  | reset => exact rxAsm_onResetTimeout w h
  | provRead => exact rxAsm_onProvReadTimeout w h
  | provSet => exact rxAsm_onProvSetTimeout w h
  | leave => exact rxAsm_onLeaveTimeout w h
  | dest => exact rxAsm_shWisunArm _
  | pass => exact rxAsm_onPassTimeout w e h
  | cmd => exact rxAsm_shAtSendCurrent w _
  | idle | done => rfl

end Dialogue

section Tasks

variable (w : World) (e : Env) (h : Helmet)

theorem rxAsm_afterSensors : (afterSensors w e h).link.rxAsm = h.link.rxAsm := by
  unfold afterSensors
  split
  · exact rxAsm_reportStart w e h
  · rfl

theorem rxAsm_shLis3dhLogSample : (shLis3dhLogSample w e h).link.rxAsm = h.link.rxAsm := by
  unfold shLis3dhLogSample
  cases e.lis3dhLog with
  | none => rfl
  | some r =>
    dsimp only
    unfold logChange
    split
    · exact rxAsm_reportStart w e _
    · rfl

theorem rxAsm_lis3dhChk (enable : Bool) : (lis3dhChk w e enable h).link.rxAsm = h.link.rxAsm := by
  unfold lis3dhChk
  split
  · rfl
  · split
    · rw [link_shLis3dhLogArm]
      exact rxAsm_shLis3dhLogSample w e h
    · rfl

theorem rxAsm_shRxPollArm : (shRxPollArm h).link.rxAsm = h.link.rxAsm := by
  unfold shRxPollArm
  split <;> rfl

end Tasks

section Power

variable (w : World) (e : Env) (h : Helmet)

theorem rxAsm_uartStopVerify : (uartStopVerify h).link.rxAsm = h.link.rxAsm := by
  unfold uartStopVerify
  dsimp only
  split <;> rfl

theorem rxAsm_uartClose : (uartClose w h).link.rxAsm = h.link.rxAsm := by
  have hleft : (if h.link.opened = true then shWisunSendProbe w "exit" h else h).link.rxAsm = h.link.rxAsm := by
    split <;> rfl
  unfold uartClose
  dsimp only
  generalize (if h.link.opened = true then shWisunSendProbe w "exit" h else h) = left at hleft ⊢
  have hstop := rxAsm_uartStopVerify { left with link := { left.link with passthrough := false } }
  split
  · exact hstop.trans hleft
  · exact hstop.trans hleft

theorem rxAsm_uartSleep : (uartSleep w h).link.rxAsm = h.link.rxAsm := by
  have hstop := rxAsm_uartStopVerify h
  unfold uartSleep
  dsimp only
  generalize uartStopVerify h = stopped at hstop ⊢
  rw [rxAsm_uartClose]
  split
  · exact hstop
  · exact hstop

theorem rxAsm_powerOff : (powerOff w h).link.rxAsm = h.link.rxAsm := by
  unfold powerOff
  split
  · rfl
  · dsimp only
    rw [link_adcStop, rxAsm_uartSleep]
    exact congrArg Link.rxAsm (link_sensorsStopVerify _)

theorem rxAsm_close : (close w h).link.rxAsm = h.link.rxAsm := by
  unfold close
  dsimp only
  change (uartClose w _).link.rxAsm = _
  rw [rxAsm_uartClose, link_adcStop]
  exact congrArg Link.rxAsm (link_sensorsStopVerify h)

theorem rxAsm_init : (init w e h).link.rxAsm = h.link.rxAsm := by
  have hclosed : (if h.ready then close w h else h).link.rxAsm = h.link.rxAsm := by
    split
    · exact rxAsm_close w h
    · rfl
  unfold init
  dsimp only
  rw [← hclosed]
  split <;> rfl

theorem rxAsm_powerOn : (powerOn w e h).link.rxAsm = if h.ready && !h.powered then [] else h.link.rxAsm := by
  have hstart (t : Helmet) : (uartStartVerify w t).link.rxAsm = [] := rxAsm_leavePassthrough w _ _
  unfold powerOn
  cases h.ready <;> cases h.powered
  · rfl
  · rfl
  · change (reportStart w e (adcRequestScan _)).link.rxAsm = []
    rw [rxAsm_reportStart, link_adcRequestScan, hstart]
  · rfl

end Power

section Runs

variable (w : World) (e : Env) (h : Helmet)

theorem rxAsm_onTimer {m : Msg} (hrx : m ≠ .rxPoll) (hcheck : m ≠ .linkCheck) (chunks : List (List UInt8)) :
    (onTimer w e m chunks h).link.rxAsm = h.link.rxAsm := by
  cases m with
  | reportTick => exact rxAsm_reportStart w e h
  | motionPoll => exact congrArg Link.rxAsm (link_motionPoll w e h)
  | i2cRetry => rw [onTimer, rxAsm_afterSensors, link_shSensorsVerifyPass]
  | logTick => rw [onTimer, rxAsm_afterSensors, link_shLis3dhLogArm, rxAsm_shLis3dhLogSample]
  | adcScan => exact congrArg Link.rxAsm (link_adcScanTick h)
  | adcSens => exact congrArg Link.rxAsm (link_adcSensTick h)
  | rxPoll => exact absurd rfl hrx
  | linkCheck => exact absurd rfl hcheck

theorem rxAsm_timer (hlen : h.link.rxAsm.length ≤ 512) (m : Msg) (chunks : List (List UInt8)) :
    (step w h e (.timer m chunks)).link.rxAsm =
      if clearsAsm h (.timer m chunks) then [] else (h.link.rxAsm ++ received h (.timer m chunks)).take 512 := by
  by_cases hn : 0 < h.pending m
  · have hstep : step w h e (.timer m chunks) = onTimer w e m chunks (h.deliver m) := if_pos hn
    rw [hstep]
    by_cases hrx : m = .rxPoll
    · subst hrx
      have hdrain := rxAsm_shUartDrain w e (h.deliver .rxPoll) chunks hlen
      rw [onTimer, rxAsm_shRxPollArm, hdrain]
      simp only [received, hn, true_and]
      rfl
    · have hnone : received h (.timer m chunks) = [] := by
        cases m <;> first | rfl | exact absurd rfl hrx
      rw [hnone, List.append_nil, List.take_of_length_le hlen]
      by_cases hcheck : m = .linkCheck
      · subst hcheck
        have hclears : clearsAsm h (.timer .linkCheck chunks) = clearsOnExpiry h.link := by
          simp only [clearsAsm, startsSession, hn, decide_true, Bool.true_and, Bool.false_or]
        rw [hclears]
        exact rxAsm_shWisunOnTimeout w e (h.deliver .linkCheck)
      · have hclears : clearsAsm h (.timer m chunks) = false := by
          cases m <;> first | rfl | exact absurd rfl hcheck
        rw [hclears]
        exact rxAsm_onTimer w e (h.deliver m) hrx hcheck chunks
  · have hstep : step w h e (.timer m chunks) = h := if_neg hn
    have hnone : received h (.timer m chunks) = [] := by
      cases m <;> first | rfl | exact if_neg (fun hboth => hn hboth.1)
    have hclears : clearsAsm h (.timer m chunks) = false := by
      cases m <;> first | rfl | simp [clearsAsm, startsSession, hn]
    rw [hstep, hnone, hclears, List.append_nil, List.take_of_length_le hlen]
    rfl

theorem rxAsm_step (hlen : h.link.rxAsm.length ≤ 512) (ev : Event) :
    (step w h e ev).link.rxAsm =
      if clearsAsm h ev then [] else (h.link.rxAsm ++ received h ev).take 512 := by
  have hkept : (h.link.rxAsm ++ []).take 512 = h.link.rxAsm := by
    rw [List.append_nil, List.take_of_length_le hlen]
  cases ev with
  | init => exact (rxAsm_init w e h).trans hkept.symm
  | powerOff => exact (rxAsm_powerOff w h).trans hkept.symm
  | close => exact (rxAsm_close w h).trans hkept.symm
  | lis3dhChk enable => exact (rxAsm_lis3dhChk w e h enable).trans hkept.symm
  | adcResult source reading =>
    exact (congrArg Link.rxAsm (link_adcResult w e h source reading)).trans hkept.symm
  | moreData chunks => exact rxAsm_shUartDrain w e h chunks hlen
  | timer m chunks => exact rxAsm_timer w e h hlen m chunks
  | powerOn =>
    have hnone : received h .powerOn = [] := rfl
    have hclears : clearsAsm h .powerOn = (h.ready && !h.powered) := Bool.or_false _
    rw [hnone, hkept, hclears]
    exact rxAsm_powerOn w e h
  | uiRefresh state =>
    have hnone : received h (.uiRefresh state) = [] := rfl
    have hclears : clearsAsm h (.uiRefresh state) = (uiStateIsOn state && h.ready && !h.powered) := Bool.or_false _
    rw [hnone, hkept, hclears]
    change (uiRefresh w e state h).link.rxAsm = _
    unfold uiRefresh
    cases uiStateIsOn state with
    | true => exact rxAsm_powerOn w e h
    | false =>
      change (if h.powered = true then powerOff w h else h).link.rxAsm = h.link.rxAsm
      split
      · exact rxAsm_powerOff w h
      · rfl

theorem rxAsm_run (events : List (Env × Event)) :
    (runHelmet w events).link.rxAsm = (receivedSinceClear w events).take 512 := by
  apply History.invariant (fun h (ev : Env × Event) => step w h ev.1 ev.2) noteReceived
    (P := fun h since => h.link.rxAsm = since.take 512)
  · rfl
  · intro h since ev hasm
    have hlen : h.link.rxAsm.length ≤ 512 := by
      rw [hasm, List.length_take]
      exact min_le_left _ _
    rw [rxAsm_step w ev.1 h hlen ev.2, noteReceived]
    split_ifs
    · rfl
    · rw [hasm, take_append_take]

end Runs

/-- The search on a buffer, and on the receive assembly of every run. -/
theorem keyword_search_exact (data needle : List UInt8) (hdata : data.length ≤ 65535) (hneedle : ∀ b ∈ needle, b ≠ 0)
    (w : World) (events : List (Env × Event)) (text : String) :
    let l := (runHelmet w events).link
    let since := receivedSinceClear w events
    ((∃ fuel, containsFold fuel (some data) (some needle) = .ok true) ↔
        needle ≠ [] ∧ needle.map foldByte <:+: data.map foldByte) ∧
      (∀ fuel, containsFold fuel (some data) (some needle) ≠ .error .outside) ∧
      (needle.length ≤ 65535 →
        ∀ fuel, 65536 ≤ fuel → ∃ found, containsFold fuel (some data) (some needle) = .ok found) ∧
      (65536 ≤ needle.length → ∀ fuel, containsFold fuel (some data) (some needle) = .error .unfinished) ∧
      (l.rxAsm.length ≤ 512 ∧ l.rxAsm = since.take 512) ∧
      (shAsmHas l text = true ↔ bytes text ≠ [] ∧ (bytes text).map foldByte <:+: (since.take 512).map foldByte) ∧
      ((∀ b ∈ bytes text, b ≠ 0) → (bytes text).length ≤ 65535 → ∀ fuel, 65536 ≤ fuel →
        containsFold fuel (some l.rxAsm) (some (bytes text)) = .ok (shAsmHas l text)) := by
  intro l since
  have hasm : l.rxAsm = since.take 512 := rxAsm_run w events
  have hlen : l.rxAsm.length ≤ 512 := by
    rw [hasm, List.length_take]
    exact min_le_left _ _
  refine ⟨containsFold_true_iff hneedle hdata, containsFold_ne_outside hneedle hdata, ?_,
    fun hlong fuel => containsFold_of_long hneedle hlong fuel, ⟨hlen, hasm⟩, ?_, ?_⟩
  · intro hshort fuel hfuel
    exact ⟨_, containsFold_of_rounds hneedle hshort hdata hfuel⟩
  · rw [← hasm]
    exact occurs_iff (bytes text) l.rxAsm
  · intro hzero hshort fuel hfuel
    exact containsFold_of_rounds hzero hshort (hlen.trans (by norm_num)) hfuel

theorem keyword_search_banner :
    (∃ fuel,
      containsFold fuel (some (bytes "AT Command mode\r\nRouter start")) (some (bytes "router START")) = .ok true) ∧
      shAsmHas (runHelmet plainWorld
        (poweredRun ++ [(plainEnv, .moreData [bytes "Rou", bytes "TER start"])])).link "router start" = true := by
  have hsince : receivedSinceClear plainWorld
      (poweredRun ++ [(plainEnv, .moreData [bytes "Rou", bytes "TER start"])]) = bytes "RouTER start" := by
    decide +kernel
  have hneedle : ∀ b ∈ bytes "router START", b ≠ 0 := by decide +kernel
  obtain ⟨hexact, -, -, -, -, hasm, -⟩ :=
    keyword_search_exact (bytes "AT Command mode\r\nRouter start") (bytes "router START") (by decide) hneedle plainWorld
      (poweredRun ++ [(plainEnv, .moreData [bytes "Rou", bytes "TER start"])]) "router start"
  rw [hsince] at hasm
  constructor
  · apply hexact.mpr
    exact ⟨by decide, by decide⟩
  · apply hasm.mpr
    exact ⟨by decide, by decide⟩

end SmartHelmet.Firmware
