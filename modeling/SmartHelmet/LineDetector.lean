import SmartHelmet.LinkReceive

/-!
The detector on the reassembled line, as a machine of its own: it reads one byte at a time,
so it cannot see how the stream was cut into chunks.
-/

namespace SmartHelmet.Firmware

def restarts : List Obs → ℕ
  | [] => 0
  | .restart :: log => restarts log + 1
  | _ :: log => restarts log

structure LinkOutcome where
  online : Bool
  sendOkWait : Bool
  missedOk : ℕ
  rejoining : Bool
  passthrough : Bool
  step : Step
  restartSeen : Bool
  restarts : ℕ
  deriving DecidableEq

structure LineState where
  outcome : LinkOutcome
  rxLine : List UInt8
  tooLongRetry : ℕ

def outcome (h : Helmet) : LinkOutcome where
  online := h.link.wisun.online
  sendOkWait := h.link.sendOkWait
  missedOk := h.link.missedOk
  rejoining := h.link.rejoining
  passthrough := h.link.passthrough
  step := h.link.step
  restartSeen := h.link.restartSeen
  restarts := restarts h.log

def lineState (h : Helmet) : LineState := ⟨outcome h, h.link.rxLine, h.link.tooLongRetry⟩

namespace LineState

def restart (c : LineState) : LineState :=
  { c with outcome := { c.outcome with restartSeen := true, restarts := c.outcome.restarts + 1 } }

def cmdTooLong (c : LineState) : LineState :=
  let stopped := { c with outcome := { c.outcome with passthrough := false } }
  if c.outcome.step = .done ∨ c.outcome.step = .idle then
    if c.tooLongRetry ≥ 2 then stopped
    else { stopped with
      outcome := { stopped.outcome with step := .leave }
      tooLongRetry := c.tooLongRetry + 1 }
  else stopped

def flush (c : LineState) : LineState :=
  if c.rxLine = [] then c
  else { (if shContainsFold c.rxLine "cmd too long" then c.cmdTooLong else c) with rxLine := [] }

def push (c : LineState) (b : UInt8) : LineState :=
  if b = 10 then (if shContainsFold c.rxLine "RESTART_SENSOR" then c.restart else c).flush
  else if b = 13 then c
  else
    let c := if c.rxLine.length ≥ rxLineSize then c.flush else c
    { c with rxLine := c.rxLine ++ [b] }

theorem cmdTooLong_online (c : LineState) : c.cmdTooLong.outcome.online = c.outcome.online := by
  unfold cmdTooLong
  dsimp only
  split
  · split <;> rfl
  · rfl

theorem flush_online (c : LineState) : c.flush.outcome.online = c.outcome.online := by
  unfold flush
  split
  · rfl
  · dsimp only
    split
    · exact cmdTooLong_online c
    · rfl

theorem push_online (c : LineState) (b : UInt8) : (c.push b).outcome.online = c.outcome.online := by
  unfold push
  split
  · rw [flush_online]
    split <;> rfl
  · split
    · rfl
    · dsimp only
      split
      · exact flush_online c
      · rfl

theorem foldl_push_online (s : List UInt8) (c : LineState) :
    (s.foldl push c).outcome.online = c.outcome.online := by
  induction s generalizing c with
  | nil => rfl
  | cons b s ih => rw [List.foldl_cons, ih, push_online]

theorem restart_cmdTooLong (c : LineState) : c.restart.cmdTooLong = c.cmdTooLong.restart := by
  unfold cmdTooLong restart
  dsimp only
  split
  · split <;> rfl
  · rfl

theorem restart_flush (c : LineState) : c.restart.flush = c.flush.restart := by
  unfold flush
  by_cases hempty : c.rxLine = []
  · rw [if_pos hempty, if_pos (show c.restart.rxLine = [] from hempty)]
  · rw [if_neg hempty, if_neg (show ¬ c.restart.rxLine = [] from hempty)]
    by_cases hlong : shContainsFold c.rxLine "cmd too long" = true
    · rw [if_pos hlong, if_pos (show shContainsFold c.restart.rxLine _ = true from hlong),
        restart_cmdTooLong]
      rfl
    · rw [if_neg hlong, if_neg (show ¬ shContainsFold c.restart.rxLine _ = true from hlong)]
      rfl

theorem restart_push (c : LineState) (b : UInt8) : c.restart.push b = (c.push b).restart := by
  unfold push
  by_cases hend : b = 10
  · rw [if_pos hend, if_pos hend]
    by_cases hkey : shContainsFold c.rxLine "RESTART_SENSOR" = true
    · rw [if_pos hkey, if_pos (show shContainsFold c.restart.rxLine _ = true from hkey), restart_flush]
    · rw [if_neg hkey, if_neg (show ¬ shContainsFold c.restart.rxLine _ = true from hkey), restart_flush]
  · rw [if_neg hend, if_neg hend]
    by_cases hskip : b = 13
    · rw [if_pos hskip, if_pos hskip]
    · rw [if_neg hskip, if_neg hskip]
      by_cases hfull : c.rxLine.length ≥ rxLineSize
      · rw [if_pos hfull, if_pos (show c.restart.rxLine.length ≥ rxLineSize from hfull), restart_flush]
        rfl
      · rw [if_neg hfull, if_neg (show ¬ c.restart.rxLine.length ≥ rxLineSize from hfull)]
        rfl

theorem foldl_push_restart (s : List UInt8) (c : LineState) :
    s.foldl push c.restart = (s.foldl push c).restart := by
  induction s generalizing c with
  | nil => rfl
  | cons b s ih => rw [List.foldl_cons, restart_push, ih, List.foldl_cons]

end LineState

section Refinement

variable (w : World) (h : Helmet)

theorem lineState_shWisunArm : lineState (shWisunArm h) = lineState h := by
  unfold shWisunArm
  split <;> rfl

theorem lineState_shOnCmdTooLong : lineState (shOnCmdTooLong w h) = (lineState h).cmdTooLong := by
  unfold shOnCmdTooLong LineState.cmdTooLong
  dsimp only
  split
  · next hidle =>
    rw [if_pos (show (lineState h).outcome.step = .done ∨ (lineState h).outcome.step = .idle from hidle)]
    split
    · next hretry => rw [if_pos (show (lineState h).tooLongRetry ≥ 2 from hretry)]; rfl
    · next hretry =>
      rw [if_neg (show ¬ (lineState h).tooLongRetry ≥ 2 from hretry), leavePassthrough, lineState_shWisunArm]
      rfl
  · next hbusy =>
    rw [if_neg (show ¬ ((lineState h).outcome.step = .done ∨ (lineState h).outcome.step = .idle) from hbusy)]
    rfl

theorem lineState_shRxLineFlush : lineState (shRxLineFlush w h) = (lineState h).flush := by
  unfold shRxLineFlush LineState.flush
  split
  · next hempty => rw [if_pos (show (lineState h).rxLine = [] from hempty)]
  · next hempty =>
    rw [if_neg (show ¬ (lineState h).rxLine = [] from hempty)]
    dsimp only
    split
    · next hlong =>
      rw [if_pos (show shContainsFold (lineState h).rxLine _ = true from hlong),
        ← lineState_shOnCmdTooLong w h]
      rfl
    · next hlong =>
      rw [if_neg (show ¬ shContainsFold (lineState h).rxLine _ = true from hlong)]
      rfl

theorem lineState_shRxByte (b : UInt8) : lineState (shRxByte w h b) = (lineState h).push b := by
  unfold shRxByte LineState.push
  split
  · rw [lineState_shRxLineFlush]
    split
    · next hkey => rw [if_pos (show shContainsFold (lineState h).rxLine _ = true from hkey)]; rfl
    · next hkey => rw [if_neg (show ¬ shContainsFold (lineState h).rxLine _ = true from hkey)]
  · split
    · rfl
    · dsimp only
      split
      · next hfull =>
        rw [if_pos (show (lineState h).rxLine.length ≥ rxLineSize from hfull), ← lineState_shRxLineFlush w h]
        rfl
      · next hfull =>
        rw [if_neg (show ¬ (lineState h).rxLine.length ≥ rxLineSize from hfull)]
        rfl

theorem lineState_shRxLinePush (data : List UInt8) :
    ∀ h : Helmet, lineState (shRxLinePush w data h) = data.foldl LineState.push (lineState h) := by
  induction data with
  | nil => exact fun h => rfl
  | cons b data ih =>
    intro h
    have hrest := ih (shRxByte w h b)
    rw [lineState_shRxByte] at hrest
    exact hrest

end Refinement

end SmartHelmet.Firmware
