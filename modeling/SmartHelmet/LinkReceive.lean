import SmartHelmet.LinkBringUp

namespace SmartHelmet.Firmware

abbrev rxBufSize : ℕ := 512

abbrev rxLineSize : ℕ := 96

def shRxLineFlush (w : World) (h : Helmet) : Helmet :=
  if h.link.rxLine = [] then h
  else
    let h := if shContainsFold h.link.rxLine "cmd too long" then shOnCmdTooLong w h else h
    { h with link := { h.link with rxLine := [] } }

def noteRestart (h : Helmet) : Helmet :=
  Helmet.vitalsInit { h with link := { h.link with restartSeen := true } }

def shRxByte (w : World) (h : Helmet) (b : UInt8) : Helmet :=
  if b = 10 then
    shRxLineFlush w (if shContainsFold h.link.rxLine "RESTART_SENSOR" then noteRestart h else h)
  else if b = 13 then h
  else
    let h := if h.link.rxLine.length ≥ rxLineSize then shRxLineFlush w h else h
    { h with link := { h.link with rxLine := h.link.rxLine ++ [b] } }

def shRxLinePush (w : World) (data : List UInt8) (h : Helmet) : Helmet := data.foldl (shRxByte w) h

def noteModule (data : List UInt8) (l : Link) : WisunStatus :=
  let s := { l.wisun with rxSeen := true }
  let s := if shContainsFold data "8856" || shContainsFold data "role" || shContainsFold data "status" ||
      shContainsFold data "phy" || shContainsFold data "domain" then
    shNoteStatus { s with moduleSeen := true } data else s
  if l.step = .cmd ∧ shIpv6Like data then { s with ipSeen := true } else s

def noteSendFail (w : World) (e : Env) (h : Helmet) : Helmet :=
  let h := dropOnline h
  uartRejoin w e { h with link := { h.link with sendOkWait := false } }

/-- A late `send ok` cancels a rejoin under way. -/
def noteSendOk (h : Helmet) : Helmet :=
  let s := { h.link.wisun with online := true }
  let l := { h.link with
    wisun := s
    sendOkWait := false
    missedOk := 0
    rejoining := false
    tooLongRetry := 0 }
  let l := if l.step.rejoins then { l with step := .done, passthrough := true } else l
  let h' := { h with link := l }
  if h.link.wisun.online then h' else h'.note (.brOnline true)

def shWisunNoteRx (w : World) (e : Env) (data : List UInt8) (h : Helmet) : Helmet :=
  if data = [] then h
  else
  let h := { h with link := { h.link with wisun := noteModule data h.link } }
  let h := if shContainsFold data "send fail" then noteSendFail w e h
    else if shContainsFold data "send ok" then noteSendOk h
    else h
  if shContainsFold data "RESTART_SENSOR" then noteRestart h else h

def shResetNoteBanner (h : Helmet) : Helmet :=
  let s := { h.link.wisun with atMode := h.link.wisun.atMode || shAsmHas h.link "AT Command mode" }
  if shAsmHas h.link "Router start" then
    shWisunArm { h with link := { h.link with wisun := { s with resetSeen := true } } }
  else { h with link := { h.link with wisun := s } }

def armAfterRx (h : Helmet) : Helmet :=
  if h.link.step = .reset then
    let h := shResetNoteBanner h
    if h.link.wisun.resetSeen then h else shWisunArm h
  else if h.link.step = .cmd ∨ h.link.step = .provRead ∨ h.link.step = .provSet then shWisunArm h
  else h

def shUartConsume (w : World) (e : Env) (h : Helmet) (chunk : List UInt8) : Helmet :=
  let asm := h.link.rxAsm ++ chunk.take (rxBufSize - h.link.rxAsm.length)
  let h := { h with link := { h.link with rxAsm := asm } }
  armAfterRx (shRxLinePush w chunk (shWisunNoteRx w e chunk h))

def shUartDrain (w : World) (e : Env) (chunks : List (List UInt8)) (h : Helmet) : Helmet :=
  if h.link.opened then chunks.foldl (shUartConsume w e) h else h

def shRxPollArm (h : Helmet) : Helmet :=
  if h.link.task then Helmet.sendLater .rxPoll (h.cancelAll .rxPoll) else h

end SmartHelmet.Firmware
