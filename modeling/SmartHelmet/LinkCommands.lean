import SmartHelmet.HelmetState

namespace SmartHelmet.Firmware

open MachineArith

/-- The sink, its slack and its flush decide together whether a write succeeds. -/
def uartSend (w : World) (kind : Tx) (frame : List UInt8) (h : Helmet) : Helmet × Bool :=
  let ok := h.link.opened && !frame.isEmpty && w.sendOk h.writes
  ({ h with writes := h.writes + 1, log := .tx kind frame ok :: h.log }, ok)

def commandFrame (cmd : String) : List UInt8 := (bytes cmd).take 46 ++ [13, 10]

def shWisunSendProbe (w : World) (cmd : String) (h : Helmet) : Helmet :=
  let (h, ok) := uartSend w .command (commandFrame cmd) h
  { h with link := { h.link with wisun := { h.link.wisun with txOk := ok } } }

def shWisunArm (h : Helmet) : Helmet :=
  if h.link.task then Helmet.sendLater .linkCheck (Helmet.cancelAll .linkCheck h) else h

def reportStop (h : Helmet) : Helmet := h.cancelAll .reportTick

def reportArm (h : Helmet) : Helmet := Helmet.sendLater .reportTick (h.cancelAll .reportTick)

def dropOnline (h : Helmet) : Helmet :=
  let h' := { h with link := { h.link with wisun := { h.link.wisun with online := false } } }
  if h.link.wisun.online then h'.note (.brOnline false) else h'

def Step.rejoins (s : Step) : Bool := decide (s = .leave ∨ s = .dest ∨ s = .pass)

def leavePassthrough (w : World) (next : Step) (h : Helmet) : Helmet :=
  shWisunArm (shWisunSendProbe w "exit"
    { h with link := { h.link with leaveNext := next, step := .leave } })

def rejoinTooSoon (timeUs : UInt32) (l : Link) : Bool :=
  decide (l.rejoinMs ≠ 0 ∧ timeUs / 1000 - l.rejoinMs < 60000)

def uartRejoin (w : World) (e : Env) (h : Helmet) : Helmet :=
  if h.link.step.rejoins then h
  else if rejoinTooSoon e.timeUs h.link then h
  else
    let h := dropOnline { h with link := { h.link with
      rejoinMs := e.timeUs / 1000
      rejoining := true
      passthrough := false } }
    leavePassthrough w .dest (reportStop { h with link := { h.link with sendOkWait := false } })

def uartNoteReportSent (w : World) (e : Env) (ok : Bool) (h : Helmet) : Helmet :=
  if ¬ ok then uartRejoin w e (dropOnline h)
  else if h.link.sendOkWait then
    let h := { h with link := { h.link with missedOk := incSat 12 h.link.missedOk } }
    if h.link.missedOk ≥ 12 then uartRejoin w e h else h
  else { h with link := { h.link with sendOkWait := true } }

def uartTakeRestart (h : Helmet) : Helmet × Bool :=
  ({ h with link := { h.link with restartSeen := false } }, h.link.restartSeen)

def uartStopVerify (h : Helmet) : Helmet :=
  let h := if h.link.task then h.cancelAll .linkCheck else h
  { h with link := { h.link with step := .idle } }

def uartClose (w : World) (h : Helmet) : Helmet :=
  let h := if h.link.opened then shWisunSendProbe w "exit" h else h
  let h := uartStopVerify { h with link := { h.link with passthrough := false } }
  let h := if h.link.task then Helmet.cancelAll .linkCheck (h.cancelAll .rxPoll) else h
  { h with link := { h.link with opened := false } }

def uartSleep (w : World) (h : Helmet) : Helmet :=
  let h := uartStopVerify h
  let h := if h.link.passthrough ∧ h.link.opened then
    (uartSend w .command (commandFrame "exit")
      { h with link := { h.link with passthrough := false } }).1 else h
  uartClose w { h with link := { h.link with wisun := { h.link.wisun with online := false } } }

def uartInit (e : Env) (h : Helmet) : Helmet :=
  let h := { h with link := { h.link with task := true } }
  if h.link.opened then h
  else if e.uartOpen then Helmet.sendLater .rxPoll { h with link := { h.link with opened := true } }
  else h

def uartStartVerify (w : World) (h : Helmet) : Helmet :=
  leavePassthrough w .reset { h with link := { h.link with
    wisun := { statusCode := 0xff }
    atIdx := 0
    rxAsm := []
    provDone := false
    provDirty := false
    provQ := []
    provI := 0
    passthrough := false
    tooLongRetry := 0 } }

def shOnCmdTooLong (w : World) (h : Helmet) : Helmet :=
  let h := reportStop { h with link := { h.link with passthrough := false } }
  if h.link.step = .done ∨ h.link.step = .idle then
    if h.link.tooLongRetry ≥ 2 then h
    else leavePassthrough w .dest { h with link := { h.link with tooLongRetry := h.link.tooLongRetry + 1 } }
  else h

end SmartHelmet.Firmware
