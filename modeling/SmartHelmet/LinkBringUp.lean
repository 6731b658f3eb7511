import SmartHelmet.ReportStart

namespace SmartHelmet.Firmware

open MachineArith

def shAtCmds : List (String × Option String) :=
  [("version", none), ("role", some "role:"), ("param", some "state"), ("mac", some ":"), ("ip", none),
   ("fstat", none), ("domain", none), ("cca", none), ("txpower", none), ("pan", none), ("chrate", none),
   ("chconfig", none), ("neighbor", none)]

def shAsmHas (l : Link) (needle : String) : Bool := shContainsFold l.rxAsm needle

def shProvQueue (q : List String) (cmd : String) : List String :=
  if q.length ≥ 8 then q else q ++ [cmd]

def provFix (matched : Bool) (cmd : String) (q : List String) : List String :=
  if matched then q else shProvQueue q cmd

def shProvPlan (h : Helmet) : Helmet :=
  let has := shAsmHas h.link
  let q := provFix (has "SmartHelmetWisun") "netname SmartHelmetWisun" []
  let q := provFix (!has "border" || has "0xdcba") "pan 0xdcba" q
  let q := provFix (has "domain=1" || has "domain:1") "domain 1" q
  let q := provFix (has "rate=50kbps" || has "rate:50") "chrate 50" q
  let q := provFix (has "20dbm" || has "txpower:20" || has ": 20") "txpower 20" q
  let q := provFix (has "-83") "cca -83" q
  let q := provFix (has "udp_port=4321") "udpopts udp_port 4321" q
  { h with link := { h.link with provQ := q, provI := 0 } }

def shProvSendCurrent (w : World) (h : Helmet) : Helmet :=
  match h.link.provQ[h.link.provI]? with
  | none =>
    let h := { h with link := { h.link with provDirty := true, rxAsm := [], step := .provSet } }
    let h := shWisunArm (shWisunSendProbe w "save" h)
    { h with link := { h.link with provI := 0xff } }
  | some cmd =>
    shWisunArm (shWisunSendProbe w cmd { h with link := { h.link with rxAsm := [], step := .provSet } })

def shIpv6Like (data : List UInt8) : Bool :=
  let colons := u8 (data.countP (fun c => c == 58))
  let hex := u8 (data.countP (fun c => decide ((48 ≤ c ∧ c ≤ 57) ∨ (97 ≤ c ∧ c ≤ 102) ∨ (65 ≤ c ∧ c ≤ 70))))
  decide (colons ≥ 2) && decide (hex ≥ 4) && shContainsFold data "fe80"

def shAtReplyOk (l : Link) : Bool :=
  match shAtCmds[l.atIdx]? with
  | none => false
  | some (cmd, expect) =>
    let fallback := decide (l.rxAsm.countP (fun c => decide (32 ≤ c ∧ c < 127)) > (bytes cmd).length + 2)
    if shAsmHas l "invalid" then false
    else if shAsmHas l "ok" then true
    else if cmd = "ip" then shIpv6Like l.rxAsm
    else if cmd = "role" then
      shAsmHas l "role:1" || shAsmHas l "role:2" || shAsmHas l "router" || shAsmHas l "border"
    else match expect with
      | some text => if shContainsFold (bytes cmd) text then fallback else shAsmHas l text
      | none => fallback

def wisunResult (s : WisunStatus) : WisunLink :=
  if s.moduleSeen then .moduleOk else if s.rxSeen then .rxUnknown else if s.txOk then .txOnly else .idle

def shAtFinish (w : World) (h : Helmet) : Helmet :=
  let s := h.link.wisun
  let s := { s with
    atOk := decide (s.atFail = 0 ∧ s.atPass > 0) && s.resetSeen
    result := wisunResult s }
  let h := { h with link := { h.link with wisun := s } }
  let h := if h.link.task then h.cancelAll .linkCheck else h
  leavePassthrough w .dest { h with link := { h.link with passthrough := false, rxAsm := [] } }

def shAtSendCurrent (w : World) (h : Helmet) : Helmet :=
  match shAtCmds[h.link.atIdx]? with
  | none => shAtFinish w h
  | some (cmd, _) =>
    shWisunArm (shWisunSendProbe w cmd { h with link := { h.link with rxAsm := [], step := .cmd } })

def shAtNoteResult (w : World) (pass : Bool) (h : Helmet) : Helmet :=
  let s := if pass then { h.link.wisun with atPass := incSat 0xff h.link.wisun.atPass }
    else { h.link.wisun with atFail := incSat 0xff h.link.wisun.atFail }
  shAtSendCurrent w { h with link := { h.link with wisun := s, atIdx := h.link.atIdx + 1 } }

def digitIn (part : List UInt8) : Option ℕ :=
  (part.find? (fun c => decide (48 ≤ c ∧ c ≤ 57))).map (fun c => c.toNat - 48)

/-- The loop stops one past offset 12, and the test after it still looks at that byte. -/
def statusDigit (data : List UInt8) : Option ℕ := digitIn ((data.drop 6).take 8)

/-- The search is for a keyword anywhere behind the current byte. -/
def shNoteStatus (s : WisunStatus) : List UInt8 → WisunStatus
  | [] => s
  | c :: data =>
    if (c :: data).length ≤ 6 then s
    else if shContainsFold (c :: data) "state" || shContainsFold (c :: data) "status" then
      { s with statusCode := (statusDigit (c :: data)).getD s.statusCode }
    else shNoteStatus s data

theorem shNoteStatus_eq (s : WisunStatus) (data : List UInt8) :
    ∃ code, shNoteStatus s data = { s with statusCode := code } := by
  induction data with
  | nil => exact ⟨s.statusCode, rfl⟩
  | cons c data ih =>
    unfold shNoteStatus
    split
    · exact ⟨s.statusCode, rfl⟩
    · split
      · exact ⟨_, rfl⟩
      · exact ih

theorem online_shNoteStatus (s : WisunStatus) (data : List UInt8) : (shNoteStatus s data).online = s.online := by
  obtain ⟨code, hcode⟩ := shNoteStatus_eq s data
  rw [hcode]

def onResetTimeout (w : World) (h : Helmet) : Helmet :=
  if h.link.wisun.resetSeen then
    if h.link.provDone then shAtSendCurrent w { h with link := { h.link with atIdx := 0 } }
    else
      shWisunArm (shWisunSendProbe w "param" { h with link := { h.link with rxAsm := [], step := .provRead } })
  else if h.link.wisun.tries = 0 ∨ h.link.wisun.tries < 2 then
    let s := { h.link.wisun with tries := h.link.wisun.tries + 1 }
    shWisunArm (shWisunSendProbe w "reset" { h with link := { h.link with wisun := s, rxAsm := [] } })
  else
    let s := { h.link.wisun with atFail := u8 (h.link.wisun.atFail + 1) }
    shAtFinish w { h with link := { h.link with wisun := s } }

def onProvReadTimeout (w : World) (h : Helmet) : Helmet :=
  let h := shProvPlan h
  if h.link.provQ = [] then
    shAtSendCurrent w { h with link := { h.link with provDone := true, atIdx := 0 } }
  else shProvSendCurrent w h

def onProvSetTimeout (w : World) (h : Helmet) : Helmet :=
  if h.link.provI = 0xff then
    let s := { h.link.wisun with resetSeen := false }
    shWisunArm (shWisunSendProbe w "svrst"
      { h with link := { h.link with provDone := true, wisun := s, step := .reset, rxAsm := [] } })
  else shProvSendCurrent w { h with link := { h.link with provI := u8 (h.link.provI + 1) } }

def onLeaveTimeout (w : World) (h : Helmet) : Helmet :=
  if h.link.leaveNext = .reset then
    let s := { h.link.wisun with tries := 0, resetSeen := false }
    shWisunArm { h with link := { h.link with wisun := s, rxAsm := [], step := .reset } }
  else
    shWisunArm (shWisunSendProbe w "at_dest 2020:abcd::212:4b00:2de1:f9ff"
      { h with link := { h.link with rxAsm := [], step := .dest } })

def onDestTimeout (w : World) (h : Helmet) : Helmet :=
  shWisunArm (shWisunSendProbe w "+++"
    { h with link := { h.link with step := .pass, passthrough := false, rxAsm := [] } })

/-- The expiry up to the call of `SmartHelmet_ReportStart`. -/
def onPassStored (w : World) (h : Helmet) : Helmet :=
  let entered := shAsmHas h.link "transparent" || shAsmHas h.link "passthrough"
  let rejected := shAsmHas h.link "cmd too long" || shAsmHas h.link "format err"
  if rejected ∧ h.link.tooLongRetry < 2 then
    leavePassthrough w .dest { h with link := { h.link with
      tooLongRetry := h.link.tooLongRetry + 1
      passthrough := false
      rxAsm := [] } }
  else if entered || !rejected then
    let s := { h.link.wisun with online := false }
    { h with link := { h.link with step := .done, passthrough := true, wisun := s } }
  else { h with link := { h.link with step := .done, passthrough := false } }

def onPassTimeout (w : World) (e : Env) (h : Helmet) : Helmet :=
  let stored := onPassStored w h
  if stored.link.passthrough then reportStart w e stored else stored

theorem onPassTimeout_eq (w : World) (e : Env) (h : Helmet) : onPassTimeout w e h =
    let entered := shAsmHas h.link "transparent" || shAsmHas h.link "passthrough"
    let rejected := shAsmHas h.link "cmd too long" || shAsmHas h.link "format err"
    if rejected ∧ h.link.tooLongRetry < 2 then
      leavePassthrough w .dest { h with link := { h.link with
        tooLongRetry := h.link.tooLongRetry + 1
        passthrough := false
        rxAsm := [] } }
    else if entered || !rejected then
      reportStart w e { h with link := { h.link with
        step := .done
        passthrough := true
        wisun := { h.link.wisun with online := false } } }
    else { h with link := { h.link with step := .done, passthrough := false } } := by
  have hleft (h' : Helmet) (hp : h'.link.passthrough = false) : (leavePassthrough w .dest h').link.passthrough = false := by
    unfold leavePassthrough shWisunArm
    dsimp only
    split <;> exact hp
  unfold onPassTimeout onPassStored
  dsimp only
  by_cases hrejected : (shAsmHas h.link "cmd too long" || shAsmHas h.link "format err") = true ∧ h.link.tooLongRetry < 2
  · rw [if_pos hrejected, if_pos hrejected, hleft _ rfl]
    exact if_neg Bool.false_ne_true
  · rw [if_neg hrejected, if_neg hrejected]
    split
    · exact if_pos rfl
    · exact if_neg Bool.false_ne_true

def onCmdTimeout (w : World) (h : Helmet) : Helmet :=
  let h := { h with link := { h.link with wisun := shNoteStatus h.link.wisun h.link.rxAsm } }
  shAtNoteResult w (shAtReplyOk h.link) h

def shWisunOnTimeout (w : World) (e : Env) (h : Helmet) : Helmet :=
  match h.link.step with
  | .reset => onResetTimeout w h
  | .provRead => onProvReadTimeout w h
  | .provSet => onProvSetTimeout w h
  | .leave => onLeaveTimeout w h
  | .dest => onDestTimeout w h
  | .pass => onPassTimeout w e h
  | .cmd => onCmdTimeout w h
  | .idle => h
  | .done => h

end SmartHelmet.Firmware
