import SmartHelmet.LinkCommands

namespace SmartHelmet.Firmware

open MachineArith

abbrev reportMax : ℕ := 192

def shAppend (line : List UInt8) (s : String) : List UInt8 :=
  line ++ (bytes s).take (reportMax - 1 - line.length)

def shAppendU (line : List UInt8) (v : ℕ) : List UInt8 := shAppend line (toString v)

def shAppendX100 (line : List UInt8) (v : ℤ) : List UInt8 :=
  let line := if v < 0 then shAppend line "-" else line
  let mag := if v < 0 then u16OfInt (-v) else u16OfInt v
  let line := shAppend (shAppendU line (mag / 100)) "."
  shAppendU (shAppendU line ((mag / 10) % 10)) (mag % 10)

abbrev micsVccMv : ℕ := 3300

def shGasRatioX100 (mv r0 : ℕ) : ℕ :=
  if mv < 50 ∨ mv ≥ micsVccMv ∨ r0 < 50 ∨ r0 ≥ micsVccMv then 100
  else
    let rs := (micsVccMv - mv) * 1000 / mv
    let rs0 := (micsVccMv - r0) * 1000 / r0
    if rs0 = 0 then 100 else u16 (rs * 100 / rs0)

def shCoPpm (ratio : ℕ) : ℕ :=
  if ratio ≥ 80 then 1 else if ratio ≥ 40 then 10 else if ratio ≥ 20 then 40
  else if ratio ≥ 10 then 120 else if ratio ≥ 5 then 400 else 1000

def shNh3Ppm (ratio : ℕ) : ℕ :=
  if ratio ≥ 80 then 1 else if ratio ≥ 40 then 15 else if ratio ≥ 20 then 60
  else if ratio ≥ 10 then 180 else 500

def shNo2PpmX100 (ratio : ℕ) : ℕ :=
  if ratio ≤ 120 then 5 else if ratio ≤ 200 then 25 else if ratio ≤ 400 then 100
  else if ratio ≤ 800 then 400 else 1000

def gasR0 (r0 : ℕ → ℕ) (ch mv : ℕ) : ℕ → ℕ :=
  if r0 ch = 0 ∧ mv ≥ 50 ∧ mv < micsVccMv then Function.update r0 ch mv else r0

def shGasValue (r0 : ℕ → ℕ) (ch mv : ℕ) : (ℕ → ℕ) × ℕ :=
  let r0' := gasR0 r0 ch mv
  (r0', shGasRatioX100 mv (if r0' ch ≠ 0 then r0' ch else mv))

def pulseText (v : Vitals.Status) : String :=
  if v.trend = .absent then "none"
  else if ¬ v.valid then "unknown"
  else if v.trend = .rising then "rising"
  else if v.trend = .falling then "falling"
  else "stable"

def yesNo (b : Bool) : String := if b then "yes" else "no"

def appendX100Or (line : List UInt8) (ok : Bool) (v : ℤ) (unit : String) : List UInt8 :=
  if ok then shAppend (shAppendX100 line v) unit else shAppend line "na"

abbrev ambOffsetX100 : ℤ := 0

def reportLine (h : Helmet) (restart fall : Bool) (co nh3 no2 : ℕ) : List UInt8 :=
  let line := shAppend (shAppend [] "motion:") (if h.motionHolding then "moving" else "still")
  let line := shAppend (shAppend line "\r\nrestart:") (yesNo restart)
  let line := shAppend (shAppend line "\r\nfall:") (yesNo fall)
  let line := shAppend (shAppend line "\r\npulse:") (pulseText h.vitals.status)
  let line := appendX100Or (shAppend line "\r\nbody:") h.sensors.mlx90614Ok h.sensors.objectTempX100 "C"
  let line := appendX100Or (shAppend line "\r\namb:") h.sensors.hdc1080Ok
    (i16 (h.sensors.hdcTempX100 + ambOffsetX100)) "C"
  let line := appendX100Or (shAppend line "\r\nrh:") h.sensors.hdc1080Ok (i16 h.sensors.hdcHumidityX100) "%"
  let line := shAppend line "\r\nvoc:"
  let line := if h.sensors.ccs811Ok then shAppend (shAppendU line h.sensors.ccs811Tvoc) "ppb"
    else shAppend line "na"
  let line := shAppend (shAppendU (shAppend line "\r\nco:") (shCoPpm co)) "ppm"
  let line := shAppend (shAppendU (shAppend line "\r\nnh3:") (shNh3Ppm nh3)) "ppm"
  let line := shAppend (shAppendX100 (shAppend line "\r\nno2:") (shNo2PpmX100 no2)) "ppm"
  shAppend line "\r\n"

def splitLines (line : List UInt8) : List (List UInt8) :=
  (line.splitOnP (fun b => b == 13 || b == 10)).filter (fun seg => !seg.isEmpty)

def reportFrames (line : List UInt8) : List (List UInt8) :=
  (splitLines line).map (fun seg => seg.take 37 ++ [13, 10])

def sendFrames (w : World) : List (List UInt8) → Helmet → Helmet × Bool
  | [], h => (h, true)
  | frame :: frames, h =>
    let (h, ok) := uartSend w .payload frame h
    if ok then sendFrames w frames h else (h, false)

def shSendReportLines (w : World) (e : Env) (line : List UInt8) (h : Helmet) : Helmet :=
  let (h, sent) := sendFrames w (reportFrames line) h
  uartNoteReportSent w e sent h

end SmartHelmet.Firmware
