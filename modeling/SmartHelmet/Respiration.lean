import SmartHelmet.SampleStatistics

namespace SmartHelmet.Vitals

open Config MachineArith RingBuffer

def shRespPush (r : Resp) (mv : ℕ) : Resp :=
  let acc := r.decimAcc + mv
  let n := u8 (r.decimN + 1)
  if n < respDecim then { r with decimAcc := acc, decimN := n }
  else
    let v := acc.tdiv respDecim
    let dc := if r.dcValid then r.dc + ((v * 256 - r.dc) * 12).tdiv 256 else v * 256
    { ring := r.ring.push (clampI16 (v - dc / 256)), decimN := 0, decimAcc := 0, dc := dc, dcValid := true }

def scaleShift (peak n : ℕ) : ℕ → ℕ → ℕ
  | 0, sh => sh
  | fuel + 1, sh =>
    if sh < 15 ∧ u32 (u32 ((peak / 2 ^ sh) * (peak / 2 ^ sh)) * n) > 0x3fffffff then
      scaleShift peak n fuel (sh + 1)
    else sh

def lagSum (x : List ℤ) (lag : ℕ) : ℤ :=
  ((List.range (x.length - lag)).map (fun i => x.getD i 0 * x.getD (i + lag) 0)).sum

def bestLag (x : List ℤ) (lags : List ℕ) : ℕ × ℤ :=
  lags.foldl (fun (b : ℕ × ℤ) lag =>
    if b.1 = 0 ∨ lagSum x lag > b.2 then (lag, lagSum x lag) else b) (0, 0)

def shRespBpm (r : Resp) (fsQ8 : ℕ) : ℕ × ℕ :=
  let fsRespQ8 := u16 (fsQ8 / respDecim)
  if fsRespQ8 = 0 then (0, 0)
  else
    let minLag := max (u16 (fsRespQ8 * 60 / (respBpmMax * 256))) 2
    let maxLag := u16 (fsRespQ8 * 60 / (respBpmMin * 256))
    let n := r.ring.count
    if n < u8 (maxLag * 2) then (0, 0)
    else
      let maxLag := if maxLag ≥ n then u16OfInt ((n : ℤ) - 1) else maxLag
      if maxLag < minLag then (0, 0)
      else
        let x := r.ring.ordered n
        let peak := shMaxAbsI16 x
        if peak = 0 then (0, 0)
        else
          let sh := scaleShift peak n 15 0
          let y := x.map (fun v => v / 2 ^ sh)
          let r0 := (y.map (fun v => v * v)).sum
          if r0 ≤ 0 then (0, 0)
          else
            let best := bestLag y (List.range' minLag (maxLag + 1 - minLag))
            if best.1 = 0 ∨ best.2 ≤ 0 then (0, 0)
            else
              let den := if u32OfInt r0 / 256 = 0 then 1 else u32OfInt r0 / 256
              let q := u32OfInt best.2 / den
              let q8 := if q > 0xffff then 0xffff else q
              if q < respMinQ8 then (0, q8)
              else
                let bpm := u16 (fsRespQ8 * 60 / (best.1 * 256))
                if bpm < respBpmMin ∨ bpm > respBpmMax then (0, q8) else (bpm, q8)

def shUpdateResp (s : State) : State :=
  let (bpm, q8) := shRespBpm s.resp s.fsQ8
  { s with status := { s.status with respBpm := bpm, respQ8 := q8, respValid := bpm ≠ 0 } }

end SmartHelmet.Vitals
