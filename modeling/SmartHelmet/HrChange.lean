import SmartHelmet.HrFusion

namespace SmartHelmet.Vitals

open Config MachineArith

def hrSlack (baseBpm : ℕ) : ℤ :=
  let prop := ((baseBpm : ℤ) * hrCusumSlackPct).tdiv 100
  if prop > hrCusumSlackBpm then prop else hrCusumSlackBpm

def cusumStep (acc d : ℤ) : ℤ :=
  let a := if acc + d < 0 then 0 else acc + d
  if a > 0xffff then 0xffff else a

def trackInvalid (t : HrTrack) (change : TrendFlag) : HrTrack × TrendFlag :=
  let run := incSat 0xffff t.invalidRun
  if run ≥ hrBaselineStaleWin then (⟨0, 0, run, 0, 0⟩, .unknown)
  else ({ t with invalidRun := run }, change)

def trackValid (t : HrTrack) (change : TrendFlag) (bpm : ℕ) : HrTrack × TrendFlag × ℤ :=
  let base := if t.baseBpm = 0 then bpm else t.baseBpm
  let slack := hrSlack base
  let dev : ℤ := (bpm : ℤ) - (base : ℤ)
  if t.baseN < hrBaselineMinWin then
    (⟨u16OfInt (base + (dev * 64).tdiv 256), t.baseN + 1, 0, 0, 0⟩, change, dev)
  else
    let up := cusumStep t.cusumUp (dev - slack)
    let dn := cusumStep t.cusumDn (-dev - slack)
    if up ≥ hrCusumLimit then (⟨bpm, t.baseN, 0, 0, 0⟩, .rising, dev)
    else if dn ≥ hrCusumLimit then (⟨bpm, t.baseN, 0, 0, 0⟩, .falling, dev)
    else
      (⟨u16OfInt (base + (dev * hrBaselineAlphaQ8).tdiv 256), t.baseN, 0, up, dn⟩, .stable, dev)

def adaptRemoved (a : Adapt) (pct : ℕ) : ℕ :=
  if a.eIn = 0 then pct
  else if a.eOut ≥ a.eIn then 0
  else min (u32 ((a.eIn - a.eOut) * 100) / a.eIn) 100

def publishTrack (s : State) (t : HrTrack) (change : TrendFlag) (dev : ℤ) : State :=
  { s with
    hrTrack := t
    status := { s.status with
      hrChange := change
      hrBaselineBpm := t.baseBpm
      hrDeltaBpm := i16 dev
      hrCusumUp := u16OfInt t.cusumUp
      hrCusumDn := u16OfInt t.cusumDn } }

def shUpdateHrChange (b : Build) (s : State) : State :=
  let s := if b.hrMotionAdapt then
    { s with status := { s.status with
      adaptRemovedPct := adaptRemoved s.adapt s.status.adaptRemovedPct } } else s
  if ¬ s.status.hrValid ∨ s.status.hrBpm = 0 then
    let (t, change) := trackInvalid s.hrTrack s.status.hrChange
    publishTrack s t change 0
  else
    let (t, change, dev) := trackValid s.hrTrack s.status.hrChange s.status.hrBpm
    publishTrack s t change dev

end SmartHelmet.Vitals
