import SmartHelmet.OnePole
import SmartHelmet.Respiration

namespace SmartHelmet.Vitals

open Config MachineArith RingBuffer

def shNoteFallMag (mag : ℕ) : Bool :=
  decide (mag ≠ 0 ∧ (mag ≥ fallImpactMg ∨ mag ≤ fallFreefallMg))

def accelMag (x y z : Int16) : ℕ :=
  shSqrtU32 (u32OfInt (x.toInt * x.toInt + y.toInt * y.toInt + z.toInt * z.toInt))

def adaptPushAccel (a : Adapt) (x y z : Int16) : Adapt :=
  let hs := (a.axisHp.zip [x.toInt, y.toInt, z.toInt]).map (fun p => shHighPass p.1 p.2)
  { a with axisHp := hs.map Prod.fst, lastAccelHp := hs.map Prod.snd, haveAccel := true }

def vitalsPushAccel (b : Build) (s : State) (x y z : Int16) : State :=
  let mag := accelMag x y z
  let (hp', hp) := shHighPass s.hp mag
  { s with
    motion := s.motion.push ⟨mag, x.toInt, y.toInt, z.toInt⟩
    fallPending := s.fallPending || shNoteFallMag mag
    hp := hp'
    adapt := if b.hrMotionAdapt then adaptPushAccel s.adapt x y z else s.adapt
    band := s.band.push hp }

def levelPole (a : ℤ) (band : ℤ) (level : ℕ) : ℕ :=
  let m : ℤ := if band.natAbs > 32767 then 32767 else band.natAbs
  u16OfInt (OnePole.step a m level)

def shBioPush (b : Bio) (x : ℤ) : Bio :=
  let lpFast := OnePole.step 136 x b.lpFast
  let lpSlow := OnePole.step 47 x b.lpSlow
  let respFast := OnePole.step 27 x b.respFast
  let respSlow := OnePole.step 8 x b.respSlow
  { lpFast, lpSlow, respFast, respSlow
    pulseAbs := levelPole 32 (lpFast - lpSlow) b.pulseAbs
    respAbs := levelPole 16 (respFast - respSlow) b.respAbs }

def vitalsNoteSensDropped (s : State) : State :=
  { s with sensDropped := incSat 0xff s.sensDropped, ts := { s.ts with prevValid := false } }

def vitalsPirEvent (s : State) : State := { s with pirEvents := incSat 0xffff s.pirEvents }

def noteTimestamp (t : TimeBase) (timeUs : UInt32) : TimeBase :=
  if timeUs = 0 then t
  else
    let dt := (timeUs - UInt32.ofNat t.prevUs).toNat
    let nominal := 1000000 / fsHz
    if t.prevValid ∧ dt ≥ nominal / 4 ∧ dt ≤ nominal * 4 then
      let jit := if dt > nominal then dt - nominal else nominal - dt
      { t with
        prevUs := timeUs.toNat
        prevValid := true
        sumUs := u32 (t.sumUs + dt)
        jitSumUs := u32 (t.jitSumUs + jit)
        n := incSat 0xffff t.n }
    else { t with prevUs := timeUs.toNat, prevValid := true }

def adaptShift (a : Adapt) : List (List ℤ) :=
  (a.ref.zip a.lastAccelHp).map (fun p => p.2 :: p.1.dropLast)

def adaptScale : ℕ → ℤ → ℤ → ℤ × ℤ
  | 0, step, d => (step, d)
  | fuel + 1, step, d =>
    if step > 524287 ∨ step < -524288 then adaptScale fuel (step / 2) (if d > 1 then d / 2 else 1)
    else (step, d)

def adaptWeight (muE den : ℤ) (w r : ℤ) : ℤ :=
  let (step, d) := adaptScale 32 (muE * r) den
  let w' := w + (step * 4096).tdiv d
  if w' > 8 * 4096 then 8 * 4096 else if w' < -(8 * 4096) then -(8 * 4096) else w'

def shMotionCancel (a : Adapt) (hp : ℤ) : Adapt × ℤ :=
  if ¬ a.haveAccel then (a, hp)
  else
    let ref := adaptShift a
    if a.refN < hrAdaptTaps then ({ a with ref := ref, refN := a.refN + 1 }, hp)
    else
      let y := clampI16 ((List.zipWith (fun ws rs =>
        (List.zipWith (fun w r => (w * r).tdiv 4096) ws rs).sum) a.w ref).sum)
      let norm := (ref.map (fun rs => (rs.map (fun r => r * r)).sum)).sum
      let e := clampI16 (hp - y)
      let eIn := u32 (a.eIn - a.eIn / 32 + u32OfInt (hp * hp) / 32)
      let eOut := u32 (a.eOut - a.eOut / 32 + u32OfInt (e * e) / 32)
      let muE := (hrAdaptMuQ8 * e).tdiv 256
      let w := if norm > 0 then
        List.zipWith (fun ws rs => List.zipWith (adaptWeight muE (norm + 64)) ws rs) a.w ref
        else a.w
      ({ a with ref := ref, w := w, eIn := eIn, eOut := eOut }, e)

def noteSensEdge (s : State) (hp : ℤ) : State :=
  let a : ℤ := hp.natAbs
  if s.sensEdgeArmed ∧ a ≥ sensEdgeAbsMv then { vitalsPirEvent s with sensEdgeArmed := false }
  else if ¬ s.sensEdgeArmed ∧ a < sensEdgeAbsMv.tdiv 2 then { s with sensEdgeArmed := true }
  else s

def vitalsPushSensInMvAt (b : Build) (s : State) (mv : UInt16) (timeUs : UInt32) : State :=
  let (sensHp, hp) := shHighPass s.sensHp mv.toNat
  let (adapt, hp) := if b.hrMotionAdapt then shMotionCancel s.adapt hp else (s.adapt, hp)
  noteSensEdge
    { s with
      ts := noteTimestamp s.ts timeUs
      status := { s.status with sensMv := mv.toNat }
      sensHp := sensHp
      adapt := adapt
      resp := shRespPush s.resp mv.toNat
      sens := s.sens.push hp
      bio := shBioPush s.bio hp } hp

end SmartHelmet.Vitals
