import SmartHelmet.AbsenceDetection
import SmartHelmet.DecimalText

namespace SmartHelmet.Vitals

open Config MachineArith DecimalText

abbrev telemetryLineMax : ℕ := 160

abbrev comma : UInt8 := 44

def i32 (x : ℤ) : ℤ := Int.bmod x 4294967296

def shTelemChar (line : List UInt8) (c : UInt8) : List UInt8 :=
  if line.length + 1 < telemetryLineMax then line ++ [c] else line

def shTelemU32 (line : List UInt8) (v : ℕ) : List UInt8 :=
  if v = 0 then shTelemChar line (digit 0) else (remainders 10 v).reverse.foldl shTelemChar line

def shTelemFieldI32 (line : List UInt8) (v : ℤ) : List UInt8 :=
  let line := if line ≠ [] then shTelemChar line comma else line
  if v < 0 then shTelemU32 (shTelemChar line minus) (u32OfInt (0 - v)) else shTelemU32 line (u32OfInt v)

structure Telemetry where
  sink : Bool
  winSeq : UInt32
  dumpSeq : UInt32

def shTelemFlush (tel : Telemetry) (line : List UInt8) : Option (List UInt8) :=
  if tel.sink = true ∧ line ≠ [] then some line else none

def trendCode : TrendFlag → ℤ
  | .unknown => 0 | .stable => 1 | .rising => 2 | .falling => 3 | .absent => 4

def hrReasonCode : HrReason → ℤ
  | .ok => 0 | .warm => 1 | .eLow => 2 | .eHigh => 3 | .saLow => 4 | .saHigh => 5 | .dcSpike => 6
  | .holdoff => 7 | .noPeak => 8 | .noFft => 9 | .disagree => 10 | .peakOnly => 11 | .fftOnly => 12
  | .delta => 13 | .none => 14 | .disabled => 15 | .motion => 16 | .timebase => 17 | .noResp => 18

def flag (b : Bool) : ℤ := if b then 1 else 0

def csvColumns (st : Status) (energy baseline sensAbs rms : ℕ) (active : Bool) : List ℤ :=
  [flag active, flag st.hrValid, hrReasonCode st.hrReason, st.hrBpm, st.hrBpmPeak, st.hrBpmFft, st.hrBpmAc,
   st.hrBaselineBpm, st.hrDeltaBpm, st.hrCusumUp, st.hrCusumDn, trendCode st.hrChange, st.respBpm, st.respQ8,
   st.fsX100, st.fsJitterPct, st.sensDropped, energy, baseline, sensAbs, rms, st.adaptRemovedPct, st.sensMv]

def csvRow (winSeq : UInt32) (columns : List ℤ) : List ℤ := winSeq.toNat :: columns

def shTelemCsvWindow (tel : Telemetry) (st : Status) (energy baseline sensAbs rms : ℕ) (active : Bool) :
    Telemetry × Option (List UInt8) :=
  if ¬ tel.sink then (tel, none)
  else ({ tel with winSeq := tel.winSeq + 1 }, shTelemFlush tel
    (((csvRow tel.winSeq (csvColumns st energy baseline sensAbs rms active)).map i32).foldl
      shTelemFieldI32 []))

def dumpRow (dumpSeq : UInt32) (mv : UInt16) (timeUs : UInt32) : List ℕ :=
  [dumpSeq.toNat, mv.toNat, timeUs.toNat]

/-- The dump record at the head of `SmartHelmet_VitalsPushSensInMvAt`. -/
def dumpSens (tel : Telemetry) (mv : UInt16) (timeUs : UInt32) : Telemetry × Option (List UInt8) :=
  if ¬ tel.sink then (tel, none)
  else ({ tel with dumpSeq := tel.dumpSeq + 1 },
    shTelemFlush tel (((dumpRow tel.dumpSeq mv timeUs).map (fun v : ℕ => i32 v)).foldl shTelemFieldI32 []))

def bandsSettle (bio : Bio) (sensAbs : ℕ) : Bool :=
  !decide (bio.pulseAbs < bioPulseAbsMin ∧ bio.respAbs < bioRespAbsMin) &&
    !decide (sensAbs > u16 (bio.pulseAbs * bioArtifactRatio + 40))

/-- The local `baseline` of a calm window as it stands where the window is reported. -/
def localBaseline (b : Build) (s : State) : ℕ :=
  let t := armHoldoff (openCalm b s)
  let baseline := if s.status.baselineEnergy ≠ 0 then s.status.baselineEnergy else 1
  if t.calmWindows < calmWindowsMin ∨ (t.sens.count < bandWin / 4 ∧ ¬ haveAccel t) then baseline
  else if bandsSettle t.bio (sensAbs t) then (bioTrend t.bio t.status.baselineEnergy (sensAbs t)).2.2
  else baseline

/-- The two calls of `shVitalsReport`, from the state before the window. -/
def shVitalsReport (b : Build) (s : State) (tel : Telemetry) : Telemetry × Option (List UInt8) :=
  let st := (vitalsProcess b s).status
  let g := gated b s
  if (motionGate b (processPrologue s)).1 then
    shTelemCsvWindow tel st st.bandEnergy st.baselineEnergy (sensAbs g) (gateRms g) true
  else shTelemCsvWindow tel st (bandEnergy b g) (localBaseline b g) (sensAbs g) (gateRms g) false

def telemCall (b : Build) (s : State) (tel : Telemetry) : Call → Telemetry × Option (List UInt8)
  | .init => ({ tel with winSeq := 0, dumpSeq := 0 }, none)
  | .sens mv timeUs => dumpSens tel mv timeUs
  | .onSensSample =>
    if incSat 0xff s.sensSinceProcess ≥ motionWin then
      shVitalsReport b { s with sensSinceProcess := 0 } tel
    else (tel, none)
  | .process => shVitalsReport b s tel
  | _ => (tel, none)

theorem foldl_shTelemChar {line cs : List UInt8} (h : line.length + cs.length < telemetryLineMax) :
    cs.foldl shTelemChar line = line ++ cs := by
  induction cs generalizing line with
  | nil => simp
  | cons c cs ih =>
    simp only [List.length_cons] at h
    have hput : shTelemChar line c = line ++ [c] := if_pos (by omega)
    rw [List.foldl_cons, hput, ih (by simp only [List.length_append, List.length_singleton]; omega),
      List.append_assoc, List.singleton_append]

theorem shTelemU32_eq {line : List UInt8} {v : ℕ} (hv : v < 4294967296)
    (h : line.length + (decimal v).length < telemetryLineMax) : shTelemU32 line v = line ++ decimal v := by
  unfold shTelemU32
  split_ifs with hz
  · rw [hz] at h ⊢
    exact if_pos h
  · have hd : decimal v = (remainders 10 v).reverse := by
      rw [decimal, if_neg hz, remainders_eq (by omega)]
    rw [hd] at h ⊢
    exact foldl_shTelemChar h

def comesAfter (line : List UInt8) : List UInt8 := if line ≠ [] then line ++ [comma] else line

theorem shTelemFieldI32_eq {line : List UInt8} {v : ℤ} (hlo : -2147483648 ≤ v) (hhi : v < 2147483648)
    (h : (comesAfter line).length + (signed v).length < telemetryLineMax) :
    shTelemFieldI32 line v = comesAfter line ++ signed v := by
  have hsep : (if line ≠ [] then shTelemChar line comma else line) = comesAfter line := by
    unfold comesAfter at h ⊢
    split_ifs at h ⊢
    · rw [List.length_append, List.length_singleton] at h
      exact if_pos (by omega)
    · rfl
  rw [shTelemFieldI32, hsep]
  by_cases hneg : v < 0
  · have habs : u32OfInt (0 - v) = v.natAbs := by
      unfold u32OfInt
      omega
    rw [signed, if_pos hneg, List.length_cons] at h
    have hput : shTelemChar (comesAfter line) minus = comesAfter line ++ [minus] := if_pos (by omega)
    simp only [if_pos hneg, signed, hput, habs]
    rw [shTelemU32_eq (by omega) (by simp only [List.length_append, List.length_singleton]; omega),
      List.append_assoc, List.singleton_append]
  · have habs : u32OfInt v = v.natAbs := by
      unfold u32OfInt
      omega
    rw [signed, if_neg hneg] at h
    simp only [if_neg hneg, signed, habs]
    exact shTelemU32_eq (by omega) (by omega)

theorem foldl_shTelemFieldI32 {line : List UInt8} (hne : line ≠ []) {vs : List ℤ}
    (hvs : ∀ v ∈ vs, -2147483648 ≤ v ∧ v < 2147483648)
    (h : (line ++ (vs.map signed).flatMap (fun g => comma :: g)).length < telemetryLineMax) :
    vs.foldl shTelemFieldI32 line = line ++ (vs.map signed).flatMap (fun g => comma :: g) := by
  induction vs generalizing line with
  | nil => simp
  | cons v vs ih =>
    obtain ⟨hlo, hhi⟩ := hvs v List.mem_cons_self
    simp only [List.map_cons, List.flatMap_cons, List.length_append, List.length_cons] at h
    have hafter : comesAfter line = line ++ [comma] := if_pos hne
    have hfield : shTelemFieldI32 line v = line ++ comma :: signed v := by
      rw [shTelemFieldI32_eq hlo hhi, hafter, List.append_assoc, List.singleton_append]
      rw [hafter, List.length_append, List.length_singleton]
      omega
    have hroom : ((line ++ comma :: signed v) ++ (vs.map signed).flatMap (fun g => comma :: g)).length
        < telemetryLineMax := by
      simp only [List.length_append, List.length_cons]
      omega
    rw [List.foldl_cons, hfield, ih (by simp) (fun w hw => hvs w (List.mem_cons_of_mem _ hw)) hroom,
      List.map_cons, List.flatMap_cons, List.append_assoc]

theorem telemetry_line {vs : List ℤ} (hne : vs ≠ []) (hvs : ∀ v ∈ vs, -2147483648 ≤ v ∧ v < 2147483648)
    (h : (rowText comma (vs.map signed)).length < telemetryLineMax) (tel : Telemetry)
    (hsink : tel.sink = true) :
    shTelemFlush tel (vs.foldl shTelemFieldI32 []) = some (rowText comma (vs.map signed)) := by
  cases vs with
  | nil => exact absurd rfl hne
  | cons v vs =>
    obtain ⟨hlo, hhi⟩ := hvs v List.mem_cons_self
    rw [List.map_cons, rowText_cons] at h ⊢
    have hfirst : shTelemFieldI32 [] v = signed v := by
      have hempty : comesAfter [] = [] := rfl
      rw [shTelemFieldI32_eq hlo hhi, hempty, List.nil_append]
      rw [List.length_append] at h
      rw [hempty, List.length_nil]
      omega
    rw [List.foldl_cons, hfirst,
      foldl_shTelemFieldI32 (signed_ne_nil v) (fun w hw => hvs w (List.mem_cons_of_mem _ hw)) h]
    exact if_pos ⟨hsink, by simp [signed_ne_nil]⟩

end SmartHelmet.Vitals
