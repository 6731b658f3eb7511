import SmartHelmet.SamplePath

namespace SmartHelmet.Vitals

open Config MachineArith

def shHrDisturb (s : State) (holdoffWin : ℕ) : State :=
  { s with
    hrWinLeft := if holdoffWin > s.hrWinLeft then holdoffWin else s.hrWinLeft
    lastHrValidHave := false
    lastHrValidBpm := 0
    hrDeltaRej := 0
    fft := shFftSmoothReset }

def shHrSignalReason (energy sensAbs : ℕ) : HrReason :=
  if energy < hrMinEnergy then .eLow
  else if energy > hrMaxEnergy then .eHigh
  else if sensAbs < hrMinSensAbs then .saLow
  else if sensAbs > hrMaxSensAbs then .saHigh
  else .ok

def shHrDisturbReason (s : State) (energy sensAbs sensMv : ℕ) : HrReason :=
  if energy > hrMaxEnergy then .eHigh
  else if sensAbs > hrMaxSensAbs then .saHigh
  else if s.prevSensMvValid ∧ (((sensMv : ℤ) - (s.prevSensMv : ℤ)).natAbs : ℤ) ≥ hrSensDcSpikeMv then
    .dcSpike
  else .ok

def whyOr (why r : HrReason) : HrReason := if why = .ok then r else why

def bpmDiff (a b : ℕ) : ℕ := if a > b then a - b else b - a

def fusePair (bpmPeak bpmFft peaks : ℕ) (why : HrReason) : ℕ × Bool × HrReason :=
  if bpmPeak ≠ 0 ∧ bpmFft ≠ 0 then
    let avg := (bpmPeak + bpmFft) / 2
    if avg > 0 ∧ bpmDiff bpmPeak bpmFft * 100 ≤ avg * hrAgreePct then (u16 avg, true, why)
    else (u16 (u32 (bpmPeak * hrFusePeakWQ8 + bpmFft * (256 - hrFusePeakWQ8)) / 256), false,
      whyOr why .disagree)
  else if bpmPeak ≠ 0 ∧ peaks ≥ hrMinPeaksValid then (bpmPeak, false, whyOr why .peakOnly)
  else if bpmFft ≠ 0 then (bpmFft, false, whyOr why .fftOnly)
  else if bpmPeak ≠ 0 then (bpmPeak, false, whyOr why .noFft)
  else (0, false, whyOr why .none)

def deltaJump (s : State) (fused : ℕ) : Bool :=
  s.lastHrValidHave && decide ((((fused : ℤ) - (s.lastHrValidBpm : ℤ)).natAbs : ℤ) > hrMaxDeltaBpm)

def noteDeltaRejected (s : State) : State :=
  let rej := incSat 0xff s.hrDeltaRej
  if rej ≥ hrDeltaResyncWin then
    { s with lastHrValidHave := false, lastHrValidBpm := 0, hrDeltaRej := 0 }
  else { s with hrDeltaRej := rej }

def noteHrValid (s : State) (fused : ℕ) : State :=
  { s with lastHrValidBpm := fused, lastHrValidHave := true, hrDeltaRej := 0 }

def publishHr (s : State) (fused : ℕ) (ok : Bool) (why : HrReason) : State :=
  { s with status := { s.status with hrBpm := fused, hrValid := ok, hrReason := why } }

def publishEstimates (s : State) (bpmPeak bpmFft bpmAc peaks fftMag : ℕ) : State :=
  { s with status := { s.status with
    hrBpmPeak := bpmPeak
    hrBpmFft := bpmFft
    hrBpmAc := bpmAc
    hrPeakCount := peaks
    hrFftMag := fftMag } }

def shFuseHr (s : State) (bpmPeak bpmFft bpmAc peaks fftMag : ℕ) (allowValid : Bool)
    (preReason : HrReason) : State :=
  let s := publishEstimates s bpmPeak bpmFft bpmAc peaks fftMag
  let (fused, ok, why) := fusePair bpmPeak bpmFft peaks preReason
  if ¬ allowValid then
    publishHr s fused false (if preReason ≠ .ok then preReason
      else if s.hrWinLeft > 0 ∨ preReason = .holdoff then .holdoff else why)
  else if ok ∧ deltaJump s fused then publishHr (noteDeltaRejected s) fused false .delta
  else if ok then publishHr (noteHrValid s fused) fused true .ok
  else publishHr s fused false why

theorem whyOr_ne_ok {why r : HrReason} (hr : r ≠ .ok) : whyOr why r ≠ .ok := by
  unfold whyOr
  split_ifs with h
  · exact hr
  · exact h

theorem bpmDiff_eq (a b : ℕ) : bpmDiff a b = ((a : ℤ) - (b : ℤ)).natAbs := by
  unfold bpmDiff
  split_ifs <;> omega

theorem fusePair_agree {bpmPeak bpmFft peaks : ℕ} {why : HrReason}
    (h : (fusePair bpmPeak bpmFft peaks why).2.1 = true) :
    bpmPeak ≠ 0 ∧ bpmFft ≠ 0 ∧
      ((bpmPeak : ℤ) - (bpmFft : ℤ)).natAbs * 100 ≤ 20 * ((bpmPeak + bpmFft) / 2) ∧
      (fusePair bpmPeak bpmFft peaks why).1 = u16 ((bpmPeak + bpmFft) / 2) := by
  by_cases hne : bpmPeak ≠ 0 ∧ bpmFft ≠ 0
  · have hf : fusePair bpmPeak bpmFft peaks why = if (bpmPeak + bpmFft) / 2 > 0 ∧
          bpmDiff bpmPeak bpmFft * 100 ≤ (bpmPeak + bpmFft) / 2 * hrAgreePct then
        (u16 ((bpmPeak + bpmFft) / 2), true, why)
      else (u16 (u32 (bpmPeak * hrFusePeakWQ8 + bpmFft * (256 - hrFusePeakWQ8)) / 256), false,
        whyOr why .disagree) := by rw [fusePair, if_pos hne]
    split_ifs at hf with hagree
    · rw [hf]
      refine ⟨hne.1, hne.2, ?_, rfl⟩
      have hd := hagree.2
      simp only [bpmDiff_eq, hrAgreePct] at hd
      omega
    · rw [hf] at h; cases h
  · rw [fusePair, if_neg hne] at h
    split_ifs at h

theorem fusePair_reason {bpmPeak bpmFft peaks : ℕ} {why : HrReason}
    (h : (fusePair bpmPeak bpmFft peaks why).2.1 = false) :
    (fusePair bpmPeak bpmFft peaks why).2.2 ≠ .ok := by
  unfold fusePair at h ⊢
  dsimp only at h ⊢
  split_ifs at h ⊢ <;> exact whyOr_ne_ok (by decide)

theorem shFuseHr_cases (s : State) (bpmPeak bpmFft bpmAc peaks fftMag : ℕ) (allow : Bool)
    (pre : HrReason) :
    let e := publishEstimates s bpmPeak bpmFft bpmAc peaks fftMag
    let p := fusePair bpmPeak bpmFft peaks pre
    let r := shFuseHr s bpmPeak bpmFft bpmAc peaks fftMag allow pre
    (allow = false ∧ ∃ why, (pre ≠ .ok → why = pre) ∧ r = publishHr e p.1 false why) ∨
    (allow = true ∧ p.2.1 = true ∧ deltaJump e p.1 = true ∧
      r = publishHr (noteDeltaRejected e) p.1 false .delta) ∨
    (allow = true ∧ p.2.1 = true ∧ r = publishHr (noteHrValid e p.1) p.1 true .ok) ∨
    (allow = true ∧ p.2.1 = false ∧ r = publishHr e p.1 false p.2.2) := by
  intro e p r
  cases ha : allow with
  | false =>
    refine Or.inl ⟨rfl, _, ?_, by simp only [r, shFuseHr, ha]; rfl⟩
    intro hpre
    rw [if_pos hpre]
  | true =>
    refine Or.inr ?_
    have hr : r = if p.2.1 = true ∧ deltaJump e p.1 = true then
        publishHr (noteDeltaRejected e) p.1 false .delta
      else if p.2.1 = true then publishHr (noteHrValid e p.1) p.1 true .ok
      else publishHr e p.1 false p.2.2 := by simp only [r, shFuseHr, ha]; rfl
    cases hp : p.2.1 with
    | false => exact Or.inr (Or.inr ⟨rfl, rfl, by simpa [hp] using hr⟩)
    | true =>
      cases hj : deltaJump e p.1 with
      | true => exact Or.inl ⟨rfl, rfl, rfl, by simpa [hp, hj] using hr⟩
      | false => exact Or.inr (Or.inl ⟨rfl, rfl, by simpa [hp, hj] using hr⟩)

theorem shFuseHr_shape (s : State) (bpmPeak bpmFft bpmAc peaks fftMag : ℕ) (allow : Bool)
    (pre : HrReason) : ∃ last lastHave rej bpm ok why,
    shFuseHr s bpmPeak bpmFft bpmAc peaks fftMag allow pre =
      publishHr { publishEstimates s bpmPeak bpmFft bpmAc peaks fftMag with
        lastHrValidBpm := last, lastHrValidHave := lastHave, hrDeltaRej := rej } bpm ok why := by
  rcases shFuseHr_cases s bpmPeak bpmFft bpmAc peaks fftMag allow pre with
    ⟨_, why, _, hr⟩ | ⟨_, _, _, hr⟩ | ⟨_, _, hr⟩ | ⟨_, _, hr⟩
  · exact ⟨s.lastHrValidBpm, s.lastHrValidHave, s.hrDeltaRej, _, _, _, hr⟩
  · unfold noteDeltaRejected at hr
    dsimp only at hr
    split_ifs at hr
    · exact ⟨_, _, _, _, _, _, hr⟩
    · exact ⟨s.lastHrValidBpm, s.lastHrValidHave, _, _, _, _, hr⟩
  · exact ⟨_, _, _, _, _, _, hr⟩
  · exact ⟨s.lastHrValidBpm, s.lastHrValidHave, s.hrDeltaRej, _, _, _, hr⟩

theorem shFuseHr_valid {s : State} {bpmPeak bpmFft bpmAc peaks fftMag : ℕ} {allow : Bool}
    {pre : HrReason}
    (h : (shFuseHr s bpmPeak bpmFft bpmAc peaks fftMag allow pre).status.hrValid = true) :
    let st := (shFuseHr s bpmPeak bpmFft bpmAc peaks fftMag allow pre).status
    allow = true ∧ st.hrReason = .ok ∧ bpmPeak ≠ 0 ∧ bpmFft ≠ 0 ∧
      ((bpmPeak : ℤ) - (bpmFft : ℤ)).natAbs * 100 ≤ 20 * ((bpmPeak + bpmFft) / 2) ∧
      st.hrBpm = u16 ((bpmPeak + bpmFft) / 2) ∧ st.hrBpmPeak = bpmPeak ∧ st.hrBpmFft = bpmFft := by
  intro st
  rcases shFuseHr_cases s bpmPeak bpmFft bpmAc peaks fftMag allow pre with
    ⟨_, why, _, hr⟩ | ⟨_, _, _, hr⟩ | ⟨ha, hok, hr⟩ | ⟨_, _, hr⟩
  · rw [hr] at h; cases h
  · rw [hr] at h; cases h
  · obtain ⟨hp, hf, hd, hu⟩ := fusePair_agree hok
    simp only [st, hr]
    exact ⟨ha, rfl, hp, hf, hd, hu, rfl, rfl⟩
  · rw [hr] at h; cases h

theorem shFuseHr_invalid {s : State} {bpmPeak bpmFft bpmAc peaks fftMag : ℕ} {allow : Bool}
    {pre : HrReason} (hpre : allow = true ∨ pre ≠ .ok)
    (h : (shFuseHr s bpmPeak bpmFft bpmAc peaks fftMag allow pre).status.hrValid = false) :
    (shFuseHr s bpmPeak bpmFft bpmAc peaks fftMag allow pre).status.hrReason ≠ .ok := by
  rcases shFuseHr_cases s bpmPeak bpmFft bpmAc peaks fftMag allow pre with
    ⟨ha, why, hw, hr⟩ | ⟨_, _, _, hr⟩ | ⟨_, _, hr⟩ | ⟨_, hok, hr⟩
  · have hne : pre ≠ .ok := hpre.resolve_left (by simp [ha])
    rw [hr]
    exact (hw hne).symm ▸ hne
  · rw [hr]
    exact fun hc => by cases hc
  · rw [hr] at h; cases h
  · rw [hr]
    exact fusePair_reason hok

end SmartHelmet.Vitals
