import SmartHelmet.SampleStatistics

namespace SmartHelmet.Vitals

open Config MachineArith

@[simp] def maxIbi : ℕ := fsHz * 60 / hrBpmMin
@[simp] def minIbi : ℕ := fsHz * 60 / hrBpmMax

@[simp] def ibiMax : ℕ := 16

/-- The variables of the scan; `last_peak` is `none` while it is `0xff`. -/
structure PeakScan where
  peaks : ℕ
  lastPeak : Option ℕ
  ibi : List ℕ

def PeakScan.start : PeakScan := ⟨0, none, []⟩

def peakStep (x : List ℤ) (thr : ℤ) (c : PeakScan) (i : ℕ) : PeakScan :=
  let y := x.getD i 0
  if y ≤ x.getD (i - 1) 0 ∨ y < x.getD (i + 1) 0 then c
  else if y < thr then c
  else match c.lastPeak with
    | none => ⟨c.peaks + 1, some i, c.ibi⟩
    | some last =>
      let ibi := i - last
      if ibi < hrMinPeakDist then
        if y > x.getD last 0 then { c with lastPeak := some i } else c
      else if minIbi ≤ ibi ∧ ibi ≤ maxIbi ∧ c.ibi.length < ibiMax then
        ⟨c.peaks + 1, some i, c.ibi ++ [ibi]⟩
      else ⟨c.peaks + 1, some i, c.ibi⟩

def peakThreshold (x : List ℤ) : ℤ :=
  let thr := ((shMeanAbsI16 x : ℤ) * hrPeakThrQ8).tdiv 256
  if thr < 5 then 5 else thr

def peakScan (x : List ℤ) : PeakScan :=
  (List.range' 1 (x.length - 2)).foldl (peakStep x (peakThreshold x)) .start

def medianQ8 (sorted : List ℕ) : ℕ :=
  let n := sorted.length
  if n % 2 = 1 then u16 (sorted.getD (n / 2) 0 * 256)
  else u16 ((sorted.getD (n / 2 - 1) 0 + sorted.getD (n / 2) 0) * 256 / 2)

def spreadMax (ibiQ8 : ℕ) (sorted : List ℕ) : ℕ :=
  sorted.foldl (fun m (v : ℕ) => max m ((v * 256 : ℤ) - (ibiQ8 : ℤ)).natAbs) 0

def bpmInBand (bpm : ℕ) : ℕ := if bpm < hrBpmMin ∨ bpm > hrBpmMax then 0 else bpm

def shPeakBpm (fsQ8 : ℕ) (x : List ℤ) : ℕ × ℕ :=
  if x.length < hrMinPeakDist * 2 + 3 then (0, 0)
  else
    let c := peakScan x
    let sorted := c.ibi.insertionSort (· ≤ ·)
    if sorted.length = 0 then (0, c.peaks)
    else
      let ibiQ8 := medianQ8 sorted
      if ibiQ8 = 0 then (0, c.peaks)
      else if 3 ≤ sorted.length ∧ spreadMax ibiQ8 sorted * 100 > ibiQ8 * hrIbiSpreadPct then
        (0, c.peaks)
      else
        (bpmInBand (shIntervalQ8ToBpm fsQ8 ibiQ8), c.peaks)

def fftCos64Q15 : List ℤ :=
  [32767, 32609, 32137, 31356, 30273, 28898, 27245, 25329,
   23170, 20787, 18204, 15446, 12539, 9512, 6393, 3212,
   0, -3212, -6393, -9512, -12539, -15446, -18204, -20787,
   -23170, -25329, -27245, -28898, -30273, -31356, -32137, -32609,
   -32767]

def fftSin64Q15 : List ℤ :=
  [0, 3212, 6393, 9512, 12539, 15446, 18204, 20787,
   23170, 25329, 27245, 28898, 30273, 31356, 32137, 32609,
   32767, 32609, 32137, 31356, 30273, 28898, 27245, 25329,
   23170, 20787, 18204, 15446, 12539, 9512, 6393, 3212,
   0]

def shFftTwiddle (k : ℕ) : ℤ × ℤ :=
  let kk := k % fftN
  if kk ≤ 32 then (fftCos64Q15.getD kk 0, -fftSin64Q15.getD kk 0)
  else (fftCos64Q15.getD (fftN - kk) 0, fftSin64Q15.getD (fftN - kk) 0)

abbrev Frame := List ℤ × List ℤ

def swapAt (l : List ℤ) (i j : ℕ) : List ℤ := (l.set i (l.getD j 0)).set j (l.getD i 0)

/-- The inner `while` of the bit reversal followed by `j += k`. -/
def reverseNext : ℕ → ℕ → ℕ → ℕ
  | 0, j, k => j + k
  | fuel + 1, j, k => if k ≤ j then reverseNext fuel (j - k) (k / 2) else j + k

def bitReverse (a : Frame) : Frame :=
  ((List.range (fftN - 1)).foldl (fun (st : Frame × ℕ) i =>
    let b := if i < st.2 then (swapAt st.1.1 i st.2, swapAt st.1.2 i st.2) else st.1
    (b, reverseNext 6 st.2 (fftN / 2))) (a, 0)).1

def butterfly (a : Frame) (p q tw : ℕ) : Frame :=
  let (cw, sw) := shFftTwiddle tw
  let rq := (a.1.getD q 0).tdiv 2
  let iq := (a.2.getD q 0).tdiv 2
  let tr := (rq * cw - iq * sw).tdiv 16384
  let ti := (rq * sw + iq * cw).tdiv 16384
  let ur := (a.1.getD p 0).tdiv 2
  let ui := (a.2.getD p 0).tdiv 2
  ((a.1.set p (ur + tr)).set q (ur - tr), (a.2.set p (ui + ti)).set q (ui - ti))

def fftStage (a : Frame) (len : ℕ) : Frame :=
  (List.range (fftN / len)).foldl (fun a g =>
    (List.range (len / 2)).foldl (fun a m =>
      butterfly a (g * len + m) (g * len + m + len / 2) (m * fftN / len)) a) a

def shFftRadix2 (a : Frame) : Frame := [2, 4, 8, 16, 32, 64].foldl fftStage (bitReverse a)

def shCos64Q15 (i : ℕ) : ℤ :=
  let kk := i % fftN
  if kk ≤ 32 then fftCos64Q15.getD kk 0 else fftCos64Q15.getD (fftN - kk) 0

def shFftFrameSample (x : List ℤ) (i : ℕ) : ℤ :=
  if fftN ≤ x.length then x.getD (x.length - fftN + i) 0
  else if i < x.length then x.getD i 0 else 0

def frameMean (x : List ℤ) : ℤ :=
  ((List.range fftN).foldl (fun s i => s + shFftFrameSample x i) 0).tdiv fftN

def framePeak (x : List ℤ) (mean : ℤ) : ℕ :=
  (List.range fftN).foldl (fun m i =>
    let v := (shFftFrameSample x i - mean).natAbs
    if v > m then u16 v else m) 0

def prescaleLoop (peak : ℕ) : ℕ → ℕ → ℕ
  | 0, p => p
  | fuel + 1, p =>
    if p < 12 ∧ peak * 2 ^ (p + 1) ≤ 16384 then prescaleLoop peak fuel (p + 1) else p

def windowed (x : List ℤ) (mean : ℤ) (prescale : ℕ) : List ℤ :=
  (List.range fftN).map (fun i =>
    ((shFftFrameSample x i - mean) * (32768 - shCos64Q15 i).tdiv 2).tdiv 32768 * 2 ^ prescale)

def binPower (a : Frame) (k : ℕ) : ℕ :=
  let pr := (a.1.getD k 0).tdiv 8
  let pi := (a.2.getD k 0).tdiv 8
  u32OfInt (pr * pr + pi * pi)

@[simp] def kLo : ℕ := (hrBpmMin * fftN + 60 * fsHz / 2) / (60 * fsHz)
@[simp] def kHi : ℕ := hrBpmMax * fftN / (60 * fsHz)

structure BinScan where
  bestK : ℕ
  bestP : ℕ
  sumP : ℕ

def binScan (a : Frame) : BinScan :=
  (List.range' kLo (kHi + 1 - kLo)).foldl (fun (c : BinScan) k =>
    let p := binPower a k
    if p > c.bestP then ⟨k, p, u32 (c.sumP + p)⟩ else { c with sumP := u32 (c.sumP + p) }) ⟨0, 0, 0⟩

def shParabolicDeltaQ8 (a b c : ℤ) : ℤ :=
  let denom := a - 2 * b + c
  if denom ≥ 0 then 0
  else
    let d := ((a - c) * 128).tdiv denom
    if d > 128 then 128 else if d < -128 then -128 else d

/-- Twelve halvings bring a 32-bit value below `2 ^ 20`. -/
def fitScale : ℕ → ℕ → ℕ → ℕ → ℕ → ℕ × ℕ × ℕ
  | 0, a, b, c, _ => (a, b, c)
  | fuel + 1, a, b, c, m =>
    if m > 0x000fffff then fitScale fuel (a / 2) (b / 2) (c / 2) (m / 2) else (a, b, c)

def shFitScale3 (a b c : ℕ) : ℕ × ℕ × ℕ := fitScale 12 a b c (max (max a b) c)

def shBinQ8ToBpm (fsQ8 kQ8 : ℕ) : ℕ := u16 (u32 (kQ8 * 60 * (fsQ8 / 16)) / (fftN * 4096))

def interpolatedK (a : Frame) (c : BinScan) : ℕ :=
  if kLo < c.bestK ∧ c.bestK < kHi ∧ c.bestK + 1 < fftN / 2 then
    let (pa, pb, pc) := shFitScale3 (binPower a (c.bestK - 1)) c.bestP (binPower a (c.bestK + 1))
    u16OfInt ((u16 (c.bestK * 256) : ℤ) + shParabolicDeltaQ8 pa pb pc)
  else u16 (c.bestK * 256)

def smoothK (f : FftSmooth) (kQ8 : ℕ) : FftSmooth :=
  if f.valid then
    let jump := if kQ8 > f.kQ8 then kQ8 - f.kQ8 else f.kQ8 - kQ8
    let alpha := if jump > hrFftMaxBinJump * 256 then max (hrFftSmoothAlphaQ8 / 2) 16
      else hrFftSmoothAlphaQ8
    ⟨u16 (u32 (f.kQ8 * (256 - alpha) + kQ8 * alpha) / 256), true⟩
  else ⟨kQ8, true⟩

def shFftBpm (f : FftSmooth) (fsQ8 : ℕ) (x : List ℤ) : FftSmooth × ℕ × ℕ :=
  if x.length < fftN / 2 then (f, 0, 0)
  else
    let mean := frameMean x
    let peak := framePeak x mean
    if peak = 0 then (f, 0, 0)
    else
      let a := shFftRadix2 (windowed x mean (prescaleLoop peak 12 0), List.replicate fftN 0)
      let c := binScan a
      if c.bestK = 0 then (f, 0, 0)
      else if c.bestP < u32 (c.sumP / (kHi + 1 - kLo) * hrFftSnrQ8) / 256 then (f, 0, 0)
      else
        let mag := if c.bestP > 0xffff then 0xffff else c.bestP
        let f' := smoothK f (interpolatedK a c)
        (f', bpmInBand (shBinQ8ToBpm fsQ8 (max f'.kQ8 256)), mag)

theorem bpmInBand_range (bpm : ℕ) :
    bpmInBand bpm = 0 ∨ 40 ≤ bpmInBand bpm ∧ bpmInBand bpm ≤ 180 := by
  by_cases h : bpm < hrBpmMin ∨ bpm > hrBpmMax
  · exact Or.inl (if_pos h)
  · rw [bpmInBand, if_neg h]
    simp only [hrBpmMin, hrBpmMax] at h
    omega

theorem shPeakBpm_range (fsQ8 : ℕ) (x : List ℤ) :
    (shPeakBpm fsQ8 x).1 = 0 ∨ 40 ≤ (shPeakBpm fsQ8 x).1 ∧ (shPeakBpm fsQ8 x).1 ≤ 180 := by
  unfold shPeakBpm
  dsimp only
  split_ifs
  case neg => exact bpmInBand_range _
  all_goals exact Or.inl rfl

theorem shFftBpm_range (f : FftSmooth) (fsQ8 : ℕ) (x : List ℤ) :
    (shFftBpm f fsQ8 x).2.1 = 0 ∨
      40 ≤ (shFftBpm f fsQ8 x).2.1 ∧ (shFftBpm f fsQ8 x).2.1 ≤ 180 := by
  unfold shFftBpm
  dsimp only
  split_ifs
  all_goals first | exact Or.inl rfl | exact bpmInBand_range _

end SmartHelmet.Vitals
