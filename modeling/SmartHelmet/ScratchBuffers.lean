import SmartHelmet.CellWrites
import SmartHelmet.VitalsRuns

namespace SmartHelmet.Vitals

open Config MachineArith RingBuffer CellWrites

/-- `sh_ordered`, `resp_ordered`, `fft_re` and `fft_im`. -/
structure Scratch where
  ordered : List ℤ
  respOrdered : List ℤ
  fft : Frame
  length_ordered : ordered.length = bandWin
  length_respOrdered : respOrdered.length = respWin
  length_fft : fft.1.length = fftN ∧ fft.2.length = fftN

def slot {cap : ℕ} (r : Ring ℤ cap) (n i : ℕ) : ℤ := r.buf.getD (((r.idx + cap - n) % cap + i) % cap) default

def lowPassNext (y x : ℤ) : ℤ × ℤ :=
  let y' := y + ((x - y) * hrLpAlphaQ8).tdiv 256
  (y', i16 y')

/-- `shCopySensOrdered` on its array: the copy, then the low pass in place. -/
def copySensOrdered (s : State) (n : ℕ) (cells : List ℤ) : List ℤ × ℕ :=
  let n := min n s.sens.count
  if n = 0 then (cells, 0)
  else
    let cells := fill (slot s.sens n) n cells
    (sweep 0 lowPassNext cells (cells.getD 0 0) 1 (n - 1), n)

def spectrumBpm (f : FftSmooth) (fsQ8 : ℕ) (a : Frame) : FftSmooth × ℕ × ℕ :=
  let c := binScan a
  if c.bestK = 0 then (f, 0, 0)
  else if c.bestP < u32 (c.sumP / (kHi + 1 - kLo) * hrFftSnrQ8) / 256 then (f, 0, 0)
  else
    let mag := if c.bestP > 0xffff then 0xffff else c.bestP
    let f' := smoothK f (interpolatedK a c)
    (f', bpmInBand (shBinQ8ToBpm fsQ8 (max f'.kQ8 256)), mag)

def hannSample (x : List ℤ) (mean : ℤ) (prescale i : ℕ) : ℤ :=
  ((shFftFrameSample x i - mean) * (32768 - shCos64Q15 i).tdiv 2).tdiv 32768 * 2 ^ prescale

def fftBpm (f : FftSmooth) (fsQ8 : ℕ) (x : List ℤ) (a : Frame) : (FftSmooth × ℕ × ℕ) × Frame :=
  if x.length < fftN / 2 then ((f, 0, 0), a)
  else
    let mean := frameMean x
    let peak := framePeak x mean
    if peak = 0 then ((f, 0, 0), a)
    else
      let a := shFftRadix2 (fill (hannSample x mean (prescaleLoop peak 12 0)) fftN a.1, fill (fun _ => 0) fftN a.2)
      (spectrumBpm f fsQ8 a, a)

def lagBpm (fsRespQ8 minLag maxLag n : ℕ) (x : List ℤ) : ℕ × ℕ :=
  let peak := shMaxAbsI16 x
  if peak = 0 then (0, 0)
  else
    let sh := scaleShift peak n 15 0
    let y := x.map (fun v => v / 2 ^ sh)
    let r0 := (y.map (fun v => v * v)).sum
    if r0 ≤ 0 then (0, 0)
    else
      let best := bestLag y (List.range' minLag (maxLag + 1 - minLag))
      if best.1 = 0 ∨ best.2 ≤ 0 then (0, 0)
      else
        let den := if u32OfInt r0 / 256 = 0 then 1 else u32OfInt r0 / 256
        let q := u32OfInt best.2 / den
        let q8 := if q > 0xffff then 0xffff else q
        if q < respMinQ8 then (0, q8)
        else
          let bpm := u16 (fsRespQ8 * 60 / (best.1 * 256))
          if bpm < respBpmMin ∨ bpm > respBpmMax then (0, q8) else (bpm, q8)

def respLags (r : Resp) (fsQ8 : ℕ) : Option (ℕ × ℕ × ℕ) :=
  let fsRespQ8 := u16 (fsQ8 / respDecim)
  if fsRespQ8 = 0 then none
  else
    let minLag := max (u16 (fsRespQ8 * 60 / (respBpmMax * 256))) 2
    let maxLag := u16 (fsRespQ8 * 60 / (respBpmMin * 256))
    let n := r.ring.count
    if n < u8 (maxLag * 2) then none
    else
      let maxLag := if maxLag ≥ n then u16OfInt ((n : ℤ) - 1) else maxLag
      if maxLag < minLag then none else some (fsRespQ8, minLag, maxLag)

def respBpm (r : Resp) (fsQ8 : ℕ) (cells : List ℤ) : (ℕ × ℕ) × List ℤ :=
  match respLags r fsQ8 with
  | none => ((0, 0), cells)
  | some (fsRespQ8, minLag, maxLag) =>
    let n := r.ring.count
    let cells := fill (slot r.ring n) n cells
    (lagBpm fsRespQ8 minLag maxLag n (cells.take n), cells)

section Reads

theorem map_slot {cap : ℕ} (r : Ring ℤ cap) (n : ℕ) : (List.range n).map (slot r n) = r.ordered n := rfl

theorem outputs_lowPassNext (y : ℤ) (xs : List ℤ) : outputs lowPassNext y xs = bandPass y xs := by
  induction xs generalizing y with
  | nil => rfl
  | cons x xs ih =>
    rw [outputs, bandPass, ih]
    rfl

theorem length_copySensOrdered (s : State) (n : ℕ) (cells : List ℤ) :
    (copySensOrdered s n cells).1.length = cells.length := by
  unfold copySensOrdered
  dsimp only
  split
  · rfl
  · rw [length_sweep, length_fill]

theorem take_copySensOrdered (s : State) (n : ℕ) {cells : List ℤ} (hcells : cells.length = bandWin) :
    (copySensOrdered s n cells).1.take (copySensOrdered s n cells).2 = shCopySensOrdered s n := by
  unfold copySensOrdered shCopySensOrdered
  dsimp only
  generalize hk : min n s.sens.count = k
  have hle : k ≤ cells.length := by
    have := s.sens.count_le
    omega
  by_cases hzero : k = 0
  · rw [if_pos hzero, hzero]
    rfl
  · rw [if_neg hzero]
    dsimp only
    have hlen := length_fill (slot s.sens k) k cells
    have htake := take_fill (slot s.sens k) hle
    rw [map_slot] at htake
    generalize fill (slot s.sens k) k cells = filled at hlen htake ⊢
    have hsweep := take_sweep 0 lowPassNext (filled.getD 0 0) (show 1 + (k - 1) ≤ filled.length by omega)
    rw [show 1 + (k - 1) = k by omega] at hsweep
    rw [hsweep, outputs_lowPassNext, ← htake]
    cases filled with
    | nil => exact absurd hlen (by rw [List.length_nil]; omega)
    | cons x xs =>
      obtain ⟨j, rfl⟩ : ∃ j, k = j + 1 := ⟨k - 1, by omega⟩
      rfl

theorem length_respBpm (r : Resp) (fsQ8 : ℕ) (cells : List ℤ) : (respBpm r fsQ8 cells).2.length = cells.length := by
  unfold respBpm
  split
  · rfl
  · rw [length_fill]

theorem shRespBpm_eq (r : Resp) (fsQ8 : ℕ) : shRespBpm r fsQ8 =
    match respLags r fsQ8 with
    | none => (0, 0)
    | some (fsRespQ8, minLag, maxLag) => lagBpm fsRespQ8 minLag maxLag r.ring.count (r.ring.ordered r.ring.count) := by
  unfold shRespBpm respLags
  dsimp only
  by_cases hrate : u16 (fsQ8 / respDecim) = 0
  · rw [if_pos hrate, if_pos hrate]
  · rw [if_neg hrate, if_neg hrate]
    by_cases hshort : r.ring.count < u8 (u16 (u16 (fsQ8 / respDecim) * 60 / (respBpmMin * 256)) * 2)
    · rw [if_pos hshort, if_pos hshort]
    · rw [if_neg hshort, if_neg hshort]
      generalize (if u16 (u16 (fsQ8 / respDecim) * 60 / (respBpmMin * 256)) ≥ r.ring.count then
        u16OfInt ((r.ring.count : ℤ) - 1) else u16 (u16 (fsQ8 / respDecim) * 60 / (respBpmMin * 256))) = maxLag
      by_cases hnone : maxLag < max (u16 (u16 (fsQ8 / respDecim) * 60 / (respBpmMax * 256))) 2
      · rw [if_pos hnone, if_pos hnone]
      · rw [if_neg hnone, if_neg hnone]
        rfl

theorem respBpm_eq (r : Resp) (fsQ8 : ℕ) {cells : List ℤ} (hcells : cells.length = respWin) :
    (respBpm r fsQ8 cells).1 = shRespBpm r fsQ8 := by
  have hle : r.ring.count ≤ cells.length := by
    have := r.ring.count_le
    omega
  have htake := take_fill (slot r.ring r.ring.count) hle
  rw [map_slot] at htake
  rw [shRespBpm_eq]
  unfold respBpm
  cases respLags r fsQ8 with
  | none => rfl
  | some lags =>
    dsimp only
    rw [htake]

theorem fftBpm_eq (f : FftSmooth) (fsQ8 : ℕ) (x : List ℤ) {a : Frame} (ha : a.1.length = fftN ∧ a.2.length = fftN) :
    (fftBpm f fsQ8 x a).1 = shFftBpm f fsQ8 x := by
  have hzero : fill (fun _ => (0 : ℤ)) fftN a.2 = List.replicate fftN 0 := by
    rw [fill_all _ ha.2, List.map_const', List.length_range]
  unfold fftBpm
  dsimp only
  rw [fill_all _ ha.1, hzero]
  unfold shFftBpm
  dsimp only
  by_cases hshort : x.length < fftN / 2
  · rw [if_pos hshort, if_pos hshort]
  · rw [if_neg hshort, if_neg hshort]
    by_cases hflat : framePeak x (frameMean x) = 0
    · rw [if_pos hflat, if_pos hflat]
    · have hwindowed (mean : ℤ) (prescale : ℕ) :
          (List.range fftN).map (hannSample x mean prescale) = windowed x mean prescale := rfl
      rw [if_neg hflat, if_neg hflat, hwindowed]
      generalize shFftRadix2 _ = a
      rfl

theorem length_swapAt (l : List ℤ) (i j : ℕ) : (swapAt l i j).length = l.length := by
  rw [swapAt, List.length_set, List.length_set]

def Frame.sizes (a : Frame) : ℕ × ℕ := (a.1.length, a.2.length)

theorem foldl_sizes {γ : Type} (f : Frame → γ → Frame) (hf : ∀ a i, Frame.sizes (f a i) = Frame.sizes a) (l : List γ)
    (a : Frame) : Frame.sizes (l.foldl f a) = Frame.sizes a := by
  induction l generalizing a with
  | nil => rfl
  | cons i l ih => rw [List.foldl_cons, ih, hf]

theorem sizes_bitReverse (a : Frame) : Frame.sizes (bitReverse a) = Frame.sizes a := by
  unfold bitReverse
  generalize (0 : ℕ) = j
  induction List.range (fftN - 1) generalizing a j with
  | nil => rfl
  | cons i l ih =>
    rw [List.foldl_cons, ih]
    split
    · exact Prod.ext (length_swapAt _ _ _) (length_swapAt _ _ _)
    · rfl

theorem sizes_shFftRadix2 (a : Frame) : Frame.sizes (shFftRadix2 a) = Frame.sizes a := by
  have hbutterfly (a : Frame) (p q tw : ℕ) : Frame.sizes (butterfly a p q tw) = Frame.sizes a := by
    unfold butterfly Frame.sizes
    dsimp only
    rw [List.length_set, List.length_set, List.length_set, List.length_set]
  have hstage (a : Frame) (len : ℕ) : Frame.sizes (fftStage a len) = Frame.sizes a := by
    apply foldl_sizes
    intro a g
    apply foldl_sizes
    intro a m
    exact hbutterfly a _ _ _
  rw [shFftRadix2, foldl_sizes fftStage hstage, sizes_bitReverse]

theorem sizes_fftBpm (f : FftSmooth) (fsQ8 : ℕ) (x : List ℤ) (a : Frame) :
    Frame.sizes (fftBpm f fsQ8 x a).2 = Frame.sizes a := by
  unfold fftBpm
  dsimp only
  split
  · rfl
  · split
    · rfl
    · rw [sizes_shFftRadix2, Frame.sizes, length_fill, length_fill]
      rfl

end Reads

def fuseEstimates (s : State) (x : List ℤ) (spectrum : FftSmooth × ℕ × ℕ) (allow : Bool) (pre : HrReason) : State :=
  let (bpmPeak, peakN) := shPeakBpm s.fsQ8 x
  let (fft, bpmFft, fftMag) := spectrum
  let pre := if bpmPeak = 0 ∧ bpmFft = 0 then (if pre = .holdoff then pre else .none) else pre
  shFuseHr { s with fft := fft } bpmPeak bpmFft 0 peakN fftMag allow pre

structure Memory where
  state : State
  scratch : Scratch

namespace Memory

def apply (f : State → State) (p : Memory) : Memory := { p with state := f p.state }

def updateResp (p : Memory) : Memory :=
  let r := respBpm p.state.resp p.state.fsQ8 p.scratch.respOrdered
  { state := { p.state with status := { p.state.status with
      respBpm := r.1.1
      respQ8 := r.1.2
      respValid := r.1.1 ≠ 0 } }
    scratch := { p.scratch with
      respOrdered := r.2
      length_respOrdered := (length_respBpm _ _ _).trans p.scratch.length_respOrdered } }

def prologue (p : Memory) : Memory :=
  ((p.apply shUpdateTimebase).updateResp.apply noteMotionWindow).apply noteWindowCounts

def estimate (p : Memory) (allow : Bool) (pre : HrReason) : Memory :=
  let s := p.state
  let o := copySensOrdered s s.sens.count p.scratch.ordered
  let x := o.1.take o.2
  let r := fftBpm s.fft s.fsQ8 x p.scratch.fft
  have hsizes := sizes_fftBpm s.fft s.fsQ8 x p.scratch.fft
  { state := fuseEstimates s x r.1 allow pre
    scratch := { p.scratch with
      ordered := o.1
      fft := r.2
      length_ordered := (length_copySensOrdered _ _ _).trans p.scratch.length_ordered
      length_fft := ⟨(congrArg Prod.fst hsizes).trans p.scratch.length_fft.1,
        (congrArg Prod.snd hsizes).trans p.scratch.length_fft.2⟩ } }

def settled (p : Memory) (energy sensAbs : ℕ) : Memory :=
  let t := p.apply (settleTrend · sensAbs)
  let sig := hrSignal t.state energy sensAbs
  if sig ≠ .ok then t.apply (shFuseHr · 0 0 0 0 0 false sig)
  else t.estimate (decide (p.state.hrWinLeft = 0)) (if p.state.hrWinLeft > 0 then .holdoff else .ok)

def pulse (b : Build) (p : Memory) : Memory :=
  let t := (p.apply (openCalm b)).apply armHoldoff
  if t.state.calmWindows < calmWindowsMin ∨ (t.state.sens.count < bandWin / 4 ∧ ¬ haveAccel t.state) then
    t.apply processWarm
  else t.settled t.state.status.bandEnergy (sensAbs t.state)

def calm (b : Build) (p : Memory) : Memory :=
  ((p.pulse b).apply (shUpdateHrChange b)).apply fun s =>
    { s with
      prevSensMv := s.status.sensMv
      prevSensMvValid := true
      pirEvents := 0
      status := { s.status with hrWinLeft := s.hrWinLeft } }

def process (b : Build) (p : Memory) : Memory :=
  let p := p.prologue
  let (active, run) := motionGate b p.state
  let p := p.apply fun s => { s with stillRun := run }
  if active then p.apply processActive else p.calm b

def onSensSample (b : Build) (p : Memory) : Memory :=
  let n := incSat 0xff p.state.sensSinceProcess
  if n ≥ motionWin then (p.apply fun s => { s with sensSinceProcess := 0 }).process b
  else p.apply fun s => { s with sensSinceProcess := n }

def step (b : Build) (p : Memory) : Call → Memory
  | .onSensSample => p.onSensSample b
  | .process => p.process b
  | c => p.apply (callStep b · c)

def replies (b : Build) (p : Memory) : List Call → List (Status × Option Bool)
  | [] => []
  | c :: calls => ((p.step b c).state.status, callReply p.state c) :: replies b (p.step b c) calls

theorem state_updateResp (p : Memory) : p.updateResp.state = shUpdateResp p.state := by
  unfold updateResp shUpdateResp
  dsimp only
  rw [respBpm_eq _ _ p.scratch.length_respOrdered]

theorem state_prologue (p : Memory) : p.prologue.state = processPrologue p.state := by
  unfold prologue apply processPrologue
  dsimp only
  rw [state_updateResp]

theorem state_estimate (p : Memory) (allow : Bool) (pre : HrReason) :
    (p.estimate allow pre).state = estimateHr p.state allow pre := by
  unfold estimate
  dsimp only
  rw [take_copySensOrdered _ _ p.scratch.length_ordered, fftBpm_eq _ _ _ p.scratch.length_fft]
  rfl

theorem state_settled (p : Memory) (energy sensAbs : ℕ) :
    (p.settled energy sensAbs).state = processSettled p.state energy sensAbs := by
  unfold settled processSettled
  dsimp only
  by_cases hsig : hrSignal (settleTrend p.state sensAbs) energy sensAbs ≠ .ok
  · rw [if_pos hsig]
    exact congrArg Memory.state (if_pos hsig)
  · rw [if_neg hsig]
    exact (congrArg Memory.state (if_neg hsig)).trans (state_estimate (p.apply (settleTrend · sensAbs)) _ _)

theorem state_pulse (b : Build) (p : Memory) : (p.pulse b).state = processPulse b p.state := by
  unfold pulse processPulse
  dsimp only
  by_cases hwarm : (armHoldoff (openCalm b p.state)).calmWindows < calmWindowsMin ∨
      ((armHoldoff (openCalm b p.state)).sens.count < bandWin / 4 ∧ ¬ haveAccel (armHoldoff (openCalm b p.state)))
  · rw [if_pos hwarm]
    exact congrArg Memory.state (if_pos hwarm)
  · rw [if_neg hwarm]
    exact (congrArg Memory.state (if_neg hwarm)).trans (state_settled ((p.apply (openCalm b)).apply armHoldoff) _ _)

theorem state_calm (b : Build) (p : Memory) : (p.calm b).state = processCalm b p.state := by
  unfold calm apply processCalm
  dsimp only
  rw [state_pulse]

theorem state_process (b : Build) (p : Memory) : (p.process b).state = vitalsProcess b p.state := by
  have hprologue := state_prologue p
  unfold process vitalsProcess
  dsimp only
  generalize p.prologue = q at hprologue ⊢
  rw [← hprologue]
  cases (motionGate b q.state).1 with
  | true => rfl
  | false => exact state_calm b (q.apply fun s => { s with stillRun := (motionGate b q.state).2 })

theorem state_step (b : Build) (p : Memory) (c : Call) : (p.step b c).state = callStep b p.state c := by
  cases c with
  | onSensSample =>
    simp only [step, callStep]
    unfold onSensSample vitalsOnSensSample
    dsimp only
    by_cases hfull : incSat 0xff p.state.sensSinceProcess ≥ motionWin
    · rw [if_pos hfull, if_pos hfull]
      exact state_process b (p.apply fun s => { s with sensSinceProcess := 0 })
    · rw [if_neg hfull, if_neg hfull]
      rfl
  | process => exact state_process b p
  | _ => rfl

theorem replies_eq (b : Build) (p : Memory) (calls : List Call) : p.replies b calls = Vitals.replies b p.state calls := by
  induction calls generalizing p with
  | nil => rfl
  | cons c calls ih => rw [replies, Vitals.replies, ih, state_step]

end Memory

end SmartHelmet.Vitals
