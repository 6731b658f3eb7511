import SmartHelmet.FftExcess

namespace SmartHelmet.Vitals

open Config MachineArith

def spectrumFrame (x : List ℤ) : Frame :=
  (windowed x (frameMean x) (prescaleLoop (framePeak x (frameMean x)) 12 0), List.replicate fftN 0)

def FromChunk (x : List ℤ) (i : ℕ) : Prop := i < fftN ∧ i < x.length

def hann (i : ℕ) : ℤ := (32768 - shCos64Q15 i).tdiv 2

/-- The results of the butterflies, whose two sums are cells of the next stage. -/
def CellsFit (a : Frame) : Prop :=
  ∀ s ≤ 6, ∀ j < 64, |(cell (afterStages a s) j).1| < 2 ^ 31 ∧ |(cell (afterStages a s) j).2| < 2 ^ 31

def exactPower (a : Frame) (k : ℕ) : ℤ :=
  (a.1.getD k 0).tdiv 8 * (a.1.getD k 0).tdiv 8 + (a.2.getD k 0).tdiv 8 * (a.2.getD k 0).tdiv 8

section Prescale

theorem prescaleLoop_spec (peak fuel p : ℕ) (hp : p + fuel = 12) (hfit : p = 0 ∨ peak * 2 ^ p ≤ 16384) :
    let q := prescaleLoop peak fuel p
    q ≤ 12 ∧ (q = 0 ∨ peak * 2 ^ q ≤ 16384) ∧ ¬(q < 12 ∧ peak * 2 ^ (q + 1) ≤ 16384) := by
  induction fuel generalizing p with
  | zero => exact ⟨by rw [prescaleLoop]; omega, hfit, fun h => absurd h.1 (by rw [prescaleLoop]; omega)⟩
  | succ fuel ih =>
    rw [prescaleLoop]
    split_ifs with hmore
    · exact ih (p + 1) (by omega) (Or.inr hmore.2)
    · exact ⟨by omega, hfit, hmore⟩

theorem abs_frameSample_le {x : List ℤ} (hx : ∀ v ∈ x, -32768 ≤ v ∧ v ≤ 32767) (i : ℕ) :
    -32768 ≤ shFftFrameSample x i ∧ shFftFrameSample x i ≤ 32767 := by
  have hget (j : ℕ) : -32768 ≤ x.getD j 0 ∧ x.getD j 0 ≤ 32767 := by
    rcases lt_or_ge j x.length with h | h
    · rw [List.getD_eq_getElem _ _ h]
      exact hx _ (List.getElem_mem h)
    · rw [List.getD_eq_default _ _ h]
      norm_num
  rw [shFftFrameSample]
  split_ifs
  · exact hget _
  · exact hget _
  · norm_num

theorem abs_frameMean_le {x : List ℤ} (hx : ∀ v ∈ x, -32768 ≤ v ∧ v ≤ 32767) : |frameMean x| ≤ 32768 := by
  have hsum (is : List ℕ) : ∀ s : ℤ, |is.foldl (fun s i => s + shFftFrameSample x i) s| ≤ |s| + 32768 * is.length := by
    induction is with
    | nil => intro s; simp
    | cons i is ih =>
      intro s
      have hi : |shFftFrameSample x i| ≤ 32768 := abs_le.mpr (by have := abs_frameSample_le hx i; omega)
      have htri := abs_add_le s (shFftFrameSample x i)
      have := ih (s + shFftFrameSample x i)
      rw [List.foldl_cons, List.length_cons]
      push_cast
      linarith
  have hle := hsum (List.range fftN) 0
  rw [frameMean]
  have hdiv := abs_tdiv_mul_le ((List.range fftN).foldl (fun s i => s + shFftFrameSample x i) 0) (d := 64) (by norm_num)
  rw [List.length_range, abs_zero, fftN] at hle
  rw [fftN] at hdiv ⊢
  push_cast at hle hdiv ⊢
  linarith

theorem deviation_le_framePeak {x : List ℤ} {mean : ℤ} (h : ∀ i < 64, |shFftFrameSample x i - mean| ≤ 32768)
    {i : ℕ} (hi : i < 64) : (shFftFrameSample x i - mean).natAbs ≤ framePeak x mean := by
  have hscan : ∀ m, ∀ j ∈ List.range fftN,
      let v := (shFftFrameSample x j - mean).natAbs
      m ≤ (if v > m then u16 v else m) ∧ v ≤ if v > m then u16 v else m := by
    intro m j hj
    have hdev := h j (List.mem_range.mp hj)
    rw [Int.abs_eq_natAbs] at hdev
    have := u16_of_lt (n := (shFftFrameSample x j - mean).natAbs) (by omega)
    dsimp only
    split_ifs <;> omega
  exact (le_foldl_of_le hscan 0).2 i (List.mem_range.mpr hi)

end Prescale

section Window

theorem hann_range : ∀ i < 64, 0 ≤ hann i ∧ hann i ≤ 32767 := by
  decide

def hannSpread : ℕ → ℕ → ℕ
  | 0, g => (hann (rev6 g)).toNat
  | s + 1, g => hannSpread s (2 * g) / 2 + hannSpread s (2 * g + 1) + 2

theorem hannSpread_odd : ∀ s < 6, ∀ g < 32, 2 * g + 1 < 64 / 2 ^ s → hannSpread s (2 * g + 1) < 2 ^ 17 := by
  decide

theorem hannSpread_le : ∀ s ≤ 6, ∀ g < 64 / 2 ^ s, hannSpread s g ≤ 165500 := by
  decide

theorem spread_le_hannSpread (s g : ℕ) : spread (fun j => (hann (rev6 j) : ℝ)) s g ≤ hannSpread s g := by
  induction s generalizing g with
  | zero =>
    rw [spread, hannSpread]
    exact_mod_cast Int.self_le_toNat (hann (rev6 g))
  | succ s ih =>
    have hrest : (if g = 0 then (1 : ℝ) else 0) ≤ 1 := by split_ifs <;> norm_num
    have hhalf : (hannSpread s (2 * g) : ℝ) / 2 ≤ (hannSpread s (2 * g) / 2 : ℕ) + 1 := by
      have : hannSpread s (2 * g) ≤ 2 * (hannSpread s (2 * g) / 2 + 1) := by omega
      have hcast : (hannSpread s (2 * g) : ℝ) ≤ 2 * ((hannSpread s (2 * g) / 2 : ℕ) + 1) := by exact_mod_cast this
      linarith
    rw [spread_succ, hannSpread]
    push_cast
    linarith [ih (2 * g), ih (2 * g + 1)]

theorem abs_windowed_le {v : ℤ} {p i : ℕ} (hi : i < 64) (hv : |v| * 2 ^ p ≤ 32768) :
    |(v * hann i).tdiv 32768 * 2 ^ p| ≤ hann i := by
  have hdiv := abs_tdiv_mul_le (v * hann i) (d := 32768) (by norm_num)
  have hpos : (0 : ℤ) < 2 ^ p := by positivity
  obtain ⟨h0, -⟩ := hann_range i hi
  rw [abs_mul, abs_of_nonneg h0] at hdiv
  rw [abs_mul, abs_of_pos hpos]
  have hscaled := mul_le_mul_of_nonneg_right hdiv hpos.le
  have hfit := mul_le_mul_of_nonneg_right hv h0
  nlinarith

end Window

section Spectrum

variable {x : List ℤ}

theorem frameSample_of_not_fromChunk {i : ℕ} (hi : i < 64) (h : ¬FromChunk x i) : shFftFrameSample x i = 0 := by
  rw [FromChunk, fftN] at h
  rw [shFftFrameSample, fftN, if_neg (by omega), if_neg (by omega)]

theorem abs_deviation_le (hx : ∀ v ∈ x, -32768 ≤ v ∧ v ≤ 32767)
    (hmean : ∀ i, FromChunk x i → |shFftFrameSample x i - frameMean x| ≤ 2 ^ 14) {i : ℕ} (hi : i < 64) :
    |shFftFrameSample x i - frameMean x| ≤ 32768 := by
  by_cases hchunk : FromChunk x i
  · exact (hmean i hchunk).trans (by norm_num)
  · rw [frameSample_of_not_fromChunk hi hchunk, zero_sub, abs_neg]
    exact abs_frameMean_le hx

theorem shifted_deviation_le (hx : ∀ v ∈ x, -32768 ≤ v ∧ v ≤ 32767)
    (hmean : ∀ i, FromChunk x i → |shFftFrameSample x i - frameMean x| ≤ 2 ^ 14) {i : ℕ} (hi : i < 64) {b : ℤ}
    (hb : 2 ^ 14 ≤ b) (hdev : |shFftFrameSample x i - frameMean x| ≤ b) :
    |shFftFrameSample x i - frameMean x| * 2 ^ prescaleLoop (framePeak x (frameMean x)) 12 0 ≤ b := by
  obtain ⟨-, hfit, -⟩ := prescaleLoop_spec (framePeak x (frameMean x)) 12 0 (by norm_num) (Or.inl rfl)
  rcases hfit with h0 | hfit
  · rw [h0, pow_zero, mul_one]
    exact hdev
  · have hpeak : (shFftFrameSample x i - frameMean x).natAbs ≤ framePeak x (frameMean x) :=
      deviation_le_framePeak (fun _ hj => abs_deviation_le hx hmean hj) hi
    have hscaled := Nat.mul_le_mul_right (2 ^ prescaleLoop (framePeak x (frameMean x)) 12 0) hpeak
    have hle : |shFftFrameSample x i - frameMean x| * 2 ^ prescaleLoop (framePeak x (frameMean x)) 12 0 ≤ 16384 := by
      rw [Int.abs_eq_natAbs]
      exact_mod_cast hscaled.trans hfit
    exact hle.trans ((by norm_num : (16384 : ℤ) ≤ 2 ^ 14).trans hb)

theorem full_spectrumFrame : Full (spectrumFrame x) where
  re := by simp [spectrumFrame, windowed]
  im := by simp [spectrumFrame]

theorem norm_spectrumFrame_le (hx : ∀ v ∈ x, -32768 ≤ v ∧ v ≤ 32767)
    (hmean : ∀ i, FromChunk x i → |shFftFrameSample x i - frameMean x| ≤ 2 ^ 14) :
    ∀ n < 64, ‖toC (cell (spectrumFrame x) n)‖ ≤ (hann n : ℝ) := by
  intro n hn
  have hcell : cell (spectrumFrame x) n = (((shFftFrameSample x n - frameMean x) * hann n).tdiv 32768 *
      2 ^ prescaleLoop (framePeak x (frameMean x)) 12 0, 0) := by
    have him : (List.replicate fftN (0 : ℤ)).getD n 0 = 0 := List.getD_replicate 0 hn
    rw [cell, spectrumFrame, him]
    simp [windowed, hann, List.getD_eq_getElem?_getD, hn]
  have hle := abs_windowed_le hn (shifted_deviation_le hx hmean hn (by norm_num) (abs_deviation_le hx hmean hn))
  have hmass := norm_toC_le (cell (spectrumFrame x) n)
  rw [hcell] at hmass ⊢
  rw [mass, Int.natAbs_zero, Nat.add_zero, Nat.cast_natAbs] at hmass
  exact hmass.trans (by exact_mod_cast hle)

theorem near_spectrumFrame (hx : ∀ v ∈ x, -32768 ≤ v ∧ v ≤ 32767)
    (hmean : ∀ i, FromChunk x i → |shFftFrameSample x i - frameMean x| ≤ 2 ^ 14) :
    Near 0 0 (spread (fun j => (hann (rev6 j) : ℝ)) 0) (bitReverse (spectrumFrame x)) :=
  near_zero (b := fun n => (hann n : ℝ)) full_spectrumFrame (norm_spectrumFrame_le hx hmean)

theorem norm_stageCell_le (hx : ∀ v ∈ x, -32768 ≤ v ∧ v ≤ 32767)
    (hmean : ∀ i, FromChunk x i → |shFftFrameSample x i - frameMean x| ≤ 2 ^ 14) {s j : ℕ} (hs : s ≤ 6) (hj : j < 64) :
    ‖toC (cell (afterStages (spectrumFrame x) s) j)‖ ≤ 165500 := by
  have hpow : 2 ^ s ∣ 64 := Nat.pow_dvd_pow 2 hs
  have hblock : j / 2 ^ s < 64 / 2 ^ s := Nat.div_lt_div_of_lt_of_dvd hpow hj
  have hnear := near_afterStages full_spectrumFrame (near_spectrumFrame hx hmean) hs _ hblock (j % 2 ^ s)
    (Nat.mod_lt _ (Nat.two_pow_pos s))
  rw [zero_div, ite_self, sub_zero, Nat.mul_comm, Nat.div_add_mod] at hnear
  have hle : (hannSpread s (j / 2 ^ s) : ℝ) ≤ 165500 := by exact_mod_cast hannSpread_le s hs _ hblock
  exact hnear.trans ((spread_le_hannSpread _ _).trans hle)

theorem exactPower_le {a : Frame} {k : ℕ} {b : ℤ} (h : ‖toC (cell a k)‖ ≤ b) : 64 * exactPower a k ≤ b * b := by
  have hpart (n : ℤ) : 64 * (n.tdiv 8 * n.tdiv 8) ≤ n * n := by
    have := abs_tdiv_mul_le n (d := 8) (by norm_num)
    have hsq := mul_self_le_mul_self (by positivity) this
    rw [abs_mul_abs_self] at hsq
    have habs := abs_mul_abs_self (n.tdiv 8)
    nlinarith
  have hsq : (cell a k).1 * (cell a k).1 + (cell a k).2 * (cell a k).2 ≤ b * b := by
    have hnorm := mul_self_le_mul_self (norm_nonneg _) h
    rw [← sq, Complex.sq_norm, Complex.normSq_apply] at hnorm
    simp only [toC] at hnorm
    exact_mod_cast hnorm
  have hre := hpart (a.1.getD k 0)
  have him := hpart (a.2.getD k 0)
  rw [exactPower]
  simp only [cell] at hsq
  linarith

theorem exactPower_nonneg (a : Frame) (k : ℕ) : 0 ≤ exactPower a k :=
  add_nonneg (mul_self_nonneg _) (mul_self_nonneg _)

theorem binPower_eq {a : Frame} {k : ℕ} (h : exactPower a k < 2 ^ 31) : (binPower a k : ℤ) = exactPower a k := by
  have h0 := exactPower_nonneg a k
  rw [binPower, u32OfInt]
  rw [exactPower] at h h0 ⊢
  rw [Int.emod_eq_of_lt h0 (by omega), Int.toNat_of_nonneg h0]

theorem sumP_foldl (a : Frame) (ks : List ℕ) (c : BinScan) (hc : c.sumP < 4294967296) :
    (ks.foldl (fun (c : BinScan) k =>
      let p := binPower a k
      if p > c.bestP then ⟨k, p, u32 (c.sumP + p)⟩ else { c with sumP := u32 (c.sumP + p) }) c).sumP =
        u32 (c.sumP + (ks.map (binPower a)).sum) := by
  induction ks generalizing c with
  | nil => exact (Nat.mod_eq_of_lt hc).symm
  | cons k ks ih =>
    rw [List.foldl_cons, List.map_cons, List.sum_cons, ← Nat.add_assoc]
    dsimp only
    split_ifs
    · rw [ih _ (Nat.mod_lt _ (by norm_num)), u32, u32, u32, Nat.mod_add_mod]
    · rw [ih _ (Nat.mod_lt _ (by norm_num)), u32, u32, u32, Nat.mod_add_mod]

theorem lt_of_mem_band {k : ℕ} (hk : k ∈ Finset.Icc kLo kHi) : k < 64 := by
  have := Finset.mem_Icc.mp hk
  simp only [kHi, hrBpmMax, fftN, fsHz] at this
  omega

theorem binScan_sumP {a : Frame} {b : ℕ} (h : ∀ k < 64, binPower a k ≤ b) (hb : 6 * b < 4294967296) :
    (binScan a).sumP = ∑ k ∈ Finset.Icc kLo kHi, binPower a k := by
  have hsum : ((List.range' kLo (kHi + 1 - kLo)).map (binPower a)).sum = ∑ k ∈ Finset.Icc kLo kHi, binPower a k := rfl
  have hle : ∑ k ∈ Finset.Icc kLo kHi, binPower a k ≤ 6 * b := by
    apply Finset.sum_le_card_nsmul
    intro k hk
    exact h k (lt_of_mem_band hk)
  rw [binScan, sumP_foldl a _ _ (by norm_num), hsum, Nat.zero_add, u32, Nat.mod_eq_of_lt (by omega)]

end Spectrum

/-- What is left of 32 bits. -/
theorem fft_headroom (x : List ℤ) (hx : ∀ v ∈ x, -32768 ≤ v ∧ v ≤ 32767)
    (hmean : ∀ i, FromChunk x i → |shFftFrameSample x i - frameMean x| ≤ 2 ^ 14) :
    let peak := framePeak x (frameMean x)
    let p := prescaleLoop peak 12 0
    let out := shFftRadix2 (spectrumFrame x)
    (p ≤ 12 ∧ ¬(p < 12 ∧ peak * 2 ^ (p + 1) ≤ 2 ^ 14)) ∧
      (∀ i, FromChunk x i → |shFftFrameSample x i - frameMean x| * 2 ^ p ≤ 2 ^ 14) ∧
      (peak ≤ 2 ^ 14 → peak * 2 ^ p ≤ 2 ^ 14) ∧
      (∀ i < 64, |(shFftFrameSample x i - frameMean x) * hann i| < 2 ^ 31) ∧
      ProductsFit (spectrumFrame x) ∧ CellsFit (spectrumFrame x) ∧
      (∀ k < 64, exactPower out k < 2 ^ 31 ∧ (binPower out k : ℤ) = exactPower out k) ∧
      ∑ k ∈ Finset.Icc kLo kHi, exactPower out k < 2 ^ 32 ∧
      ((binScan out).sumP : ℤ) = ∑ k ∈ Finset.Icc kLo kHi, exactPower out k := by
  intro peak p out
  have hstage (s : ℕ) (hs : s ≤ 6) (j : ℕ) (hj : j < 64) := norm_stageCell_le hx hmean hs hj
  have hpower : ∀ k < 64, exactPower out k ≤ 427972657 := by
    intro k hk
    have hnorm := hstage 6 le_rfl k hk
    rw [← shFftRadix2_eq] at hnorm
    have hle : 64 * exactPower out k ≤ 165500 * 165500 := exactPower_le (by exact_mod_cast hnorm)
    omega
  have hexact : ∀ k < 64, exactPower out k < 2 ^ 31 ∧ (binPower out k : ℤ) = exactPower out k := by
    intro k hk
    have hlt : exactPower out k < 2 ^ 31 := by
      have := hpower k hk
      omega
    exact ⟨hlt, binPower_eq hlt⟩
  obtain ⟨hend, hfit, hstop⟩ := prescaleLoop_spec peak 12 0 (by norm_num) (Or.inl rfl)
  refine ⟨⟨hend, hstop⟩, ?_, ?_, ?_, ?_, ?_, hexact, ?_, ?_⟩
  · intro i hi
    exact shifted_deviation_le hx hmean hi.1 le_rfl (hmean i hi)
  · intro hpeak
    rcases hfit with h0 | hfit
    · change p = 0 at h0
      rw [h0, pow_zero, mul_one]
      exact hpeak
    · exact hfit
  · intro i hi
    obtain ⟨h0, h1⟩ := hann_range i hi
    rw [abs_mul, abs_of_nonneg h0]
    have := mul_le_mul (abs_deviation_le hx hmean hi) h1 h0 (by norm_num)
    omega
  · apply productsFit_of_spread full_spectrumFrame (near_spectrumFrame hx hmean)
    intro s hs g hg
    have hlt : (hannSpread s (2 * g + 1) : ℝ) < 2 ^ 17 := by
      have hg' : 64 / 2 ^ s ≤ 64 := Nat.div_le_self _ _
      exact_mod_cast hannSpread_odd s hs g (by omega) hg
    exact (spread_le_hannSpread _ _).trans_lt hlt
  · intro s hs j hj
    have hnorm := hstage s hs j hj
    have hre : |((cell (afterStages (spectrumFrame x) s) j).1 : ℝ)| ≤ 165500 := (Complex.abs_re_le_norm _).trans hnorm
    have him : |((cell (afterStages (spectrumFrame x) s) j).2 : ℝ)| ≤ 165500 := (Complex.abs_im_le_norm _).trans hnorm
    have hre' : |(cell (afterStages (spectrumFrame x) s) j).1| ≤ 165500 := by exact_mod_cast hre
    have him' : |(cell (afterStages (spectrumFrame x) s) j).2| ≤ 165500 := by exact_mod_cast him
    constructor <;> omega
  · have hle := Finset.sum_le_card_nsmul (Finset.Icc kLo kHi) (exactPower out) 427972657
      (fun k hk => hpower k (lt_of_mem_band hk))
    rw [show (Finset.Icc kLo kHi).card = 6 from rfl] at hle
    norm_num at hle ⊢
    omega
  · have hsum := binScan_sumP (a := out) (b := 427972657) (fun k hk => by
      have := hpower k hk
      have := (hexact k hk).2
      omega) (by norm_num)
    rw [hsum, Nat.cast_sum]
    apply Finset.sum_congr rfl
    intro k hk
    exact (hexact k (lt_of_mem_band hk)).2

theorem fft_headroom_padded :
    (∀ i, FromChunk (List.replicate 63 32767) i →
      |shFftFrameSample (List.replicate 63 32767) i - frameMean (List.replicate 63 32767)| ≤ 2 ^ 14) ∧
      ProductsFit (spectrumFrame (List.replicate 63 32767)) ∧ CellsFit (spectrumFrame (List.replicate 63 32767)) := by
  have hchunk : ∀ i < 64, i < 63 →
      |shFftFrameSample (List.replicate 63 32767) i - frameMean (List.replicate 63 32767)| ≤ 2 ^ 14 := by
    decide +kernel
  have hmean : ∀ i, FromChunk (List.replicate 63 32767) i →
      |shFftFrameSample (List.replicate 63 32767) i - frameMean (List.replicate 63 32767)| ≤ 2 ^ 14 :=
    fun i hi => hchunk i hi.1 (by simpa using hi.2)
  have h := fft_headroom (List.replicate 63 32767) (by decide) hmean
  exact ⟨hmean, h.2.2.2.2.1, h.2.2.2.2.2.1⟩

end SmartHelmet.Vitals
