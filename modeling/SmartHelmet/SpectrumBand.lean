import SmartHelmet.CancellerRange
import SmartHelmet.FftHeadroom

namespace SmartHelmet.Vitals

open Config MachineArith

def bandScan (x : List ℤ) : BinScan := binScan (shFftRadix2 (spectrumFrame x))

def newBin (x : List ℤ) : ℕ := interpolatedK (shFftRadix2 (spectrumFrame x)) (bandScan x)

def PassesSnr (x : List ℤ) : Prop :=
  fftN / 2 ≤ x.length ∧ framePeak x (frameMean x) ≠ 0 ∧ (bandScan x).bestK ≠ 0 ∧
    u32 ((bandScan x).sumP / (kHi + 1 - kLo) * hrFftSnrQ8) / 256 ≤ (bandScan x).bestP

instance (x : List ℤ) : Decidable (PassesSnr x) := inferInstanceAs (Decidable (_ ∧ _))

inductive SpectrumCall where
  | frame (fsQ8 : ℕ) (x : List ℤ)
  | reset

def spectrumStep (f : FftSmooth) : SpectrumCall → FftSmooth
  | .frame fsQ8 x => (shFftBpm f fsQ8 x).1
  | .reset => shFftSmoothReset

def InBand (f : FftSmooth) : Prop := f.valid = true → 512 ≤ f.kQ8 ∧ f.kQ8 ≤ 1792

structure ParabolaFits (a b c : ℕ) : Prop where
  scaled : (shFitScale3 a b c).1 ≤ (shFitScale3 a b c).2.1 ∧ (shFitScale3 a b c).2.2 ≤ (shFitScale3 a b c).2.1 ∧
    (shFitScale3 a b c).2.1 ≤ 0x000fffff
  denom : FitsI32 (2 * (shFitScale3 a b c).2.1) ∧ FitsI32 ((shFitScale3 a b c).1 - 2 * (shFitScale3 a b c).2.1) ∧
    FitsI32 ((shFitScale3 a b c).1 - 2 * (shFitScale3 a b c).2.1 + (shFitScale3 a b c).2.2)
  num : FitsI32 (((shFitScale3 a b c).1 - (shFitScale3 a b c).2.2) * 128)

def offsetQ8 (a b c : ℕ) : ℤ :=
  shParabolicDeltaQ8 (shFitScale3 a b c).1 (shFitScale3 a b c).2.1 (shFitScale3 a b c).2.2

/-- The offset is that of the vertex through the three values shifted by `n` places, the fewest
that leave 20 bits of the middle one. -/
structure VertexOffset (a b c n : ℕ) : Prop where
  fits : b / 2 ^ n ≤ 0x000fffff
  fewest : ∀ j < n, 0x000fffff < b / 2 ^ j
  value : offsetQ8 a b c = (((c / 2 ^ n : ℕ) - (a / 2 ^ n : ℕ) : ℤ) * 128).tdiv
    (2 * (b / 2 ^ n : ℕ) - (a / 2 ^ n : ℕ) - (c / 2 ^ n : ℕ))
  right : 0 < offsetQ8 a b c ↔ a / 2 ^ n < c / 2 ^ n ∧
    (2 * (b / 2 ^ n : ℕ) - (a / 2 ^ n : ℕ) - (c / 2 ^ n : ℕ) : ℤ) ≤ ((c / 2 ^ n : ℕ) - (a / 2 ^ n : ℕ)) * 128
  left : offsetQ8 a b c < 0 ↔ c / 2 ^ n < a / 2 ^ n ∧
    (2 * (b / 2 ^ n : ℕ) - (a / 2 ^ n : ℕ) - (c / 2 ^ n : ℕ) : ℤ) ≤ ((a / 2 ^ n : ℕ) - (c / 2 ^ n : ℕ)) * 128

section Parabola

theorem fitScale_eq (fuel a b c m : ℕ) : ∃ n ≤ fuel,
    fitScale fuel a b c m = (a / 2 ^ n, b / 2 ^ n, c / 2 ^ n) ∧ (n = fuel ∨ m / 2 ^ n ≤ 0x000fffff) ∧
      ∀ j < n, 0x000fffff < m / 2 ^ j := by
  induction fuel generalizing a b c m with
  | zero => exact ⟨0, le_rfl, by simp [fitScale], Or.inl rfl, fun j hj => absurd hj (Nat.not_lt_zero j)⟩
  | succ fuel ih =>
    rw [fitScale]
    split_ifs with hm
    · obtain ⟨n, hn, heq, hend, hfewest⟩ := ih (a / 2) (b / 2) (c / 2) (m / 2)
      have hdiv (v j : ℕ) : v / 2 / 2 ^ j = v / 2 ^ (j + 1) := by rw [Nat.div_div_eq_div_mul, pow_succ']
      refine ⟨n + 1, by omega, ?_, ?_, ?_⟩
      · rw [heq, hdiv, hdiv, hdiv]
      · rw [← hdiv]
        exact hend.imp_left (congrArg (· + 1))
      · intro j hj
        cases j with
        | zero => simpa using hm
        | succ j =>
          rw [← hdiv]
          exact hfewest j (Nat.lt_of_succ_lt_succ hj)
    · exact ⟨0, by omega, by simp, Or.inr (by simpa using hm), fun j hj => absurd hj (Nat.not_lt_zero j)⟩

theorem shFitScale3_spec {a b c : ℕ} (hb : b < 2 ^ 32) (ha : a ≤ b) (hc : c ≤ b) : ∃ n ≤ 12,
    shFitScale3 a b c = (a / 2 ^ n, b / 2 ^ n, c / 2 ^ n) ∧ b / 2 ^ n ≤ 0x000fffff ∧
      ∀ j < n, 0x000fffff < b / 2 ^ j := by
  obtain ⟨n, hn, heq, hend, hfewest⟩ := fitScale_eq 12 a b c (max (max a b) c)
  rw [max_eq_right ha, max_eq_left hc] at heq hend hfewest
  rw [shFitScale3, max_eq_right ha, max_eq_left hc]
  refine ⟨n, hn, heq, ?_, hfewest⟩
  rcases hend with rfl | hend
  · omega
  · exact hend

theorem parabolaFits {a b c : ℕ} (hb : b < 2 ^ 32) (ha : a ≤ b) (hc : c ≤ b) : ParabolaFits a b c := by
  obtain ⟨n, -, heq, hle, -⟩ := shFitScale3_spec hb ha hc
  have hab : a / 2 ^ n ≤ b / 2 ^ n := Nat.div_le_div_right ha
  have hcb : c / 2 ^ n ≤ b / 2 ^ n := Nat.div_le_div_right hc
  constructor
  · rw [heq]
    exact ⟨hab, hcb, hle⟩
  all_goals
    rw [heq]
    dsimp only
    generalize a / 2 ^ n = a at *
    generalize b / 2 ^ n = b at *
    generalize c / 2 ^ n = c at *
    simp only [FitsI32]
    omega

theorem abs_shParabolicDeltaQ8_le (a b c : ℤ) : |shParabolicDeltaQ8 a b c| ≤ 128 := by
  rw [shParabolicDeltaQ8]
  dsimp only
  split_ifs
  all_goals
    rw [abs_le]
    omega

theorem shParabolicDeltaQ8_eq {a b c : ℤ} (ha : a ≤ b) (hc : c ≤ b) :
    shParabolicDeltaQ8 a b c = ((c - a) * 128).tdiv (2 * b - a - c) := by
  rw [shParabolicDeltaQ8]
  dsimp only
  by_cases hdenom : a - 2 * b + c ≥ 0
  · have hflat : c - a = 0 := by omega
    rw [if_pos hdenom, hflat, zero_mul, Int.zero_tdiv]
  · have hpos : 0 < 2 * b - a - c := by omega
    have hsame : ((a - c) * 128).tdiv (a - 2 * b + c) = ((c - a) * 128).tdiv (2 * b - a - c) := by
      rw [show a - 2 * b + c = -(2 * b - a - c) by ring, Int.tdiv_neg, ← Int.neg_tdiv]
      congr 1
      ring
    have hhigh : ((c - a) * 128).tdiv (2 * b - a - c) ≤ 128 := by
      apply (Int.tdiv_le_tdiv hpos (show (c - a) * 128 ≤ 128 * (2 * b - a - c) by omega)).trans
      rw [Int.mul_tdiv_cancel _ hpos.ne']
    have hlow : -128 ≤ ((c - a) * 128).tdiv (2 * b - a - c) := by
      refine le_trans ?_ (Int.tdiv_le_tdiv hpos (show -128 * (2 * b - a - c) ≤ (c - a) * 128 by omega))
      rw [Int.mul_tdiv_cancel _ hpos.ne']
    rw [if_neg hdenom, hsame, if_neg (not_lt.mpr hhigh), if_neg (not_lt.mpr hlow)]

theorem tdiv_pos_iff {n d : ℤ} (hd : 0 ≤ d) : 0 < n.tdiv d ↔ 0 < n ∧ 0 < d ∧ d ≤ n := by
  rcases hd.eq_or_lt with rfl | hd
  · simp
  · rcases le_or_gt n 0 with hn | hn
    · have hle : n.tdiv d ≤ 0 := by
        rw [← Int.neg_neg n, Int.neg_tdiv]
        exact Int.neg_nonpos_of_nonneg (Int.tdiv_nonneg (by omega) hd.le)
      exact iff_of_false (not_lt.mpr hle) fun h => absurd h.1 (not_lt.mpr hn)
    · rw [Int.tdiv_eq_ediv_of_nonneg hn.le, Int.lt_iff_add_one_le, zero_add, Int.le_ediv_iff_mul_le hd, one_mul]
      exact ⟨fun h => ⟨hn, hd, h⟩, fun h => h.2.2⟩

theorem abs_offsetQ8_le (a b c : ℕ) : |offsetQ8 a b c| ≤ 128 := abs_shParabolicDeltaQ8_le _ _ _

theorem vertexOffset {a b c : ℕ} (hb : b < 2 ^ 32) (ha : a ≤ b) (hc : c ≤ b) : ∃ n ≤ 12, VertexOffset a b c n := by
  obtain ⟨n, hn, heq, hfits, hfewest⟩ := shFitScale3_spec hb ha hc
  have hab : a / 2 ^ n ≤ b / 2 ^ n := Nat.div_le_div_right ha
  have hcb : c / 2 ^ n ≤ b / 2 ^ n := Nat.div_le_div_right hc
  have hvalue : offsetQ8 a b c = (((c / 2 ^ n : ℕ) - (a / 2 ^ n : ℕ) : ℤ) * 128).tdiv
      (2 * (b / 2 ^ n : ℕ) - (a / 2 ^ n : ℕ) - (c / 2 ^ n : ℕ)) := by
    rw [offsetQ8, heq]
    exact shParabolicDeltaQ8_eq (Int.ofNat_le.mpr hab) (Int.ofNat_le.mpr hcb)
  refine ⟨n, hn, hfits, hfewest, hvalue, ?_, ?_⟩
  · rw [hvalue, tdiv_pos_iff (by omega)]
    omega
  · rw [hvalue, ← neg_pos, ← Int.neg_tdiv, tdiv_pos_iff (by omega)]
    omega

theorem offsetQ8_sign {a b c : ℕ} (hb : b < 2 ^ 32) (ha : a ≤ b) (hc : c ≤ b) :
    (0 < offsetQ8 a b c → a < c) ∧ (offsetQ8 a b c < 0 → c < a) := by
  obtain ⟨n, -, hvertex⟩ := vertexOffset hb ha hc
  have hlt {v w : ℕ} (h : v / 2 ^ n < w / 2 ^ n) : v < w := by
    by_contra hge
    exact absurd h (not_lt.mpr (Nat.div_le_div_right (not_lt.mp hge)))
  exact ⟨fun h => hlt (hvertex.right.mp h).1, fun h => hlt (hvertex.left.mp h).1⟩

end Parabola

section Scan

variable (a : Frame)

theorem foldl_binScan (ks : List ℕ) (c : BinScan) :
    let r := ks.foldl (fun (c : BinScan) k =>
      let p := binPower a k
      if p > c.bestP then ⟨k, p, u32 (c.sumP + p)⟩ else { c with sumP := u32 (c.sumP + p) }) c
    c.bestP ≤ r.bestP ∧ (∀ k ∈ ks, binPower a k ≤ r.bestP) ∧
      (r.bestK = c.bestK ∧ r.bestP = c.bestP ∨ r.bestK ∈ ks ∧ r.bestP = binPower a r.bestK) := by
  induction ks generalizing c with
  | nil => exact ⟨le_rfl, by rintro k ⟨⟩, Or.inl ⟨rfl, rfl⟩⟩
  | cons k ks ih =>
    dsimp only at ih ⊢
    rw [List.foldl_cons]
    split_ifs with hp
    · obtain ⟨hstart, hrest, hwhere⟩ := ih ⟨k, binPower a k, u32 (c.sumP + binPower a k)⟩
      refine ⟨hp.le.trans hstart, List.forall_mem_cons.mpr ⟨hstart, hrest⟩, Or.inr ?_⟩
      rcases hwhere with ⟨hk, hbest⟩ | ⟨hk, hbest⟩
      · rw [hk, hbest]
        exact ⟨List.mem_cons_self, rfl⟩
      · exact ⟨List.mem_cons_of_mem k hk, hbest⟩
    · obtain ⟨hstart, hrest, hwhere⟩ := ih { c with sumP := u32 (c.sumP + binPower a k) }
      refine ⟨hstart, List.forall_mem_cons.mpr ⟨(not_lt.mp hp).trans hstart, hrest⟩, ?_⟩
      exact hwhere.imp_right (And.imp_left (List.mem_cons_of_mem k))

theorem binScan_best (h : (binScan a).bestK ≠ 0) :
    (2 ≤ (binScan a).bestK ∧ (binScan a).bestK ≤ 7) ∧ (binScan a).bestP = binPower a (binScan a).bestK ∧
      ∀ k, 2 ≤ k → k ≤ 7 → binPower a k ≤ (binScan a).bestP := by
  obtain ⟨-, hall, hwhere⟩ := foldl_binScan a (List.range' kLo (kHi + 1 - kLo)) ⟨0, 0, 0⟩
  rcases hwhere with ⟨h0, -⟩ | ⟨hmem, hbest⟩
  · exact absurd h0 h
  · obtain ⟨hlo, hhi⟩ := List.mem_range'_1.mp hmem
    refine ⟨⟨hlo, Nat.le_of_lt_succ hhi⟩, hbest, ?_⟩
    intro k hk hk'
    exact hall k (List.mem_range'_1.mpr ⟨hk, Nat.lt_succ_of_le hk'⟩)

end Scan

section Smoothing

theorem interpolatedK_eq {a : Frame} (h : (binScan a).bestK ≠ 0) :
    (interpolatedK a (binScan a) : ℤ) = (binScan a).bestK * 256 +
      if 2 < (binScan a).bestK ∧ (binScan a).bestK < 7 then
        offsetQ8 (binPower a ((binScan a).bestK - 1)) (binScan a).bestP (binPower a ((binScan a).bestK + 1)) else 0 := by
  obtain ⟨hband, -, -⟩ := binScan_best a h
  have hwhole : u16 ((binScan a).bestK * 256) = (binScan a).bestK * 256 := u16_of_lt (by omega)
  have hinner : (kLo < (binScan a).bestK ∧ (binScan a).bestK < kHi ∧ (binScan a).bestK + 1 < fftN / 2) =
      (2 < (binScan a).bestK ∧ (binScan a).bestK < 7) := by
    simp only [kLo, kHi, hrBpmMin, hrBpmMax, fftN, fsHz, eq_iff_iff]
    omega
  rw [interpolatedK]
  simp only [hinner, hwhole]
  split_ifs with hin
  · have hle := abs_le.mp (abs_offsetQ8_le (binPower a ((binScan a).bestK - 1)) (binScan a).bestP
      (binPower a ((binScan a).bestK + 1)))
    change (u16OfInt (((binScan a).bestK * 256 : ℕ) + offsetQ8 _ _ _) : ℤ) = _
    rw [u16OfInt_of_lt (by omega) (by omega), Nat.cast_mul]
    rfl
  · rw [add_zero]
    push_cast
    rfl

theorem newBin_range {x : List ℤ} (h : (bandScan x).bestK ≠ 0) : 512 ≤ newBin x ∧ newBin x ≤ 1792 := by
  obtain ⟨hband, -, -⟩ := binScan_best _ h
  have heq := interpolatedK_eq h
  change (newBin x : ℤ) = _ at heq
  split_ifs at heq with hin
  · have hle := abs_le.mp (abs_offsetQ8_le
      (binPower (shFftRadix2 (spectrumFrame x)) ((binScan (shFftRadix2 (spectrumFrame x))).bestK - 1))
      (binScan (shFftRadix2 (spectrumFrame x))).bestP
      (binPower (shFftRadix2 (spectrumFrame x)) ((binScan (shFftRadix2 (spectrumFrame x))).bestK + 1)))
    omega
  · omega

theorem smoothK_between {f : FftSmooth} {k : ℕ} (hf : f.kQ8 ≤ 1792) (hk : k ≤ 1792) (hvalid : f.valid = true) :
    min f.kQ8 k ≤ (smoothK f k).kQ8 ∧ (smoothK f k).kQ8 ≤ max f.kQ8 k := by
  have hmean (w : ℕ) (hw : w ≤ 256) :
      let m := u16 (u32 (f.kQ8 * (256 - w) + k * w) / 256)
      min f.kQ8 k ≤ m ∧ m ≤ max f.kQ8 k := by
    have hsplit (v : ℕ) : v * 256 = v * (256 - w) + v * w := by rw [← Nat.mul_add, Nat.sub_add_cancel hw]
    have hlow : min f.kQ8 k * 256 ≤ f.kQ8 * (256 - w) + k * w := by
      rw [hsplit]
      exact Nat.add_le_add (Nat.mul_le_mul_right _ (min_le_left _ _)) (Nat.mul_le_mul_right _ (min_le_right _ _))
    have hhigh : f.kQ8 * (256 - w) + k * w ≤ max f.kQ8 k * 256 := by
      rw [hsplit]
      exact Nat.add_le_add (Nat.mul_le_mul_right _ (le_max_left _ _)) (Nat.mul_le_mul_right _ (le_max_right _ _))
    generalize f.kQ8 * (256 - w) + k * w = n at hlow hhigh
    simp only [u16, u32]
    omega
  rw [smoothK, if_pos hvalid]
  dsimp only
  split_ifs
  · exact hmean (max (hrFftSmoothAlphaQ8 / 2) 16) (by simp)
  · exact hmean hrFftSmoothAlphaQ8 (by simp)
  · exact hmean (max (hrFftSmoothAlphaQ8 / 2) 16) (by simp)
  · exact hmean hrFftSmoothAlphaQ8 (by simp)

theorem valid_smoothK (f : FftSmooth) (k : ℕ) : (smoothK f k).valid = true := by
  rw [smoothK]
  split_ifs <;> rfl

theorem smoothK_of_invalid {f : FftSmooth} (h : f.valid = false) (k : ℕ) : (smoothK f k).kQ8 = k := by
  rw [smoothK, if_neg (by simp [h])]

end Smoothing

section Calls

variable (f : FftSmooth) (fsQ8 : ℕ) {x : List ℤ}

theorem shFftBpm_of_not_passesSnr (h : ¬PassesSnr x) : shFftBpm f fsQ8 x = (f, 0, 0) := by
  rw [PassesSnr, bandScan, spectrumFrame] at h
  rw [shFftBpm]
  dsimp only
  split_ifs with h1 h2 h3 h4
  all_goals first | rfl | exact absurd ⟨not_lt.mp h1, h2, h3, not_lt.mp h4⟩ h

theorem shFftBpm_of_passesSnr (h : PassesSnr x) :
    (shFftBpm f fsQ8 x).1 = smoothK f (newBin x) ∧
      (shFftBpm f fsQ8 x).2.1 = bpmInBand (shBinQ8ToBpm fsQ8 (max (smoothK f (newBin x)).kQ8 256)) := by
  rw [PassesSnr, bandScan, spectrumFrame] at h
  obtain ⟨h1, h2, h3, h4⟩ := h
  rw [newBin, bandScan, spectrumFrame, shFftBpm, if_neg (not_lt.mpr h1)]
  dsimp only
  rw [if_neg h2, if_neg h3, if_neg (not_lt.mpr h4)]
  exact ⟨rfl, rfl⟩

variable {f}

theorem inBand_smoothK (hf : InBand f) {k : ℕ} (hk : 512 ≤ k ∧ k ≤ 1792) : InBand (smoothK f k) := by
  intro _
  cases hvalid : f.valid with
  | false =>
    rw [smoothK_of_invalid hvalid]
    exact hk
  | true =>
    have hold := hf hvalid
    have := smoothK_between hold.2 hk.2 hvalid
    omega

theorem inBand_spectrumStep (hf : InBand f) (call : SpectrumCall) : InBand (spectrumStep f call) := by
  cases call with
  | reset => exact fun h => absurd h Bool.false_ne_true
  | frame fsQ8 x =>
    rw [spectrumStep]
    by_cases h : PassesSnr x
    · rw [(shFftBpm_of_passesSnr f fsQ8 h).1]
      exact inBand_smoothK hf (newBin_range h.2.2.1)
    · rw [shFftBpm_of_not_passesSnr f fsQ8 h]
      exact hf

theorem inBand_run (calls : List SpectrumCall) : InBand (calls.foldl spectrumStep shFftSmoothReset) := by
  have hrun (f : FftSmooth) (hf : InBand f) : InBand (calls.foldl spectrumStep f) := by
    induction calls generalizing f with
    | nil => exact hf
    | cons call calls ih => exact ih _ (inBand_spectrumStep hf call)
  exact hrun _ (fun h => absurd h Bool.false_ne_true)

theorem bpm_of_band {k : ℕ} (h : 512 ≤ k ∧ k ≤ 1792) : bpmInBand (shBinQ8ToBpm (fsHz * 256) (max k 256)) ≠ 0 := by
  have hbpm : shBinQ8ToBpm (fsHz * 256) (max k 256) = k * 24000 / 262144 := by
    have hscale : k * 60 * (fsHz * 256 / 16) = k * 24000 := Nat.mul_assoc k 60 400
    have hproduct : u32 (k * 24000) = k * 24000 := Nat.mod_eq_of_lt (by omega)
    have hquotient : u16 (k * 24000 / 262144) = k * 24000 / 262144 := u16_of_lt (by omega)
    rw [max_eq_left (by omega), shBinQ8ToBpm, hscale, hproduct]
    exact hquotient
  have hlo : 40 ≤ k * 24000 / 262144 := by omega
  have hhi : k * 24000 / 262144 ≤ 180 := by omega
  rw [hbpm, bpmInBand, if_neg (by simp only [hrBpmMin, hrBpmMax]; omega)]
  omega

end Calls

/-- The carried bin over a run, and what one more frame does to it. -/
theorem smoothed_bin_in_band (calls : List SpectrumCall) (fsQ8 : ℕ) (x : List ℤ) (a b c : ℕ) :
    let f := calls.foldl spectrumStep shFftSmoothReset
    let r := shFftBpm f fsQ8 x
    let out := shFftRadix2 (spectrumFrame x)
    (f.valid = true → 512 ≤ f.kQ8 ∧ f.kQ8 ≤ 1792) ∧ (¬PassesSnr x → r.1 = f ∧ r.2.1 = 0) ∧
      (PassesSnr x →
        (r.1.valid = true ∧ 512 ≤ newBin x ∧ newBin x ≤ 1792) ∧
        (f.valid = false → r.1.kQ8 = newBin x) ∧
        (f.valid = true → min f.kQ8 (newBin x) ≤ r.1.kQ8 ∧ r.1.kQ8 ≤ max f.kQ8 (newBin x)) ∧
        (fsQ8 = fsHz * 256 → r.2.1 ≠ 0) ∧
        ∃ k, 2 ≤ k ∧ k ≤ 7 ∧ (∀ j, 2 ≤ j → j ≤ 7 → binPower out j ≤ binPower out k) ∧
          (newBin x : ℤ) = k * 256 + if 2 < k ∧ k < 7 then
            offsetQ8 (binPower out (k - 1)) (binPower out k) (binPower out (k + 1)) else 0) ∧
      (r.2.1 = 0 ∨ 40 ≤ r.2.1 ∧ r.2.1 ≤ 180) ∧
      (b < 2 ^ 32 → a ≤ b → c ≤ b → ParabolaFits a b c ∧ |offsetQ8 a b c| ≤ 128 ∧
        (0 < offsetQ8 a b c → a < c) ∧ (offsetQ8 a b c < 0 → c < a) ∧ ∃ n ≤ 12, VertexOffset a b c n) := by
  intro f r out
  have hf : InBand f := inBand_run calls
  refine ⟨hf, ?_, ?_, shFftBpm_range f fsQ8 x, ?_⟩
  · intro h
    have hr : r = (f, 0, 0) := shFftBpm_of_not_passesSnr f fsQ8 h
    rw [hr]
    exact ⟨rfl, rfl⟩
  · intro h
    obtain ⟨hstate, hbpm⟩ := shFftBpm_of_passesSnr f fsQ8 h
    change r.1 = _ at hstate
    change r.2.1 = _ at hbpm
    have hnew := newBin_range h.2.2.1
    obtain ⟨hband, hbest, hall⟩ := binScan_best out h.2.2.1
    rw [hstate]
    refine ⟨⟨valid_smoothK _ _, hnew⟩, fun hvalid => smoothK_of_invalid hvalid _, ?_, ?_, ?_⟩
    · intro hvalid
      exact smoothK_between (hf hvalid).2 hnew.2 hvalid
    · intro hfs
      rw [hbpm, hfs]
      exact bpm_of_band (inBand_smoothK hf hnew (valid_smoothK _ _))
    · refine ⟨(binScan out).bestK, hband.1, hband.2, ?_, ?_⟩
      · rw [← hbest]
        exact hall
      · rw [← hbest]
        exact interpolatedK_eq h.2.2.1
  · intro hb ha hc
    obtain ⟨hright, hleft⟩ := offsetQ8_sign hb ha hc
    exact ⟨parabolaFits hb ha hc, abs_offsetQ8_le a b c, hright, hleft, vertexOffset hb ha hc⟩

def squareWave : List ℤ := (List.range 64).map (fun i => if i % 16 < 8 then 1000 else -1000)

def slowerWave : List ℤ := (List.range 64).map (fun i => if i % 18 < 9 then 1000 else -1000)

def afterSquareWave : FftSmooth := [SpectrumCall.frame (fsHz * 256) squareWave].foldl spectrumStep shFftSmoothReset

def slowerPower (k : ℕ) : ℕ := binPower (shFftRadix2 (spectrumFrame slowerWave)) k

theorem smoothed_bin_two_frames :
    (afterSquareWave = ⟨1024, true⟩ ∧ newBin slowerWave = 949) ∧
      949 ≤ (shFftBpm afterSquareWave (fsHz * 256) slowerWave).1.kQ8 ∧
      (shFftBpm afterSquareWave (fsHz * 256) slowerWave).1.kQ8 ≤ 1024 ∧
      (shFftBpm afterSquareWave (fsHz * 256) slowerWave).2.1 ≠ 0 ∧
      offsetQ8 (slowerPower 3) (slowerPower 4) (slowerPower 5) = -75 ∧
      ∃ n ≤ 12, VertexOffset (slowerPower 3) (slowerPower 4) (slowerPower 5) n := by
  have hfirst : afterSquareWave = ⟨1024, true⟩ := by decide +kernel
  obtain ⟨hpass, hnew, h3, h4, h5⟩ : PassesSnr slowerWave ∧ newBin slowerWave = 949 ∧ slowerPower 3 = 7751714 ∧
      slowerPower 4 = 10098625 ∧ slowerPower 5 = 898517 := by decide +kernel
  have hall := smoothed_bin_in_band [.frame (fsHz * 256) squareWave] (fsHz * 256) slowerWave (slowerPower 3)
    (slowerPower 4) (slowerPower 5)
  dsimp only at hall
  rw [← afterSquareWave] at hall
  obtain ⟨-, -, hmoved, -, hparabola⟩ := hall
  obtain ⟨-, -, hbetween, hrate, -⟩ := hmoved hpass
  have hvalid : afterSquareWave.valid = true := by rw [hfirst]
  have hmin : min afterSquareWave.kQ8 (newBin slowerWave) = 949 := by rw [hfirst, hnew]; rfl
  have hmax : max afterSquareWave.kQ8 (newBin slowerWave) = 1024 := by rw [hfirst, hnew]; rfl
  obtain ⟨hlow, hhigh⟩ := hbetween hvalid
  refine ⟨⟨hfirst, hnew⟩, hmin.ge.trans hlow, hhigh.trans hmax.le, hrate rfl, ?_, ?_⟩
  · rw [h3, h4, h5]
    decide
  · exact (hparabola (by rw [h4]; decide) (by rw [h3, h4]; decide) (by rw [h4, h5]; decide)).2.2.2.2

end SmartHelmet.Vitals
