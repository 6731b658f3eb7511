import SmartHelmet.FftScaling

namespace SmartHelmet.Vitals

open Config Complex

/-- The weighted sum less the transform, at 64 * 32768. -/
def excess (a : Frame) (k : ℕ) : Cell :=
  ∑ n ∈ Finset.range 64, (2 ^ ones n - 1 : ℤ) • times (cell a n) (shFftTwiddle (n * k))

def ProductsFit (a : Frame) : Prop :=
  ∀ s < 6, ∀ g < 64 / 2 ^ (s + 1), ∀ m < 2 ^ s,
    let y := halved (cell (afterStages a s) ((2 * g + 1) * 2 ^ s + m))
    let w := shFftTwiddle (m * 64 / 2 ^ (s + 1))
    |y.1 * w.1| < 2 ^ 31 ∧ |y.2 * w.2| < 2 ^ 31 ∧ |y.1 * w.2| < 2 ^ 31 ∧ |y.2 * w.1| < 2 ^ 31 ∧
      |(times y w).1| < 2 ^ 31 ∧ |(times y w).2| < 2 ^ 31

section Headroom

theorem spread_le {r : ℕ → ℝ} {b : ℝ} (hr : ∀ g, r g ≤ b) (s g : ℕ) : spread r s g ≤ (3 / 2) ^ s * (b + 2) - 2 := by
  induction s generalizing g with
  | zero =>
    rw [spread, pow_zero]
    linarith [hr g]
  | succ s ih =>
    have hrest : (if g = 0 then (1 : ℝ) else 0) ≤ 1 := by split_ifs <;> norm_num
    rw [spread_succ, pow_succ]
    linarith [ih (2 * g), ih (2 * g + 1)]

theorem abs_lt_of_norm_mul {y w : Cell} (hy : ‖toC y‖ < 2 ^ 16) (hw : ‖toC w‖ ≤ 2 ^ 15) {n : ℤ}
    (hn : |(n : ℝ)| ≤ ‖toC y‖ * ‖toC w‖) : |n| < 2 ^ 31 := by
  have hlt : |(n : ℝ)| < 2 ^ 31 := by
    calc |(n : ℝ)| ≤ ‖toC y‖ * 2 ^ 15 := hn.trans (mul_le_mul_of_nonneg_left hw (norm_nonneg _))
      _ < 2 ^ 16 * 2 ^ 15 := mul_lt_mul_of_pos_right hy (by norm_num)
      _ = 2 ^ 31 := by norm_num
  exact_mod_cast hlt

theorem products_fit {y w : Cell} (hy : ‖toC y‖ < 2 ^ 16) (hw : ‖toC w‖ ≤ 2 ^ 15) :
    |y.1 * w.1| < 2 ^ 31 ∧ |y.2 * w.2| < 2 ^ 31 ∧ |y.1 * w.2| < 2 ^ 31 ∧ |y.2 * w.1| < 2 ^ 31 ∧
      |(times y w).1| < 2 ^ 31 ∧ |(times y w).2| < 2 ^ 31 := by
  have hre (x : Cell) : |(x.1 : ℝ)| ≤ ‖toC x‖ := Complex.abs_re_le_norm (toC x)
  have him (x : Cell) : |(x.2 : ℝ)| ≤ ‖toC x‖ := Complex.abs_im_le_norm (toC x)
  have hprod {m n : ℤ} (hm : |(m : ℝ)| ≤ ‖toC y‖) (hn : |(n : ℝ)| ≤ ‖toC w‖) : |m * n| < 2 ^ 31 := by
    apply abs_lt_of_norm_mul hy hw
    rw [Int.cast_mul, abs_mul]
    exact mul_le_mul hm hn (abs_nonneg _) (norm_nonneg _)
  have htimes : ‖toC (times y w)‖ = ‖toC y‖ * ‖toC w‖ := by rw [toC_times, norm_mul]
  refine ⟨hprod (hre y) (hre w), hprod (him y) (him w), hprod (hre y) (him w), hprod (him y) (hre w), ?_, ?_⟩
  · exact abs_lt_of_norm_mul hy hw ((hre _).trans_eq htimes)
  · exact abs_lt_of_norm_mul hy hw ((him _).trans_eq htimes)

theorem productsFit_of_spread {c : ℂ} {r : ℕ → ℝ} {a : Frame} (ha : Full a)
    (h0 : Near c 0 (spread r 0) (bitReverse a))
    (hr : ∀ s < 6, ∀ g, 2 * g + 1 < 64 / 2 ^ s → spread r s (2 * g + 1) < 2 ^ 17) : ProductsFit a := by
  intro s hs g hg m hm
  have hblock : 2 * g + 1 < 64 / 2 ^ s := by
    interval_cases s <;> omega
  have hnear := near_afterStages ha h0 hs.le (2 * g + 1) hblock m hm
  rw [if_neg (by omega), sub_zero] at hnear
  have hlt := hnear.trans_lt (hr s hs g hblock)
  have hhalf := norm_halved_le (cell (afterStages a s) ((2 * g + 1) * 2 ^ s + m))
  exact products_fit (by norm_num at hlt ⊢; linarith) (by norm_num; exact norm_twiddle_le _)

theorem productsFit_of_near {c : ℂ} {r : ℕ → ℝ} {a : Frame} (ha : Full a)
    (h0 : Near c 0 (spread r 0) (bitReverse a)) (hr : ∀ g, r g ≤ 2 ^ 14) : ProductsFit a := by
  apply productsFit_of_spread ha h0
  intro s hs g _
  have hradius := spread_le hr s (2 * g + 1)
  have hgrowth : ((3 : ℝ) / 2) ^ s ≤ (3 / 2) ^ 5 := pow_le_pow_right₀ (by norm_num) (by omega)
  norm_num at hgrowth hradius ⊢
  linarith

theorem sampleRadius_le {a : Frame} (hlater : laterMass a ≤ 1920) (j : ℕ) : sampleRadius a j ≤ 2 ^ 14 := by
  have hrange : rev6 j < 64 := by
    rw [rev6]
    omega
  rw [sampleRadius]
  split_ifs with h0
  · norm_num
  · have hterm : (2 ^ ones (rev6 j) + 1) * mass (cell a (rev6 j)) ≤ laterMass a :=
      Finset.single_le_sum (f := fun n => (2 ^ ones n + 1) * mass (cell a n)) (fun _ _ => Nat.zero_le _)
        (Finset.mem_Ico.mpr ⟨by omega, hrange⟩)
    have hmass : mass (cell a (rev6 j)) ≤ (2 ^ ones (rev6 j) + 1) * mass (cell a (rev6 j)) :=
      Nat.le_mul_of_pos_left _ (Nat.succ_pos _)
    have hle : mass (cell a (rev6 j)) ≤ 2 ^ 14 := by omega
    exact_mod_cast hle

theorem near_zero {a : Frame} (ha : Full a) {b : ℕ → ℝ} (hnorm : ∀ n < 64, ‖toC (cell a n)‖ ≤ b n) :
    Near 0 0 (spread (fun j => b (rev6 j)) 0) (bitReverse a) := by
  intro g hg m hm
  obtain rfl : m = 0 := by omega
  rw [show g * 2 ^ 0 + 0 = g by ring, (cell_bitReverse ha).2 g hg, zero_div, ite_self, sub_zero]
  exact hnorm _ (rev6_involutive g hg).1

end Headroom

section Linear

theorem twiddle_add_half (tw : ℕ) : shFftTwiddle (tw + 32) = -shFftTwiddle tw := by
  have htable : ∀ k < 64, shFftTwiddle (k + 32) = -shFftTwiddle k := by decide
  rw [shFftTwiddle_mod (tw + 32), shFftTwiddle_mod tw, ← htable (tw % 64) (Nat.mod_lt _ (by norm_num)),
    shFftTwiddle_mod (tw % 64 + 32)]
  congr 1
  omega

theorem norm_turned_sub_le (tw : ℕ) (y : Cell) :
    ‖toC (turned tw y) - toC y * toC (shFftTwiddle tw) / 32768‖ ≤ 4 := by
  have htrunc : ‖toC (turned tw y) - toC (times (halved y) (shFftTwiddle tw)) / 16384‖ ≤ 2 := by
    have hre := abs_tdiv_sub_le (times (halved y) (shFftTwiddle tw)).1 (d := 16384) (by norm_num)
    have him := abs_tdiv_sub_le (times (halved y) (shFftTwiddle tw)).2 (d := 16384) (by norm_num)
    have hsum := Complex.norm_le_abs_re_add_abs_im
      (toC (turned tw y) - toC (times (halved y) (shFftTwiddle tw)) / 16384)
    have hre' : (toC (turned tw y) - toC (times (halved y) (shFftTwiddle tw)) / 16384).re =
        ((times (halved y) (shFftTwiddle tw)).1.tdiv 16384 : ℤ) - (times (halved y) (shFftTwiddle tw)).1 / 16384 := by
      simp [toC, turned, times]
    have him' : (toC (turned tw y) - toC (times (halved y) (shFftTwiddle tw)) / 16384).im =
        ((times (halved y) (shFftTwiddle tw)).2.tdiv 16384 : ℤ) - (times (halved y) (shFftTwiddle tw)).2 / 16384 := by
      simp [toC, turned, times]
    rw [hre', him'] at hsum
    norm_num at hre him
    linarith
  have hsplit : toC (turned tw y) - toC y * toC (shFftTwiddle tw) / 32768 =
      (toC (turned tw y) - toC (times (halved y) (shFftTwiddle tw)) / 16384) +
        (toC (halved y) - toC y / 2) * toC (shFftTwiddle tw) / 16384 := by
    rw [toC_times]
    ring
  have hhalf : ‖(toC (halved y) - toC y / 2) * toC (shFftTwiddle tw) / 16384‖ ≤ 2 := by
    rw [norm_div, norm_mul, Complex.norm_ofNat, div_le_iff₀ (by norm_num)]
    have := mul_le_mul (norm_halved_sub_le y) (norm_twiddle_le tw) (norm_nonneg _) (by norm_num)
    linarith
  rw [hsplit]
  exact (norm_add_le _ _).trans (by linarith)

theorem norm_fftStage_sub_le {s : ℕ} (hs : s < 6) {b : Frame} (hb : Full b) {g j : ℕ} (hg : g < 64 / 2 ^ (s + 1))
    (hj : j < 2 ^ (s + 1)) :
    ‖toC (cell (fftStage b (2 ^ (s + 1))) (g * 2 ^ (s + 1) + j)) -
      (toC (cell b (2 * g * 2 ^ s + j % 2 ^ s)) / 2 + toC (cell b ((2 * g + 1) * 2 ^ s + j % 2 ^ s)) *
        toC (shFftTwiddle (j * 64 / 2 ^ (s + 1))) / 32768)‖ ≤ 5 := by
  have hcell := cell_fftStage_mod hs hb hg hj
  dsimp only at hcell
  rw [hcell]
  generalize cell b (2 * g * 2 ^ s + j % 2 ^ s) = x
  generalize cell b ((2 * g + 1) * 2 ^ s + j % 2 ^ s) = y
  have hx := norm_halved_sub_le x
  have hy := norm_turned_sub_le (j % 2 ^ s * 64 / 2 ^ (s + 1)) y
  by_cases hlow : j < 2 ^ s
  · rw [if_pos hlow]
    rw [Nat.mod_eq_of_lt hlow] at hy ⊢
    generalize j * 64 / 2 ^ (s + 1) = tw at hy
    have hsplit : toC (twist tw x y).1 - (toC x / 2 + toC y * toC (shFftTwiddle tw) / 32768) =
        (toC (halved x) - toC x / 2) + (toC (turned tw y) - toC y * toC (shFftTwiddle tw) / 32768) := by
      rw [twist, toC_add]
      ring
    rw [hsplit]
    exact (norm_add_le _ _).trans (by linarith)
  · rw [if_neg hlow]
    have hangle : j * 64 / 2 ^ (s + 1) = j % 2 ^ s * 64 / 2 ^ (s + 1) + 32 := by
      interval_cases s <;> omega
    rw [hangle, twiddle_add_half]
    generalize j % 2 ^ s * 64 / 2 ^ (s + 1) = tw at hy
    have hsplit : toC (twist tw x y).2 - (toC x / 2 + toC y * toC (-shFftTwiddle tw) / 32768) =
        (toC (halved x) - toC x / 2) - (toC (turned tw y) - toC y * toC (shFftTwiddle tw) / 32768) := by
      rw [twist, toC_sub, toC_neg]
      ring
    rw [hsplit]
    exact (norm_sub_le _ _).trans (by linarith)

theorem sum_tap_succ (s m : ℕ) (x : ℕ → ℂ) :
    ∑ j ∈ Finset.range (2 ^ (s + 1)), toC (tap (s + 1) m j) * x j =
      32768 * ∑ j ∈ Finset.range (2 ^ s), toC (tap s (m % 2 ^ s) j) * x j +
        2 * toC (shFftTwiddle (m * 64 / 2 ^ (s + 1))) *
          ∑ j ∈ Finset.range (2 ^ s), toC (tap s (m % 2 ^ s) j) * x (2 ^ s + j) := by
  have hlow : ∑ j ∈ Finset.range (2 ^ s), toC (tap (s + 1) m j) * x j =
      32768 * ∑ j ∈ Finset.range (2 ^ s), toC (tap s (m % 2 ^ s) j) * x j := by
    rw [Finset.mul_sum]
    apply Finset.sum_congr rfl
    intro j hj
    rw [tap, if_pos (Finset.mem_range.mp hj), toC_zsmul]
    push_cast
    ring
  have hhigh : ∑ j ∈ Finset.range (2 ^ s), toC (tap (s + 1) m (2 ^ s + j)) * x (2 ^ s + j) =
      2 * toC (shFftTwiddle (m * 64 / 2 ^ (s + 1))) *
        ∑ j ∈ Finset.range (2 ^ s), toC (tap s (m % 2 ^ s) j) * x (2 ^ s + j) := by
    rw [Finset.mul_sum]
    apply Finset.sum_congr rfl
    intro j _
    rw [tap, if_neg (by omega), Nat.add_sub_cancel_left, toC_zsmul, toC_times]
    push_cast
    ring
  rw [← hlow, ← hhigh, ← Finset.sum_range_add, ← mul_two, ← pow_succ]

theorem tapped_fftStage {x : ℕ → ℂ} {s : ℕ} (hs : s < 6) {b : Frame} (hb : Full b) (h : Tapped x s b) :
    Tapped x (s + 1) (fftStage b (2 ^ (s + 1))) := by
  intro g hg j hj
  have hblocks : 2 * g + 1 < 64 / 2 ^ s := by
    interval_cases s <;> omega
  have hm : j % 2 ^ s < 2 ^ s := Nat.mod_lt _ (Nat.two_pow_pos s)
  have heven := h (2 * g) (by omega) _ hm
  have hodd := h (2 * g + 1) hblocks _ hm
  have hstage := norm_fftStage_sub_le hs hb hg hj
  have hindex0 (i : ℕ) : 2 * g * 2 ^ s + i = g * 2 ^ (s + 1) + i := by ring
  have hindex1 (i : ℕ) : (2 * g + 1) * 2 ^ s + i = g * 2 ^ (s + 1) + (2 ^ s + i) := by ring
  rw [sum_tap_succ s j (fun i => x (g * 2 ^ (s + 1) + i))]
  simp only [hindex0, hindex1] at heven hodd hstage
  have hw := norm_twiddle_le (j * 64 / 2 ^ (s + 1))
  generalize toC (shFftTwiddle (j * 64 / 2 ^ (s + 1))) = w at hstage hw ⊢
  generalize ∑ i ∈ Finset.range (2 ^ s), toC (tap s (j % 2 ^ s) i) * x (g * 2 ^ (s + 1) + i) = p at heven ⊢
  generalize ∑ i ∈ Finset.range (2 ^ s), toC (tap s (j % 2 ^ s) i) * x (g * 2 ^ (s + 1) + (2 ^ s + i)) = q at hodd ⊢
  generalize toC (cell b (g * 2 ^ (s + 1) + j % 2 ^ s)) = u at heven hstage
  generalize toC (cell b (g * 2 ^ (s + 1) + (2 ^ s + j % 2 ^ s))) = v at hodd hstage
  generalize toC (cell (fftStage b (2 ^ (s + 1))) (g * 2 ^ (s + 1) + j)) = out at hstage ⊢
  have hsplit : out - (32768 * p + 2 * w * q) / 65536 ^ (s + 1) =
      (out - (u / 2 + v * w / 32768)) + (u - p / 65536 ^ s) / 2 + (v - q / 65536 ^ s) * w / 32768 := by
    have hpow : (65536 : ℂ) ^ s ≠ 0 := pow_ne_zero s (by norm_num)
    rw [pow_succ]
    field_simp
    ring
  have hhalf : ‖(u - p / 65536 ^ s) / 2‖ ≤ 10 * ((3 / 2) ^ s - 1) / 2 := by
    rw [norm_div, Complex.norm_ofNat]
    linarith
  have hturn : ‖(v - q / 65536 ^ s) * w / 32768‖ ≤ 10 * ((3 / 2) ^ s - 1) := by
    rw [norm_div, norm_mul, Complex.norm_ofNat, div_le_iff₀ (by norm_num)]
    exact mul_le_mul hodd hw (norm_nonneg _) ((norm_nonneg _).trans hodd)
  rw [hsplit, pow_succ]
  have htri := norm_add₃_le (a := out - (u / 2 + v * w / 32768)) (b := (u - p / 65536 ^ s) / 2)
    (c := (v - q / 65536 ^ s) * w / 32768)
  linarith

theorem tapped_afterStages {a : Frame} (ha : Full a) {s : ℕ} (hs : s ≤ 6) :
    Tapped (fun j => toC (cell a (rev6 j))) s (afterStages a s) := by
  have h0 : Tapped (fun j => toC (cell a (rev6 j))) 0 (bitReverse a) := by
    intro g hg m hm
    obtain rfl : m = 0 := by omega
    have hone : toC (tap 0 0 0) = 1 := by
      apply Complex.ext <;> simp [toC, tap]
    simp [(cell_bitReverse ha).2 g hg, hone]
  exact (afterStages_invariant ha (Tapped _) h0 (fun _ hs _ hfull h => tapped_fftStage hs hfull h) hs).2

end Linear

section Failure

def tapError (k j : ℕ) : Cell := tap 6 k j - (2 ^ 75 * 2 ^ ones (rev6 j) : ℤ) • shFftTwiddle (rev6 j * k)

theorem times_neg (x w : Cell) : times x (-w) = -times x w := by
  apply Prod.ext <;> simp [times] <;> ring

theorem mass_neg (x : Cell) : mass (-x) = mass x := by
  simp [mass]

theorem tap_six (k j : ℕ) : tap 6 k j = if j < 32 then (32768 : ℤ) • tap 5 (k % 32) j
    else (2 : ℤ) • times (tap 5 (k % 32) (j - 32)) (shFftTwiddle k) := by
  have hk : k * 64 / 2 ^ (5 + 1) = k := Nat.mul_div_cancel k (by norm_num)
  rw [show tap 6 k j = tap (5 + 1) k j from rfl]
  unfold tap
  rw [hk]
  rfl

theorem tap_add_half (k j : ℕ) : tap 6 (k + 32) j = if j < 32 then tap 6 k j else -tap 6 k j := by
  rw [tap_six, tap_six k, Nat.add_mod_right, twiddle_add_half, times_neg, smul_neg]
  split_ifs <;> rfl

theorem twiddle_rev6_add_half (k : ℕ) {j : ℕ} (hj : j < 64) :
    shFftTwiddle (rev6 j * (k + 32)) = if j < 32 then shFftTwiddle (rev6 j * k) else -shFftTwiddle (rev6 j * k) := by
  have hodd : rev6 j % 2 = j / 32 := by
    rw [rev6]
    omega
  have hmul : rev6 j * (k + 32) = rev6 j * k + rev6 j * 32 := Nat.mul_add _ _ _
  split_ifs with hlow
  · rw [shFftTwiddle_mod, shFftTwiddle_mod (rev6 j * k)]
    congr 1
    omega
  · rw [← twiddle_add_half, shFftTwiddle_mod, shFftTwiddle_mod (rev6 j * k + 32)]
    congr 1
    omega

theorem mass_tapError_add_half (k : ℕ) {j : ℕ} (hj : j < 64) : mass (tapError (k + 32) j) = mass (tapError k j) := by
  rw [tapError, tapError, tap_add_half, twiddle_rev6_add_half k hj]
  split_ifs
  · rfl
  · rw [smul_neg, ← neg_sub', mass_neg]

theorem tap_table : ∀ k < 64, ∑ j ∈ Finset.range 64, mass (tapError k j) ≤ 23 * 2 ^ 82 := by
  have hlow : ∀ k < 32, ∑ j ∈ Finset.range 64, mass (tapError k j) ≤ 23 * 2 ^ 82 := by
    intro k hk
    interval_cases k <;> decide +kernel
  intro k hk
  rcases Nat.lt_or_ge k 32 with hsmall | hlarge
  · exact hlow k hsmall
  · obtain ⟨k, rfl⟩ := Nat.exists_eq_add_of_le' hlarge
    refine le_of_eq_of_le (Finset.sum_congr rfl fun j hj => ?_) (hlow k (by omega))
    exact mass_tapError_add_half k (Finset.mem_range.mp hj)

theorem toC_excess (a : Frame) (k : ℕ) : toC (excess a k) =
    (∑ n ∈ Finset.range 64, 2 ^ ones n * (toC (cell a n) * toC (shFftTwiddle (n * k)))) - toC (dftSum a k) := by
  rw [excess, dftSum_eq, toC_sum, toC_sum, ← Finset.sum_sub_distrib]
  apply Finset.sum_congr rfl
  intro n _
  rw [toC_zsmul, toC_times]
  push_cast
  ring

theorem norm_weighted_sub_le {a : Frame} (hnorm : ∀ n < 64, ‖toC (cell a n)‖ ≤ 2 ^ 14) {k : ℕ} (hk : k < 64) :
    ‖(∑ j ∈ Finset.range 64, toC (tap 6 k j) * toC (cell a (rev6 j))) / 65536 ^ 6 -
      (toC (excess a k) + toC (dftSum a k)) / (64 * 32768)‖ ≤ 23 := by
  have hdiff : (∑ j ∈ Finset.range 64, toC (tap 6 k j) * toC (cell a (rev6 j))) / 65536 ^ 6 -
      (toC (excess a k) + toC (dftSum a k)) / (64 * 32768) =
      (∑ j ∈ Finset.range 64, toC (tapError k j) * toC (cell a (rev6 j))) / 65536 ^ 6 := by
    have hscale : (64 * 32768 : ℂ) = 65536 ^ 6 / 2 ^ 75 := by norm_num
    rw [toC_excess, sub_add_cancel, ← sum_rev6 (fun n => 2 ^ ones n * (toC (cell a n) * toC (shFftTwiddle (n * k)))),
      hscale, div_div_eq_mul_div, ← sub_div, Finset.sum_mul, ← Finset.sum_sub_distrib]
    congr 1
    apply Finset.sum_congr rfl
    intro j _
    rw [tapError, toC_sub, toC_zsmul]
    push_cast
    ring
  have hsum : ‖∑ j ∈ Finset.range 64, toC (tapError k j) * toC (cell a (rev6 j))‖ ≤ 23 * 2 ^ 82 * 2 ^ 14 := by
    have hterm : ∀ j ∈ Finset.range 64,
        ‖toC (tapError k j) * toC (cell a (rev6 j))‖ ≤ (mass (tapError k j) : ℝ) * 2 ^ 14 := by
      intro j hj
      rw [norm_mul]
      exact mul_le_mul (norm_toC_le _) (hnorm _ (rev6_involutive j (Finset.mem_range.mp hj)).1)
        (norm_nonneg _) (Nat.cast_nonneg _)
    have htable : ((∑ j ∈ Finset.range 64, mass (tapError k j) : ℕ) : ℝ) ≤ (23 * 2 ^ 82 : ℕ) :=
      Nat.cast_le.mpr (tap_table k hk)
    have hle := norm_sum_le_of_le _ hterm
    rw [← Finset.sum_mul, ← Nat.cast_sum] at hle
    refine hle.trans (mul_le_mul_of_nonneg_right (htable.trans_eq ?_) (by norm_num))
    norm_num
  rw [hdiff, norm_div, norm_pow, Complex.norm_ofNat, div_le_iff₀ (by norm_num)]
  exact hsum.trans_eq (by norm_num)

theorem bin_near_weighted {a : Frame} (ha : Full a) (hnorm : ∀ n < 64, ‖toC (cell a n)‖ ≤ 2 ^ 14) {k : ℕ}
    (hk : k < 64) :
    ‖toC (cell (shFftRadix2 a) k) - (toC (excess a k) + toC (dftSum a k)) / (64 * 32768)‖ ≤ 128 := by
  have htap := tapped_afterStages ha le_rfl 0 (by norm_num) k hk
  have hweighted := norm_weighted_sub_le hnorm hk
  simp only [zero_mul, zero_add, ← shFftRadix2_eq] at htap
  have htri := norm_sub_le_norm_sub_add_norm_sub (toC (cell (shFftRadix2 a) k))
    ((∑ j ∈ Finset.range 64, toC (tap 6 k j) * toC (cell a (rev6 j))) / 65536 ^ 6)
    ((toC (excess a k) + toC (dftSum a k)) / (64 * 32768))
  have hround : (10 : ℝ) * ((3 / 2) ^ 6 - 1) ≤ 105 := by norm_num
  exact htri.trans (by linarith [htap.trans hround])

theorem not_scaledDft_of_excess {a : Frame} (ha : Full a) (hnorm : ∀ n < 64, ‖toC (cell a n)‖ ≤ 2 ^ 14) {k : ℕ}
    (hk : k < 64) (hexcess : 160 * (64 * 32768) < |(excess a k).1| ∨ 160 * (64 * 32768) < |(excess a k).2|) :
    ¬ScaledDft a := by
  intro hscaled
  have hnear := bin_near_weighted ha hnorm hk
  rw [← toC_add] at hnear
  have hparts := bin_parts_le (b := 128) (by exact_mod_cast hnear)
  obtain ⟨hre, him⟩ := hscaled k hk
  have hbound (x e d : ℤ) (hcode : |(x : ℚ) - (e + d : ℤ) / (64 * 32768)| ≤ 128)
      (hclaim : |(x : ℚ) - d / (64 * 32768)| ≤ 32) : |e| ≤ 160 * (64 * 32768) := by
    have hsplit : (e : ℚ) / (64 * 32768) = (x - d / (64 * 32768)) - (x - (e + d : ℤ) / (64 * 32768)) := by
      push_cast
      ring
    have hle : |(e : ℚ)| / (64 * 32768) ≤ 160 := by
      have hpos : (0 : ℚ) < 64 * 32768 := by norm_num
      rw [← abs_of_pos hpos, ← abs_div, hsplit]
      exact (abs_sub _ _).trans (by linarith)
    rw [div_le_iff₀ (by norm_num)] at hle
    exact_mod_cast hle
  rcases hexcess with h | h
  · exact absurd (hbound _ _ _ hparts.1 hre) (not_le.mpr h)
  · exact absurd (hbound _ _ _ hparts.2 him) (not_le.mpr h)

end Failure

section Frames

variable (re im : Fin 64 → ℤ)

theorem full_ofFn : Full (List.ofFn re, List.ofFn im) := ⟨List.length_ofFn, List.length_ofFn⟩

theorem cell_ofFn {n : ℕ} (hn : n < 64) : cell (List.ofFn re, List.ofFn im) n = (re ⟨n, hn⟩, im ⟨n, hn⟩) := by
  have hget (f : Fin 64 → ℤ) : (List.ofFn f).getD n 0 = f ⟨n, hn⟩ := by
    rw [List.getD_eq_getElem _ _ (by rw [List.length_ofFn]; exact hn), List.getElem_ofFn]
  rw [cell, hget, hget]

end Frames

/-- The transform is right where the samples after the first are small, and wrong where the weights
make a bin differ by more than the rounding of the stages. -/
theorem fft_scaled_when_later_small (re im : Fin 64 → ℤ) (hre : ∀ n, |re n| ≤ 2 ^ 14) (him : ∀ n, |im n| ≤ 2 ^ 14) :
    let a : Frame := (List.ofFn re, List.ofFn im)
    (laterMass a ≤ 1920 → ProductsFit a ∧ ScaledDft a) ∧
      ((∀ n, re n ^ 2 + im n ^ 2 ≤ 2 ^ 28) → ProductsFit a ∧
        ((∃ k < 64, 160 * (64 * 32768) < |(excess a k).1| ∨ 160 * (64 * 32768) < |(excess a k).2|) →
          ¬ScaledDft a)) := by
  intro a
  have ha : Full a := full_ofFn re im
  constructor
  · intro hlater
    have hmass : mass (cell a 0) ≤ 32768 := by
      have h1 := hre 0
      have h2 := him 0
      rw [Int.abs_eq_natAbs] at h1 h2
      rw [show cell a 0 = (re 0, im 0) from cell_ofFn re im (by norm_num), mass]
      dsimp only
      omega
    exact ⟨productsFit_of_near ha (near_bitReverse ha) (sampleRadius_le hlater), scaledDft_of_laterMass ha hmass hlater⟩
  · intro hnorm
    have hle : ∀ n < 64, ‖toC (cell a n)‖ ≤ 2 ^ 14 := by
      intro n hn
      have hsq : ((re ⟨n, hn⟩ : ℝ)) * re ⟨n, hn⟩ + im ⟨n, hn⟩ * im ⟨n, hn⟩ ≤ (2 ^ 14) ^ 2 := by
        have := hnorm ⟨n, hn⟩
        rw [sq, sq] at this
        exact_mod_cast this
      rw [cell_ofFn re im hn, Complex.norm_def, Complex.normSq_apply, Real.sqrt_le_left (by norm_num)]
      exact hsq
    refine ⟨productsFit_of_near ha (near_zero (b := fun _ => 2 ^ 14) ha hle) (fun _ => le_rfl), ?_⟩
    · rintro ⟨k, hk, hexcess⟩
      exact not_scaledDft_of_excess ha hle hk hexcess

theorem fft_scaled_small_later_and_constant :
    ScaledDft (List.ofFn fun n : Fin 64 => if n = 0 then (16000 : ℤ) else if n < 3 then 150 else 1,
      List.ofFn fun n : Fin 64 => if n = 0 then (-12000 : ℤ) else 0) ∧
      ¬ScaledDft (List.ofFn fun _ : Fin 64 => (1000 : ℤ), List.ofFn fun _ : Fin 64 => 0) := by
  constructor
  · exact ((fft_scaled_when_later_small (fun n => if n = 0 then 16000 else if n < 3 then 150 else 1)
      (fun n => if n = 0 then -12000 else 0) (by decide) (by decide)).1 (by decide +kernel)).2
  · exact ((fft_scaled_when_later_small (fun _ : Fin 64 => (1000 : ℤ)) (fun _ => 0) (by decide) (by decide)).2
      (by decide)).2 ⟨32, by norm_num, by decide +kernel⟩

/-- Bin 32 of a constant frame is not near zero. -/
theorem constant_frame_not_scaled :
    (∀ n : Fin 64, |(fun _ => 1000 : Fin 64 → ℤ) n| ≤ 2 ^ 14) ∧
      ¬ScaledDft (List.ofFn fun _ : Fin 64 => (1000 : ℤ), List.ofFn fun _ : Fin 64 => 0) := by
  refine ⟨by decide, fun h => ?_⟩
  have hbin : ¬|((cell (shFftRadix2 (List.ofFn fun _ : Fin 64 => (1000 : ℤ), List.ofFn fun _ : Fin 64 => 0)) 32).1 : ℚ) -
      (dftSum (List.ofFn fun _ : Fin 64 => (1000 : ℤ), List.ofFn fun _ : Fin 64 => 0) 32).1 / (64 * 32768)| ≤ 32 := by
    decide +kernel
  exact hbin (h 32 (by norm_num)).1

end SmartHelmet.Vitals
