import SmartHelmet.FftStages

/-!
The scale of `shFftRadix2`. The even branch of a butterfly is halved and the odd branch is not,
so a sample counts once more for every bit of its index; the result is the transform that was
asked for only as far as the samples after the first are small.
-/

namespace SmartHelmet.Vitals

open Config Complex MachineArith

/-- The sum of `x[n] * W[n k]` over the frame, with the table's `W` at 32768. -/
def dftSum (a : Frame) (k : ℕ) : Cell :=
  (∑ n ∈ Finset.range 64, ((cell a n).1 * (shFftTwiddle (n * k)).1 - (cell a n).2 * (shFftTwiddle (n * k)).2),
   ∑ n ∈ Finset.range 64, ((cell a n).1 * (shFftTwiddle (n * k)).2 + (cell a n).2 * (shFftTwiddle (n * k)).1))

/-- Every bin is within 32 of the exact transform divided by 64. -/
def ScaledDft (a : Frame) : Prop :=
  ∀ k < 64, |((cell (shFftRadix2 a) k).1 : ℚ) - (dftSum a k).1 / (64 * 32768)| ≤ 32 ∧
    |((cell (shFftRadix2 a) k).2 : ℚ) - (dftSum a k).2 / (64 * 32768)| ≤ 32

def ones (n : ℕ) : ℕ := (List.range 6).countP (fun i => n.testBit i)

def mass (x : Cell) : ℕ := x.1.natAbs + x.2.natAbs

def laterMass (a : Frame) : ℕ := ∑ n ∈ Finset.Ico 1 64, (2 ^ ones n + 1) * mass (cell a n)

noncomputable def toC (x : Cell) : ℂ := ⟨x.1, x.2⟩

theorem toC_add (x y : Cell) : toC (x + y) = toC x + toC y := by
  apply Complex.ext <;> simp [toC]

theorem toC_sub (x y : Cell) : toC (x - y) = toC x - toC y := by
  apply Complex.ext <;> simp [toC]

theorem toC_neg (x : Cell) : toC (-x) = -toC x := by
  apply Complex.ext <;> simp [toC]

theorem toC_zsmul (n : ℤ) (x : Cell) : toC (n • x) = n * toC x := by
  apply Complex.ext <;> simp [toC]

section Norms

theorem norm_le_of_abs_le {x y : ℂ} (hre : |x.re| ≤ |y.re|) (him : |x.im| ≤ |y.im|) : ‖x‖ ≤ ‖y‖ := by
  rw [Complex.norm_def, Complex.norm_def]
  apply Real.sqrt_le_sqrt
  rw [Complex.normSq_apply, Complex.normSq_apply]
  have h1 := mul_self_le_mul_self (abs_nonneg _) hre
  have h2 := mul_self_le_mul_self (abs_nonneg _) him
  rw [abs_mul_abs_self, abs_mul_abs_self] at h1 h2
  exact add_le_add h1 h2

theorem norm_toC_le (x : Cell) : ‖toC x‖ ≤ mass x := by
  have h := Complex.norm_le_abs_re_add_abs_im (toC x)
  simpa [toC, mass, Nat.cast_natAbs] using h

theorem abs_tdiv_le (n : ℤ) {d : ℕ} (hd : 0 < d) : |((n.tdiv d : ℤ) : ℝ)| ≤ |(n : ℝ)| / d := by
  have hle := abs_tdiv_mul_le n (show (0 : ℤ) < d by exact_mod_cast hd)
  have hcast : |((n.tdiv d : ℤ) : ℝ)| * d ≤ |(n : ℝ)| := by exact_mod_cast hle
  rwa [le_div_iff₀ (by exact_mod_cast hd)]

theorem norm_halved_le (x : Cell) : ‖toC (halved x)‖ ≤ ‖toC x‖ / 2 := by
  have hle : ‖toC (halved x)‖ ≤ ‖toC x / 2‖ := by
    apply norm_le_of_abs_le
    · simpa [toC, halved, abs_div] using abs_tdiv_le x.1 (d := 2) (by norm_num)
    · simpa [toC, halved, abs_div] using abs_tdiv_le x.2 (d := 2) (by norm_num)
  simpa using hle

theorem abs_tdiv_sub_le (n : ℤ) {d : ℕ} (hd : 0 < d) : |((n.tdiv d : ℤ) : ℝ) - n / d| ≤ 1 - 1 / d := by
  have hmod : n = d * n.tdiv d + n.tmod d := (Int.mul_tdiv_add_tmod n d).symm
  have hsmall : (n.tmod d).natAbs < d := by
    rw [Int.natAbs_tmod, Int.natAbs_natCast]
    exact Nat.mod_lt _ hd
  have habs : |n.tmod d| ≤ d - 1 := by
    rw [Int.abs_eq_natAbs]
    omega
  have hreal : (n : ℝ) = d * (n.tdiv d : ℤ) + (n.tmod d : ℤ) := by exact_mod_cast hmod
  have habs' : |((n.tmod d : ℤ) : ℝ)| ≤ d - 1 := by exact_mod_cast habs
  have hpos : (0 : ℝ) < d := by exact_mod_cast hd
  have hdiff : ((n.tdiv d : ℤ) : ℝ) - n / d = -((n.tmod d : ℤ) : ℝ) / d := by
    rw [hreal]
    field_simp
    ring
  rw [hdiff, abs_div, abs_neg, abs_of_pos hpos, div_le_iff₀ hpos, sub_mul, one_mul, one_div, inv_mul_cancel₀ hpos.ne']
  exact habs'

theorem norm_halved_sub_le (x : Cell) : ‖toC (halved x) - toC x / 2‖ ≤ 1 := by
  have hre : |(toC (halved x) - toC x / 2).re| ≤ 1 - 1 / 2 := by
    simpa [toC, halved] using abs_tdiv_sub_le x.1 (d := 2) (by norm_num)
  have him : |(toC (halved x) - toC x / 2).im| ≤ 1 - 1 / 2 := by
    simpa [toC, halved] using abs_tdiv_sub_le x.2 (d := 2) (by norm_num)
  have h := Complex.norm_le_abs_re_add_abs_im (toC (halved x) - toC x / 2)
  linarith

theorem shFftTwiddle_mod (tw : ℕ) : shFftTwiddle tw = shFftTwiddle (tw % 64) := by
  rw [shFftTwiddle, shFftTwiddle, fftN, Nat.mod_mod]

theorem norm_twiddle_le (tw : ℕ) : ‖toC (shFftTwiddle tw)‖ ≤ 32768 := by
  have htable : ∀ k < 64, (shFftTwiddle k).1 * (shFftTwiddle k).1 + (shFftTwiddle k).2 * (shFftTwiddle k).2 ≤
      32768 * 32768 := by decide
  have hsq := htable (tw % 64) (Nat.mod_lt _ (by norm_num))
  rw [← shFftTwiddle_mod tw] at hsq
  have hreal : ((shFftTwiddle tw).1 : ℝ) * (shFftTwiddle tw).1 + (shFftTwiddle tw).2 * (shFftTwiddle tw).2 ≤
      32768 * 32768 := by exact_mod_cast hsq
  rw [Complex.norm_def, Complex.normSq_apply, Real.sqrt_le_left (by norm_num)]
  simpa [toC, sq] using hreal

theorem norm_turned_le (tw : ℕ) (y : Cell) : ‖toC (turned tw y)‖ ≤ ‖toC y‖ := by
  have htrunc : ‖toC (turned tw y)‖ ≤ ‖toC (halved y) * toC (shFftTwiddle tw) / 16384‖ := by
    apply norm_le_of_abs_le
    · simpa [toC, turned, abs_div] using
        abs_tdiv_le ((halved y).1 * (shFftTwiddle tw).1 - (halved y).2 * (shFftTwiddle tw).2) (d := 16384) (by norm_num)
    · simpa [toC, turned, abs_div] using
        abs_tdiv_le ((halved y).1 * (shFftTwiddle tw).2 + (halved y).2 * (shFftTwiddle tw).1) (d := 16384) (by norm_num)
  calc ‖toC (turned tw y)‖ ≤ ‖toC (halved y)‖ * ‖toC (shFftTwiddle tw)‖ / 16384 := by
        simpa using htrunc
    _ ≤ ‖toC y‖ / 2 * 32768 / 16384 := by
        have := mul_le_mul (norm_halved_le y) (norm_twiddle_le tw) (norm_nonneg _) (by positivity)
        linarith
    _ = ‖toC y‖ := by ring

theorem norm_twist_le (tw : ℕ) (x y : Cell) (c : ℂ) :
    ‖toC (twist tw x y).1 - c / 2‖ ≤ ‖toC x - c‖ / 2 + ‖toC y‖ + (if c = 0 then 0 else 1) ∧
      ‖toC (twist tw x y).2 - c / 2‖ ≤ ‖toC x - c‖ / 2 + ‖toC y‖ + (if c = 0 then 0 else 1) := by
  have hhalf : ‖toC (halved x) - c / 2‖ ≤ ‖toC x - c‖ / 2 + (if c = 0 then 0 else 1) := by
    split_ifs with hc
    · simpa [hc] using norm_halved_le x
    · have hsplit : toC (halved x) - c / 2 = (toC (halved x) - toC x / 2) + (toC x - c) / 2 := by ring
      have htri := norm_add_le (toC (halved x) - toC x / 2) ((toC x - c) / 2)
      have hround := norm_halved_sub_le x
      rw [norm_div, Complex.norm_ofNat] at htri
      rw [hsplit]
      linarith
  have hturn := norm_turned_le tw y
  have hfst : toC (twist tw x y).1 - c / 2 = (toC (halved x) - c / 2) + toC (turned tw y) := by
    rw [twist, toC_add]
    ring
  have hsnd : toC (twist tw x y).2 - c / 2 = (toC (halved x) - c / 2) - toC (turned tw y) := by
    rw [twist, toC_sub]
    ring
  rw [hfst, hsnd]
  have hadd := norm_add_le (toC (halved x) - c / 2) (toC (turned tw y))
  have hsub := norm_sub_le (toC (halved x) - c / 2) (toC (turned tw y))
  constructor <;> linarith

end Norms

section Spread

/-- Before stage `s` the block `g` is within `r g` of its centre; only the first block has one. -/
def Near (c : ℂ) (s : ℕ) (r : ℕ → ℝ) (a : Frame) : Prop :=
  ∀ g < 64 / 2 ^ s, ∀ m < 2 ^ s, ‖toC (cell a (g * 2 ^ s + m)) - (if g = 0 then c / 2 ^ s else 0)‖ ≤ r g

/-- What the radii become: halves of the even blocks, all of the odd ones, and the rounding of
the centre. -/
noncomputable def spread (r : ℕ → ℝ) : ℕ → ℕ → ℝ
  | 0, g => r g
  | s + 1, g => spread r s (2 * g) / 2 + spread r s (2 * g + 1) + if g = 0 then 1 else 0

theorem spread_succ (r : ℕ → ℝ) (s g : ℕ) :
    spread r (s + 1) g = spread r s (2 * g) / 2 + spread r s (2 * g + 1) + if g = 0 then 1 else 0 := rfl

theorem near_fftStage {c : ℂ} {s : ℕ} (hs : s < 6) {r : ℕ → ℝ} {a : Frame} (ha : Full a)
    (h : Near c s (spread r s) a) : Near c (s + 1) (spread r (s + 1)) (fftStage a (2 ^ (s + 1))) := by
  intro g hg j hj
  have hblocks : 2 * g + 1 < 64 / 2 ^ s := by
    interval_cases s <;> omega
  have hcell := cell_fftStage_mod hs ha hg hj
  have hm : j % 2 ^ s < 2 ^ s := Nat.mod_lt _ (Nat.two_pow_pos s)
  generalize j % 2 ^ s = m at hcell hm
  have heven := h (2 * g) (by omega) m hm
  have hodd := h (2 * g + 1) hblocks m hm
  rw [if_neg (by omega), sub_zero] at hodd
  have htwist := norm_twist_le (m * 64 / 2 ^ (s + 1)) (cell a (2 * g * 2 ^ s + m))
    (cell a ((2 * g + 1) * 2 ^ s + m)) (if g = 0 then c / 2 ^ s else 0)
  have hzero : (2 * g = 0) = (g = 0) := by rw [mul_eq_zero_iff_left (by norm_num)]
  simp only [hzero] at heven
  -- The centre is only rounded where there is one.
  have hround : (if (if g = 0 then c / 2 ^ s else (0 : ℂ)) = 0 then (0 : ℝ) else 1) ≤ if g = 0 then 1 else 0 := by
    by_cases hg0 : g = 0
    · rw [if_pos hg0, if_pos hg0]
      split_ifs <;> norm_num
    · rw [if_neg hg0, if_neg hg0, if_pos rfl]
  have hcentre : (if g = 0 then c / 2 ^ s else (0 : ℂ)) / 2 = if g = 0 then c / 2 ^ (s + 1) else 0 := by
    split_ifs
    · rw [pow_succ, div_div]
    · exact zero_div 2
  rw [hcentre] at htwist
  rw [hcell, spread_succ]
  by_cases hlow : j < 2 ^ s
  · rw [if_pos hlow]
    linarith [htwist.1]
  · rw [if_neg hlow]
    linarith [htwist.2]

def weight : ℕ → ℕ → ℕ
  | 0, _ => 1
  | s + 1, j => if j < 2 ^ s then weight s j else 2 * weight s (j - 2 ^ s)

theorem sum_weight_succ (s : ℕ) (f : ℕ → ℝ) :
    ∑ j ∈ Finset.range (2 ^ (s + 1)), weight (s + 1) j * f j =
      ∑ j ∈ Finset.range (2 ^ s), weight s j * f j + 2 * ∑ j ∈ Finset.range (2 ^ s), weight s j * f (2 ^ s + j) := by
  have hlow : ∑ j ∈ Finset.range (2 ^ s), (weight (s + 1) j : ℝ) * f j =
      ∑ j ∈ Finset.range (2 ^ s), weight s j * f j := by
    apply Finset.sum_congr rfl
    intro j hj
    rw [weight, if_pos (Finset.mem_range.mp hj)]
  have hhigh : ∑ j ∈ Finset.range (2 ^ s), (weight (s + 1) (2 ^ s + j) : ℝ) * f (2 ^ s + j) =
      2 * ∑ j ∈ Finset.range (2 ^ s), weight s j * f (2 ^ s + j) := by
    rw [Finset.mul_sum]
    apply Finset.sum_congr rfl
    intro j _
    rw [weight, if_neg (by omega), Nat.add_sub_cancel_left]
    push_cast
    ring
  rw [pow_succ, mul_two, Finset.sum_range_add, hlow, hhigh]

theorem spread_eq (r : ℕ → ℝ) (s g : ℕ) :
    spread r s g = (∑ j ∈ Finset.range (2 ^ s), weight s j * r (g * 2 ^ s + j)) / 2 ^ s +
      if g = 0 then 2 - 2 / 2 ^ s else 0 := by
  induction s generalizing g with
  | zero => simp [spread, weight]
  | succ s ih =>
    have heven (j : ℕ) : 2 * g * 2 ^ s + j = g * 2 ^ (s + 1) + j := by ring
    have hodd (j : ℕ) : (2 * g + 1) * 2 ^ s + j = g * 2 ^ (s + 1) + (2 ^ s + j) := by ring
    have hzero : (2 * g = 0) = (g = 0) := by rw [mul_eq_zero_iff_left (by norm_num)]
    rw [spread_succ, ih, ih, if_neg (by omega : 2 * g + 1 ≠ 0),
      sum_weight_succ s (fun j => r (g * 2 ^ (s + 1) + j))]
    simp only [heven, hodd, hzero]
    have hpow : (2 : ℝ) ^ s ≠ 0 := by positivity
    split_ifs <;> field_simp <;> ring

theorem weight_rev6 : ∀ j < 64, weight 6 j = 2 ^ ones (rev6 j) := by
  decide

theorem rev6_involutive : ∀ j < 64, rev6 j < 64 ∧ rev6 (rev6 j) = j ∧ (rev6 j = 0 ↔ j = 0) := by
  decide

theorem sum_rev6 {M : Type} [AddCommMonoid M] (f : ℕ → M) :
    ∑ j ∈ Finset.range 64, f (rev6 j) = ∑ n ∈ Finset.range 64, f n := by
  have hmem : ∀ j ∈ Finset.range 64, rev6 j ∈ Finset.range 64 := fun j hj =>
    Finset.mem_range.mpr (rev6_involutive j (Finset.mem_range.mp hj)).1
  have hinv : ∀ j ∈ Finset.range 64, rev6 (rev6 j) = j := fun j hj =>
    (rev6_involutive j (Finset.mem_range.mp hj)).2.1
  exact Finset.sum_nbij' rev6 rev6 hmem hmem hinv hinv (fun _ _ => rfl)

def sampleRadius (a : Frame) (j : ℕ) : ℝ := if rev6 j = 0 then 0 else mass (cell a (rev6 j))

theorem near_bitReverse {a : Frame} (ha : Full a) :
    Near (toC (cell a 0)) 0 (spread (sampleRadius a) 0) (bitReverse a) := by
  intro g hg m hm
  obtain rfl : m = 0 := by omega
  rw [show g * 2 ^ 0 + 0 = g by ring, (cell_bitReverse ha).2 g hg]
  rw [spread, sampleRadius]
  simp only [(rev6_involutive g hg).2.2]
  by_cases hg0 : g = 0
  · subst hg0
    simp [rev6]
  · rw [if_neg hg0, if_neg hg0, sub_zero]
    exact norm_toC_le _

theorem near_afterStages {c : ℂ} {r : ℕ → ℝ} {a : Frame} (ha : Full a) (h0 : Near c 0 (spread r 0) (bitReverse a))
    {s : ℕ} (hs : s ≤ 6) : Near c s (spread r s) (afterStages a s) :=
  (afterStages_invariant ha (fun s => Near c s (spread r s)) h0
    (fun _ hs _ hfull hnear => near_fftStage hs hfull hnear) hs).2

theorem bin_near_first {a : Frame} (ha : Full a) {k : ℕ} (hk : k < 64) :
    ‖toC (cell (shFftRadix2 a) k) - toC (cell a 0) / 64‖ ≤
      (∑ n ∈ Finset.Ico 1 64, (2 : ℝ) ^ ones n * mass (cell a n)) / 64 + 2 - 1 / 32 := by
  have hnear := near_afterStages ha (near_bitReverse ha) le_rfl 0 (by norm_num) k hk
  let f (n : ℕ) : ℝ := if n = 0 then 0 else 2 ^ ones n * mass (cell a n)
  have hsum : ∑ j ∈ Finset.range (2 ^ 6), weight 6 j * sampleRadius a (0 * 2 ^ 6 + j) =
      ∑ j ∈ Finset.range 64, f (rev6 j) := by
    apply Finset.sum_congr rfl
    intro j hj
    have hj64 : j < 64 := Finset.mem_range.mp hj
    simp only [f, weight_rev6 j hj64, sampleRadius, zero_mul, zero_add]
    split_ifs
    · rw [mul_zero]
    · push_cast
      rfl
  have hlater : ∑ n ∈ Finset.range 64, f n = ∑ n ∈ Finset.Ico 1 64, (2 : ℝ) ^ ones n * mass (cell a n) := by
    rw [Finset.range_eq_Ico, Finset.sum_eq_sum_Ico_succ_bot (by norm_num)]
    simp only [f, if_true, zero_add]
    apply Finset.sum_congr rfl
    intro n hn
    rw [if_neg (by have := (Finset.mem_Ico.mp hn).1; omega)]
  rw [spread_eq, hsum, sum_rev6, hlater, if_pos rfl, if_pos rfl, zero_mul, zero_add, ← shFftRadix2_eq] at hnear
  norm_num at hnear ⊢
  linarith

end Spread

section Exact

def times (x w : Cell) : Cell := (x.1 * w.1 - x.2 * w.2, x.1 * w.2 + x.2 * w.1)

theorem toC_times (x w : Cell) : toC (times x w) = toC x * toC w := by
  apply Complex.ext <;> simp [toC, times]

/-- The factor of a sample in a block after `s` stages, at `65536 ^ s`. -/
def tap : ℕ → ℕ → ℕ → Cell
  | 0, _, _ => (1, 0)
  | s + 1, m, j =>
    if j < 2 ^ s then (32768 : ℤ) • tap s (m % 2 ^ s) j
    else (2 : ℤ) • times (tap s (m % 2 ^ s) (j - 2 ^ s)) (shFftTwiddle (m * 64 / 2 ^ (s + 1)))

def Tapped (x : ℕ → ℂ) (s : ℕ) (b : Frame) : Prop :=
  ∀ g < 64 / 2 ^ s, ∀ m < 2 ^ s,
    ‖toC (cell b (g * 2 ^ s + m)) - (∑ j ∈ Finset.range (2 ^ s), toC (tap s m j) * x (g * 2 ^ s + j)) / 65536 ^ s‖ ≤
      10 * ((3 / 2) ^ s - 1)

theorem toC_sum (I : Finset ℕ) (f : ℕ → Cell) : toC (∑ n ∈ I, f n) = ∑ n ∈ I, toC (f n) := by
  apply Complex.ext <;> simp [toC, Prod.fst_sum, Prod.snd_sum]

theorem dftSum_eq (a : Frame) (k : ℕ) :
    dftSum a k = ∑ n ∈ Finset.range 64, times (cell a n) (shFftTwiddle (n * k)) := by
  rw [Prod.ext_iff, Prod.fst_sum, Prod.snd_sum]
  exact ⟨rfl, rfl⟩

theorem exact_near_first (a : Frame) (k : ℕ) :
    ‖toC (dftSum a k) / (64 * 32768) - toC (cell a 0) / 64‖ ≤
      mass (cell a 0) / (64 * 32768) + (∑ n ∈ Finset.Ico 1 64, (mass (cell a n) : ℝ)) / 64 := by
  have hfirst : toC (shFftTwiddle (0 * k)) = 32767 := by
    rw [zero_mul]
    apply Complex.ext <;> simp [toC, shFftTwiddle, fftCos64Q15, fftSin64Q15]
  have hsplit : toC (dftSum a k) / (64 * 32768) - toC (cell a 0) / 64 =
      -toC (cell a 0) / (64 * 32768) +
        (∑ n ∈ Finset.Ico 1 64, toC (cell a n) * toC (shFftTwiddle (n * k))) / (64 * 32768) := by
    rw [dftSum_eq, toC_sum, Finset.range_eq_Ico, Finset.sum_eq_sum_Ico_succ_bot (by norm_num)]
    simp only [toC_times, hfirst]
    ring
  have hlater : ‖∑ n ∈ Finset.Ico 1 64, toC (cell a n) * toC (shFftTwiddle (n * k))‖ ≤
      (∑ n ∈ Finset.Ico 1 64, (mass (cell a n) : ℝ)) * 32768 := by
    rw [Finset.sum_mul]
    apply norm_sum_le_of_le
    intro n _
    rw [norm_mul]
    exact mul_le_mul (norm_toC_le _) (norm_twiddle_le _) (norm_nonneg _) (Nat.cast_nonneg _)
  have htri := norm_add_le (-toC (cell a 0) / (64 * 32768))
    ((∑ n ∈ Finset.Ico 1 64, toC (cell a n) * toC (shFftTwiddle (n * k))) / (64 * 32768))
  have hmass := norm_toC_le (cell a 0)
  have hscale : ‖(64 * 32768 : ℂ)‖ = 64 * 32768 := by simp
  rw [norm_div, norm_div, norm_neg, hscale] at htri
  rw [hsplit]
  refine htri.trans ?_
  have h1 : ‖toC (cell a 0)‖ / (64 * 32768) ≤ mass (cell a 0) / (64 * 32768) := by gcongr
  have h2 : ‖∑ n ∈ Finset.Ico 1 64, toC (cell a n) * toC (shFftTwiddle (n * k))‖ / (64 * 32768) ≤
      (∑ n ∈ Finset.Ico 1 64, (mass (cell a n) : ℝ)) * 32768 / (64 * 32768) := by gcongr
  linarith

theorem bin_parts_le {x e : Cell} {b : ℚ} (h : ‖toC x - toC e / (64 * 32768)‖ ≤ b) :
    |(x.1 : ℚ) - e.1 / (64 * 32768)| ≤ b ∧ |(x.2 : ℚ) - e.2 / (64 * 32768)| ≤ b := by
  have hdiv : toC e / (64 * 32768) = ⟨e.1 / (64 * 32768), e.2 / (64 * 32768)⟩ := by
    have hscale : (64 * 32768 : ℂ) = ((64 * 32768 : ℝ) : ℂ) := by push_cast; rfl
    rw [hscale]
    apply Complex.ext
    · rw [Complex.div_ofReal_re]
      rfl
    · rw [Complex.div_ofReal_im]
      rfl
  rw [hdiv] at h
  have hre := (Complex.abs_re_le_norm _).trans h
  have him := (Complex.abs_im_le_norm _).trans h
  simp only [toC, Complex.sub_re, Complex.sub_im] at hre him
  exact ⟨by exact_mod_cast hre, by exact_mod_cast him⟩

theorem scaledDft_of_laterMass {a : Frame} (ha : Full a) (hfirst : mass (cell a 0) ≤ 32768)
    (hlater : laterMass a ≤ 1920) : ScaledDft a := by
  intro k hk
  apply bin_parts_le
  have hcode := bin_near_first ha hk
  have hexact := exact_near_first a k
  have htri := norm_sub_le_norm_sub_add_norm_sub (toC (cell (shFftRadix2 a) k)) (toC (cell a 0) / 64)
    (toC (dftSum a k) / (64 * 32768))
  rw [norm_sub_rev (toC (cell a 0) / 64)] at htri
  have hlater' : (∑ n ∈ Finset.Ico 1 64, (2 : ℝ) ^ ones n * mass (cell a n)) +
      ∑ n ∈ Finset.Ico 1 64, (mass (cell a n) : ℝ) ≤ 1920 := by
    rw [← Finset.sum_add_distrib]
    have hcast : ((laterMass a : ℕ) : ℝ) ≤ 1920 := by exact_mod_cast hlater
    rw [laterMass, Nat.cast_sum] at hcast
    refine le_trans (le_of_eq (Finset.sum_congr rfl fun n _ => ?_)) hcast
    push_cast
    ring
  have hfirst' : (mass (cell a 0) : ℝ) / (64 * 32768) ≤ 1 / 64 := by
    have : (mass (cell a 0) : ℝ) ≤ 32768 := by exact_mod_cast hfirst
    rw [div_le_div_iff₀ (by norm_num) (by norm_num)]
    linarith
  push_cast
  linarith

end Exact

end SmartHelmet.Vitals
