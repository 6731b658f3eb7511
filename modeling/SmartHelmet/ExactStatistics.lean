import SmartHelmet.MagnitudeWindow

namespace SmartHelmet.Vitals

open Config MachineArith

/-- The values of `res` and `one` that the second loop of `shSqrtU32` adds. -/
def sqrtVisits : ℕ → ℕ → ℕ → ℕ → List (ℕ × ℕ)
  | 0, _, _, _ => []
  | fuel + 1, op, res, one =>
    if one = 0 then []
    else (res, one) ::
      if op ≥ res + one then sqrtVisits fuel (op - (res + one)) (res / 2 + one) (one / 4)
      else sqrtVisits fuel op (res / 2) (one / 4)

def sqrtSums (v : ℕ) : List (ℕ × ℕ) := sqrtVisits 16 v 0 (sqrtSkip v 16 (2 ^ 30))

def exactEnergy (x : List ℤ) : ℕ := min 65535 ((x.map (fun v => v.natAbs * v.natAbs)).sum / x.length)

def exactRmsDev (buf : List ℕ) : ℕ :=
  let mean := buf.sum / buf.length
  Nat.sqrt ((buf.map (fun v : ℕ => ((v : ℤ) - mean).natAbs * ((v : ℤ) - mean).natAbs)).sum / buf.length)

section Sqrt

theorem add_lt_of_digits {v k root : ℕ} (hk : k ≤ 15) (hv : v < 2 ^ 32) (hroot : root * root ≤ v)
    (hdvd : 2 ^ (k + 1) ∣ root) : root * 2 ^ (k + 1) + 4 ^ k < 2 ^ 32 := by
  have hone : 4 ^ k ≤ 4 ^ 15 := Nat.pow_le_pow_right (by norm_num) hk
  rcases Nat.eq_zero_or_pos root with rfl | hpos
  · rw [Nat.zero_mul]
    omega
  · have hle := Nat.le_of_dvd hpos hdvd
    have hlt : root < 2 ^ 16 := by nlinarith
    have hbits : k + 1 < 16 := (Nat.pow_lt_pow_iff_right (by norm_num)).mp (hle.trans_lt hlt)
    have hpow : 2 ^ (k + 1) ≤ 2 ^ 15 := Nat.pow_le_pow_right (by norm_num) (by omega)
    have := Nat.mul_le_mul hlt.le hpow
    omega

theorem sqrtVisits_lt {v : ℕ} (hv : v < 2 ^ 32) (k : ℕ) (hk : k ≤ 15) : ∀ fuel root op, op + root * root = v →
    2 ^ (k + 1) ∣ root → ∀ p ∈ sqrtVisits fuel op (root * 2 ^ (k + 1)) (4 ^ k), p.1 + p.2 < 2 ^ 32 := by
  have hend (op res : ℕ) : ∀ fuel, sqrtVisits fuel op res 0 = [] := by
    intro fuel
    cases fuel <;> rfl
  induction k with
  | zero =>
    intro fuel root op hop hdvd p hp
    cases fuel with
    | zero => exact absurd hp List.not_mem_nil
    | succ fuel =>
      rw [sqrtVisits, if_neg (by norm_num), show 4 ^ 0 / 4 = 0 from rfl, hend, hend, ite_self] at hp
      rw [List.mem_singleton.mp hp]
      exact add_lt_of_digits hk hv (by omega) hdvd
  | succ k ih =>
    intro fuel root op hop hdvd p hp
    cases fuel with
    | zero => exact absurd hp List.not_mem_nil
    | succ fuel =>
      have hone : 4 ^ (k + 1) / 4 = 4 ^ k := by rw [pow_succ]; omega
      have hhalf : root * 2 ^ (k + 1 + 1) / 2 = root * 2 ^ (k + 1) := by
        rw [pow_succ 2 (k + 1), ← mul_assoc, Nat.mul_div_cancel _ (by norm_num)]
      have hdvd' : 2 ^ (k + 1) ∣ root := (Nat.pow_dvd_pow 2 (by omega)).trans hdvd
      rw [sqrtVisits, if_neg (by positivity), hone, hhalf] at hp
      rcases List.mem_cons.mp hp with rfl | hp
      · exact add_lt_of_digits hk hv (by omega) hdvd
      · split_ifs at hp with hge
        · have hsq : 4 ^ (k + 1) = 2 ^ (k + 1) * 2 ^ (k + 1) := mul_pow 2 2 (k + 1)
          have hnext : root * 2 ^ (k + 1) + 4 ^ (k + 1) = (root + 2 ^ (k + 1)) * 2 ^ (k + 1) := by
            rw [hsq]
            ring
          have hop' : op - (root * 2 ^ (k + 1 + 1) + 4 ^ (k + 1)) +
              (root + 2 ^ (k + 1)) * (root + 2 ^ (k + 1)) = v := by
            have : (root + 2 ^ (k + 1)) * (root + 2 ^ (k + 1)) =
                root * root + (root * 2 ^ (k + 1 + 1) + 4 ^ (k + 1)) := by
              rw [hsq, pow_succ 2 (k + 1)]
              ring
            omega
          rw [hnext] at hp
          exact ih (by omega) fuel _ _ hop' (Nat.dvd_add hdvd' dvd_rfl) p hp
        · exact ih (by omega) fuel root op hop hdvd' p hp

theorem sqrtSums_lt {v : ℕ} (hv : v < 2 ^ 32) : ∀ p ∈ sqrtSums v, p.1 + p.2 < 2 ^ 32 := by
  rw [sqrtSums, show (2 : ℕ) ^ 30 = 4 ^ 15 by norm_num]
  rcases sqrtSkip_spec v 15 (by norm_num; omega) with ⟨-, he⟩ | ⟨i, hi, -, he⟩
  · rw [he]
    intro p hp
    exact absurd hp List.not_mem_nil
  · rw [he]
    have := sqrtVisits_lt hv i hi 16 0 v (by omega) (dvd_zero _)
    rwa [Nat.zero_mul] at this

end Sqrt

section Saturation

theorem mean_of_cut (sum : ℕ) {n limit : ℕ} (hn : 0 < n) (hlimit : limit * n ≤ 4294967295) :
    min sum 4294967295 / n = sum / n ∨ limit ≤ min sum 4294967295 / n ∧ limit ≤ sum / n := by
  rcases le_total sum 4294967295 with h | h
  · rw [min_eq_left h]
    exact Or.inl rfl
  · rw [min_eq_right h]
    exact Or.inr ⟨(Nat.le_div_iff_mul_le hn).mpr hlimit, (Nat.le_div_iff_mul_le hn).mpr (hlimit.trans h)⟩

theorem u32OfInt_square {v : ℤ} (h : v.natAbs ≤ 46340) : u32OfInt (v * v) = v.natAbs * v.natAbs := by
  have hsq : v * v = ((v.natAbs * v.natAbs : ℕ) : ℤ) := by
    rw [Nat.cast_mul, Int.natAbs_mul_self']
  have hlt : v.natAbs * v.natAbs ≤ 46340 * 46340 := Nat.mul_le_mul h h
  rw [u32OfInt, hsq, Int.emod_eq_of_lt (by positivity) (by omega), Int.toNat_natCast]

theorem shEnergyI16_eq {x : List ℤ} (hx : ∀ v ∈ x, -32768 ≤ v ∧ v ≤ 32767) (hlen : 1 ≤ x.length)
    (hlen' : x.length ≤ 255) : shEnergyI16 x = exactEnergy x := by
  have hfold := foldl_shAccSat (fun v : ℤ => u32OfInt (v * v)) (fun v => by unfold u32OfInt; omega) x 0 (by norm_num)
  have hterms : x.map (fun v => u32OfInt (v * v)) = x.map (fun v => v.natAbs * v.natAbs) := by
    apply List.map_congr_left
    intro v hv
    have := hx v hv
    exact u32OfInt_square (by omega)
  rw [Nat.zero_add, hterms] at hfold
  rw [shEnergyI16, if_neg (by omega), hfold, exactEnergy]
  dsimp only
  rcases mean_of_cut (x.map (fun v => v.natAbs * v.natAbs)).sum hlen
    (show 65536 * x.length ≤ 4294967295 by omega) with h | ⟨h, h'⟩
  · rw [h]
    split_ifs <;> omega
  · rw [if_pos (by omega)]
    omega

theorem shRmsDevU16_threshold {buf : List ℕ} (hlen : buf.length ≤ 25) (hbuf : ∀ m ∈ buf, m ≤ 46340) :
    fallRmsMg ≤ shRmsDevU16 buf ↔ fallRmsMg ≤ exactRmsDev buf := by
  by_cases hne : buf = []
  · subst hne
    rfl
  have hpos := List.length_pos_iff.mpr hne
  have hsum : buf.sum ≤ 46340 * buf.length := by
    have := List.sum_le_card_nsmul buf 46340 hbuf
    rwa [smul_eq_mul, Nat.mul_comm] at this
  have hmean : buf.sum / buf.length ≤ 46340 := Nat.div_le_of_le_mul (by rwa [Nat.mul_comm])
  have hterms : buf.map (deviationTerm (u32 buf.sum / buf.length)) =
      buf.map (fun v : ℕ => ((v : ℤ) - (buf.sum / buf.length : ℕ)).natAbs *
        ((v : ℤ) - (buf.sum / buf.length : ℕ)).natAbs) := by
    rw [u32, Nat.mod_eq_of_lt (by omega)]
    apply List.map_congr_left
    intro v hv
    have := hbuf v hv
    generalize buf.sum / buf.length = mean at hmean ⊢
    exact u32OfInt_square (by omega)
  rw [shRmsDevU16_eq buf hne, hterms, exactRmsDev]
  generalize (buf.map (fun v : ℕ => ((v : ℤ) - (buf.sum / buf.length : ℕ)).natAbs *
    ((v : ℤ) - (buf.sum / buf.length : ℕ)).natAbs)).sum = s
  have hquot : min s 4294967295 / buf.length < 4294967296 := (Nat.div_le_self _ _).trans_lt (by omega)
  rw [shSqrtU32_eq_sqrt hquot, Nat.le_sqrt, Nat.le_sqrt]
  rcases mean_of_cut s hpos (show 48400 * buf.length ≤ 4294967295 by omega) with h | ⟨h, h'⟩
  · rw [h]
  · exact iff_of_true h h'

end Saturation

/-- Saturation is never visible. -/
theorem statistics_exact (v : ℕ) (hv : v < 2 ^ 32) (x : List ℤ) (hx : ∀ a ∈ x, -32768 ≤ a ∧ a ≤ 32767)
    (hlen : 1 ≤ x.length ∧ x.length ≤ 255) (buf : List ℕ) (hbuf : buf.length ≤ 25 ∧ ∀ m ∈ buf, m ≤ 46340) :
    (shSqrtU32 v = Nat.sqrt v ∧ ∀ p ∈ sqrtSums v, p.1 + p.2 < 2 ^ 32) ∧ shEnergyI16 x = exactEnergy x ∧
      (fallRmsMg ≤ shRmsDevU16 buf ↔ fallRmsMg ≤ exactRmsDev buf) :=
  ⟨⟨shSqrtU32_eq_sqrt (by omega), sqrtSums_lt hv⟩, shEnergyI16_eq hx hlen.1 hlen.2,
    shRmsDevU16_threshold hbuf.1 hbuf.2⟩

theorem statistics_exact_cut :
    (shSqrtU32 4294967295 = Nat.sqrt 4294967295 ∧ ∀ p ∈ sqrtSums 4294967295, p.1 + p.2 < 2 ^ 32) ∧
      shEnergyI16 [-32768, -32768, -32768, -32768, -32768] = 65535 ∧
      (fallRmsMg ≤ shRmsDevU16 [0, 46340, 0, 46340, 0, 46340, 0, 46340, 0, 46340] ↔
        fallRmsMg ≤ exactRmsDev [0, 46340, 0, 46340, 0, 46340, 0, 46340, 0, 46340]) :=
  statistics_exact 4294967295 (by norm_num) [-32768, -32768, -32768, -32768, -32768] (by decide) (by decide)
    [0, 46340, 0, 46340, 0, 46340, 0, 46340, 0, 46340] (by decide)

end SmartHelmet.Vitals
