import SmartHelmet.WindowProcess

namespace SmartHelmet.Vitals

open Config MachineArith

theorem shAccSat_eq_min {s t : ℕ} (hs : s ≤ 4294967295) (ht : t ≤ 4294967295) :
    shAccSat s t = min (s + t) 4294967295 := by
  unfold shAccSat u32
  dsimp only
  split_ifs <;> omega

theorem foldl_shAccSat {α : Type} (f : α → ℕ) (hf : ∀ a, f a ≤ 4294967295) (xs : List α) (s : ℕ)
    (hs : s ≤ 4294967295) :
    xs.foldl (fun s a => shAccSat s (f a)) s = min (s + (xs.map f).sum) 4294967295 := by
  induction xs generalizing s with
  | nil => simp only [List.foldl_nil, List.map_nil, List.sum_nil]; omega
  | cons a xs ih =>
    rw [List.foldl_cons, shAccSat_eq_min hs (hf a), ih _ (by omega), List.map_cons, List.sum_cons]
    omega

theorem foldl_u32 (xs : List ℕ) (s : ℕ) (hs : s < 4294967296) :
    xs.foldl (fun s v => u32 (s + v)) s = u32 (s + xs.sum) := by
  induction xs generalizing s with
  | nil => simp only [List.foldl_nil, List.sum_nil, add_zero, u32]; omega
  | cons v xs ih =>
    have hlt : u32 (s + v) < 4294967296 := Nat.mod_lt _ (by norm_num)
    rw [List.foldl_cons, ih _ hlt, List.sum_cons]
    simp only [u32, Nat.mod_add_mod, add_assoc]

def deviationTerm (mean v : ℕ) : ℕ := u32OfInt (((v : ℤ) - (mean : ℤ)) * ((v : ℤ) - (mean : ℤ)))

theorem deviationTerm_le (mean v : ℕ) : deviationTerm mean v ≤ 4294967295 := by
  unfold deviationTerm u32OfInt
  omega

theorem shRmsDevU16_eq (xs : List ℕ) (h : xs ≠ []) :
    shRmsDevU16 xs = shSqrtU32 (min ((xs.map (deviationTerm (u32 xs.sum / xs.length))).sum) 4294967295 /
      xs.length) := by
  have hlen : xs.length ≠ 0 := fun h0 => h (List.length_eq_zero_iff.mp h0)
  have hsum := foldl_u32 xs 0 (by norm_num)
  have hdev := foldl_shAccSat (deviationTerm (u32 xs.sum / xs.length))
    (deviationTerm_le _) xs 0 (by norm_num)
  rw [zero_add] at hsum hdev
  rw [shRmsDevU16, if_neg hlen]
  dsimp only
  rw [hsum]
  exact congrArg (fun n => shSqrtU32 (n / xs.length)) hdev

theorem shRmsDevU16_perm {xs ys : List ℕ} (h : xs.Perm ys) : shRmsDevU16 xs = shRmsDevU16 ys := by
  by_cases hx : xs = []
  · subst hx
    rw [h.nil_eq]
  · have hy : ys ≠ [] := fun hy => hx (List.Perm.eq_nil (hy ▸ h))
    rw [shRmsDevU16_eq xs hx, shRmsDevU16_eq ys hy, h.sum_eq, h.length_eq]
    rw [(h.map (deviationTerm (u32 ys.sum / ys.length))).sum_eq]

theorem scanLeast_spec {α : Type} [LinearOrder α] (x : α) (xs : List α) :
    let r := xs.foldl (fun m v => if v < m then v else m) x
    r ∈ x :: xs ∧ ∀ y ∈ x :: xs, r ≤ y := by
  induction xs generalizing x with
  | nil => simp
  | cons y ys ih =>
    obtain ⟨hmem, hall⟩ := ih (if y < x then y else x)
    simp only [List.foldl_cons, List.mem_cons, forall_eq_or_imp] at hmem hall ⊢
    split_ifs at hmem hall ⊢ with hlt
    · exact ⟨by tauto, hall.1.trans hlt.le, hall.1, hall.2⟩
    · exact ⟨by tauto, hall.1, hall.1.trans (not_lt.mp hlt), hall.2⟩

theorem magMin_spec {xs : List ℕ} (h : xs ≠ []) : magMin xs ∈ xs ∧ ∀ x ∈ xs, magMin xs ≤ x := by
  cases xs with
  | nil => exact absurd rfl h
  | cons x xs => exact scanLeast_spec x xs

theorem magPeak_spec {xs : List ℕ} (h : xs ≠ []) : magPeak xs ∈ xs ∧ ∀ x ∈ xs, x ≤ magPeak xs := by
  cases xs with
  | nil => exact absurd rfl h
  | cons x xs => exact scanLeast_spec (α := ℕᵒᵈ) x xs

theorem fallWindow_perm {xs ys : List ℕ} (h : xs.Perm ys) : fallWindow xs = fallWindow ys := by
  by_cases hx : xs = []
  · subst hx
    rw [h.nil_eq]
  · have hy : ys ≠ [] := fun hy => hx (List.Perm.eq_nil (hy ▸ h))
    obtain ⟨hminx, hlex⟩ := magMin_spec hx
    obtain ⟨hminy, hley⟩ := magMin_spec hy
    obtain ⟨hpkx, hgex⟩ := magPeak_spec hx
    obtain ⟨hpky, hgey⟩ := magPeak_spec hy
    have hmin : magMin xs = magMin ys :=
      le_antisymm (hlex _ (h.mem_iff.mpr hminy)) (hley _ (h.mem_iff.mp hminx))
    have hpeak : magPeak xs = magPeak ys :=
      le_antisymm (hgey _ (h.mem_iff.mp hpkx)) (hgex _ (h.mem_iff.mpr hpky))
    unfold fallWindow
    rw [shRmsDevU16_perm h, hmin, hpeak]

theorem sum_sq_deviation_le (xs : List ℕ) (lo hi m : ℤ) (h : ∀ x ∈ xs, lo ≤ (x : ℤ) ∧ (x : ℤ) ≤ hi) :
    (xs.map (fun x : ℕ => ((x : ℤ) - m) * ((x : ℤ) - m))).sum ≤
      (lo + hi - 2 * m) * (xs.sum : ℤ) - xs.length * (lo * hi) + xs.length * (m * m) := by
  induction xs with
  | nil => simp
  | cons x xs ih =>
    have hx := h x List.mem_cons_self
    have hrest := ih (fun y hy => h y (List.mem_cons_of_mem _ hy))
    have hprod : 0 ≤ ((x : ℤ) - lo) * (hi - x) := mul_nonneg (by omega) (by omega)
    simp only [List.map_cons, List.sum_cons, List.length_cons, Nat.cast_add, Nat.cast_one]
    linarith

theorem natCast_deviationTerm_sum (xs : List ℕ) (mean : ℕ) (hx : ∀ x ∈ xs, x ≤ 65535)
    (hm : mean ≤ 65535) :
    (((xs.map (deviationTerm mean)).sum : ℕ) : ℤ) =
      (xs.map (fun x : ℕ => ((x : ℤ) - mean) * ((x : ℤ) - mean))).sum := by
  induction xs with
  | nil => rfl
  | cons x xs ih =>
    have hterm : ((deviationTerm mean x : ℕ) : ℤ) = ((x : ℤ) - mean) * ((x : ℤ) - mean) := by
      have hxb := hx x List.mem_cons_self
      have hlo : 0 ≤ ((x : ℤ) - mean) * ((x : ℤ) - mean) := mul_self_nonneg _
      have hhi : ((x : ℤ) - mean) * ((x : ℤ) - mean) ≤ 65535 * 65535 := by nlinarith
      unfold deviationTerm u32OfInt
      omega
    simp only [List.map_cons, List.sum_cons, Nat.cast_add]
    rw [hterm, ih (fun y hy => hx y (List.mem_cons_of_mem _ hy))]

theorem half_range_bound (n d r lo : ℤ) (hr : 0 ≤ r) (hrn : r < n) (hd : 0 ≤ d) :
    (lo + (lo + 399) - 2 * (lo + d)) * (n * (lo + d) + r) - n * (lo * (lo + 399)) +
      n * ((lo + d) * (lo + d)) ≤ 40199 * n := by
  have hhalf : d * (399 - d) ≤ 39800 := by
    rcases le_or_gt d 199 with h | h <;> nlinarith
  have hfirst : n * (d * (399 - d)) ≤ n * 39800 := mul_le_mul_of_nonneg_left hhalf (by omega)
  have hrest : 0 ≤ d * r := mul_nonneg hd hr
  calc (lo + (lo + 399) - 2 * (lo + d)) * (n * (lo + d) + r) - n * (lo * (lo + 399)) +
        n * ((lo + d) * (lo + d))
      = n * (d * (399 - d)) + (399 * r - 2 * (d * r)) := by ring
    _ ≤ n * 39800 + 399 * n := by omega
    _ = 40199 * n := by ring

theorem shRmsDevU16_lt_of_swing {xs : List ℕ} (hlen : xs.length ≤ motionWin)
    (hmag : ∀ x ∈ xs, x < fallImpactMg) (hswing : ∀ x ∈ xs, ∀ y ∈ xs, x < y + fallSwingMg) :
    shRmsDevU16 xs < fallRmsMg := by
  by_cases hne : xs = []
  · subst hne
    decide
  simp only [motionWin, fallImpactMg, fallSwingMg, fallRmsMg] at hlen hmag hswing ⊢
  obtain ⟨hmem, hmin⟩ := magMin_spec hne
  have hpos : 0 < xs.length := List.length_pos_of_ne_nil hne
  have hsum : xs.sum ≤ xs.length * 1299 := by
    have := List.sum_le_card_nsmul xs 1299 (fun x hx => by have := hmag x hx; omega)
    simpa using this
  have hfit : u32 xs.sum = xs.sum := Nat.mod_eq_of_lt (by omega)
  rw [shRmsDevU16_eq xs hne, hfit]
  set lo : ℕ := magMin xs
  set n : ℕ := xs.length
  set m : ℕ := xs.sum / n
  have hmle : m ≤ 1299 := Nat.div_le_of_le_mul hsum
  have hdivmod : n * m + xs.sum % n = xs.sum := Nat.div_add_mod xs.sum n
  have hrem : xs.sum % n < n := Nat.mod_lt _ hpos
  have hbound : ∀ x ∈ xs, (lo : ℤ) ≤ (x : ℤ) ∧ (x : ℤ) ≤ (lo : ℤ) + 399 := by
    intro x hx
    have h1 := hmin x hx
    have h2 := hswing x hx _ hmem
    omega
  have hvar := sum_sq_deviation_le xs lo (lo + 399) m hbound
  rw [← natCast_deviationTerm_sum xs m (fun x hx => by have := hmag x hx; omega) (by omega)] at hvar
  have hlom : lo ≤ m := by
    have := List.card_nsmul_le_sum xs lo hmin
    rw [smul_eq_mul] at this
    exact (Nat.le_div_iff_mul_le hpos).mpr (by rw [mul_comm]; exact this)
  have hmean : (xs.map (deviationTerm m)).sum ≤ 40199 * n := by
    have hS : (xs.sum : ℤ) = n * m + (xs.sum % n : ℕ) := by exact_mod_cast hdivmod.symm
    obtain ⟨d, hd⟩ : ∃ d : ℕ, m = lo + d := ⟨m - lo, by omega⟩
    have hmz : (m : ℤ) = lo + d := by exact_mod_cast hd
    rw [hS, hmz] at hvar
    have hrange := half_range_bound n d (xs.sum % n : ℕ) lo (by omega) (by omega) (by omega)
    have := hvar.trans hrange
    exact_mod_cast this
  have hdiv : min ((xs.map (deviationTerm m)).sum) 4294967295 / n ≤ 40199 :=
    Nat.div_le_of_le_mul (by rw [mul_comm]; omega)
  rw [shSqrtU32_eq_sqrt (by omega)]
  exact Nat.sqrt_lt.mpr (by omega)

end SmartHelmet.Vitals
