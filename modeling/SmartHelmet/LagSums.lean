import Mathlib

namespace SmartHelmet.LagSums

def partialSum (y : List ℤ) (lag k : ℕ) : ℤ := ∑ i ∈ Finset.range k, y.getD i 0 * y.getD (i + lag) 0

def energy (y : List ℤ) : ℤ := (y.map (fun v => v * v)).sum

theorem partialSum_length (y : List ℤ) : partialSum y 0 y.length = energy y := by
  change ((List.range y.length).map fun i => y.getD i 0 * y.getD (i + 0) 0).sum = energy y
  rw [energy]
  congr 1
  apply List.ext_getElem
  · simp
  · intro i h1 h2
    have hi : i < y.length := by simpa using h1
    simp [hi]

section Bounded

variable {y : List ℤ} {b : ℤ}

theorem abs_getD_le (hb : 0 ≤ b) (hy : ∀ v ∈ y, |v| ≤ b) (i : ℕ) : |y.getD i 0| ≤ b := by
  by_cases hi : i < y.length
  · rw [List.getD_eq_getElem _ _ hi]
    exact hy _ (List.getElem_mem hi)
  · rw [List.getD_eq_default _ _ (by omega)]
    simpa using hb

theorem abs_product_le (hb : 0 ≤ b) (hy : ∀ v ∈ y, |v| ≤ b) (i j : ℕ) : |y.getD i 0 * y.getD j 0| ≤ b * b := by
  rw [abs_mul]
  exact mul_le_mul (abs_getD_le hb hy i) (abs_getD_le hb hy j) (abs_nonneg _) hb

theorem abs_partialSum_le (hb : 0 ≤ b) (hy : ∀ v ∈ y, |v| ≤ b) (lag k : ℕ) :
    |partialSum y lag k| ≤ k * (b * b) := by
  calc |partialSum y lag k| ≤ ∑ i ∈ Finset.range k, |y.getD i 0 * y.getD (i + lag) 0| :=
        Finset.abs_sum_le_sum_abs _ _
    _ ≤ ∑ _i ∈ Finset.range k, b * b := Finset.sum_le_sum fun i _ => abs_product_le hb hy i (i + lag)
    _ = k * (b * b) := by rw [Finset.sum_const, Finset.card_range, nsmul_eq_mul]

end Bounded

theorem partialSum_le_energy (y : List ℤ) {lag k : ℕ} (h : lag + k ≤ y.length) : partialSum y lag k ≤ energy y := by
  have hwhole {m : ℕ} (hm : m ≤ y.length) :
      ∑ i ∈ Finset.range m, y.getD i 0 * y.getD i 0 ≤ energy y := by
    rw [← partialSum_length, partialSum]
    exact Finset.sum_le_sum_of_subset_of_nonneg (Finset.range_mono hm) fun i _ _ => mul_self_nonneg _
  have hfront := hwhole (show k ≤ y.length by omega)
  have hback : ∑ i ∈ Finset.range k, y.getD (i + lag) 0 * y.getD (i + lag) 0 ≤ energy y := by
    have hsplit := Finset.sum_range_add (fun i => y.getD i 0 * y.getD i 0) lag k
    have hnonneg : 0 ≤ ∑ i ∈ Finset.range lag, y.getD i 0 * y.getD i 0 :=
      Finset.sum_nonneg fun i _ => mul_self_nonneg _
    simp only [Nat.add_comm lag] at hsplit
    have := hwhole (show k + lag ≤ y.length by omega)
    omega
  have hmean : 2 * partialSum y lag k ≤ ∑ i ∈ Finset.range k, y.getD i 0 * y.getD i 0 +
      ∑ i ∈ Finset.range k, y.getD (i + lag) 0 * y.getD (i + lag) 0 := by
    rw [partialSum, Finset.mul_sum, ← Finset.sum_add_distrib]
    apply Finset.sum_le_sum
    intro i _
    nlinarith [mul_self_nonneg (y.getD i 0 - y.getD (i + lag) 0)]
  omega

end SmartHelmet.LagSums
