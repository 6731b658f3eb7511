import Mathlib

/-!
The accumulator of a one-sided CUSUM: a sum of increments that is held at zero from below. It is
the largest sum over the newest increments, so it passes a limit exactly when some run of the
newest increments does.
-/

namespace Cusum

def step (acc d : ℤ) : ℤ := max 0 (acc + d)

/-- The accumulator is the largest sum of newest increments, none of them included; the list is
newest first. -/
structure Best (acc : ℤ) (ds : List ℤ) : Prop where
  bound : ∀ n, (ds.take n).sum ≤ acc
  attained : ∃ n, (ds.take n).sum = acc

variable {acc : ℤ} {ds : List ℤ}

theorem Best.nil : Best 0 [] := by
  constructor
  · intro n
    simp
  · exact ⟨0, rfl⟩

theorem Best.nonneg (h : Best acc ds) : 0 ≤ acc := by
  have h0 := h.bound 0
  simpa using h0

theorem Best.cons (h : Best acc ds) (d : ℤ) : Best (step acc d) (d :: ds) := by
  constructor
  · intro n
    cases n with
    | zero => simp [step]
    | succ n =>
      have hn := h.bound n
      rw [List.take_succ_cons, List.sum_cons, step]
      omega
  · obtain ⟨n, hn⟩ := h.attained
    by_cases hneg : acc + d < 0
    · refine ⟨0, ?_⟩
      rw [step, max_eq_left hneg.le]
      rfl
    · refine ⟨n + 1, ?_⟩
      rw [List.take_succ_cons, List.sum_cons, hn, step]
      omega

theorem Best.reaches_iff (h : Best acc ds) {limit : ℤ} (hlimit : 0 < limit) :
    limit ≤ acc ↔ ∃ n, 0 < n ∧ n ≤ ds.length ∧ limit ≤ (ds.take n).sum := by
  constructor
  · intro hle
    obtain ⟨n, hn⟩ := h.attained
    refine ⟨min n ds.length, ?_, min_le_right _ _, ?_⟩
    · rcases Nat.eq_zero_or_pos (min n ds.length) with h0 | hpos
      · have hnil : ds.take n = [] := by
          rw [List.take_eq_nil_iff, ← List.length_eq_zero_iff]
          omega
        rw [hnil, List.sum_nil] at hn
        omega
      · exact hpos
    · have hmin : ds.take (min n ds.length) = ds.take n := by
        rw [← List.take_take, List.take_length]
      rw [hmin, hn]
      exact hle
  · rintro ⟨n, -, -, hn⟩
    exact hn.trans (h.bound n)

end Cusum
