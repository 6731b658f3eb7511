import Mathlib

namespace SmartHelmet.OnePole

def step (a x y : ℤ) : ℤ := y + ((x - y) * a).tdiv 256

theorem step_of_le {x y : ℤ} (a : ℤ) (ha : 0 ≤ a) (h : x ≤ y) :
    step a x y = y - (y - x) * a / 256 := by
  have hneg : (x - y) * a = -((y - x) * a) := by ring
  have h0 : 0 ≤ (y - x) * a := mul_nonneg (by omega) ha
  rw [step, hneg, Int.neg_tdiv, Int.tdiv_eq_ediv_of_nonneg h0]
  omega

theorem step_of_ge {x y : ℤ} (a : ℤ) (ha : 0 ≤ a) (h : y ≤ x) :
    step a x y = y + (x - y) * a / 256 := by
  have h0 : 0 ≤ (x - y) * a := mul_nonneg (by omega) ha
  rw [step, Int.tdiv_eq_ediv_of_nonneg h0]

theorem step_between {a : ℤ} (ha : 0 ≤ a) (ha' : a ≤ 256) (x y : ℤ) :
    min x y ≤ step a x y ∧ step a x y ≤ max x y := by
  rcases le_total x y with h | h
  · have h0 : 0 ≤ (y - x) * a := mul_nonneg (by omega) ha
    have h1 : (y - x) * a ≤ (y - x) * 256 := mul_le_mul_of_nonneg_left ha' (by omega)
    rw [step_of_le a ha h]
    omega
  · have h0 : 0 ≤ (x - y) * a := mul_nonneg (by omega) ha
    have h1 : (x - y) * a ≤ (x - y) * 256 := mul_le_mul_of_nonneg_left ha' (by omega)
    rw [step_of_ge a ha h]
    omega

theorem step_zero_natAbs {a : ℤ} (ha : 0 ≤ a) (ha' : a ≤ 256) (y : ℤ) :
    (step a 0 y).natAbs ≤ y.natAbs ∧ ((step a 0 y).natAbs = y.natAbs → step a 0 y = y) := by
  have hb := step_between ha ha' 0 y
  rcases le_total 0 y with h | h
  · omega
  · omega

theorem natAbs_of_step_zero {a : ℤ} (ha : 0 ≤ a) {y : ℤ} (h : step a 0 y = y) :
    (y.natAbs : ℤ) * a < 256 := by
  rcases le_total 0 y with hy | hy
  · rw [step_of_le a ha hy, sub_zero] at h
    have h0 : 0 ≤ y * a := mul_nonneg hy ha
    rw [show (y.natAbs : ℤ) = y by omega]
    omega
  · rw [step_of_ge a ha hy, zero_sub] at h
    rw [show (y.natAbs : ℤ) = -y by omega]
    omega

theorem exists_iterate_enters {α : Type} (f : α → α) (μ : α → ℕ) (inv p : α → Prop)
    (hinv : ∀ x, inv x → inv (f x)) (keep : ∀ x, inv x → p x → p (f x))
    (drive : ∀ x, inv x → ¬ p x → μ (f x) < μ x) (x : α) (hx : inv x) :
    ∃ n, ∀ k, n ≤ k → p (f^[k] x) := by
  induction hm : μ x using Nat.strong_induction_on generalizing x with
  | _ m ih =>
    by_cases hp : p x
    · refine ⟨0, fun k _ => ?_⟩
      have hboth : inv (f^[k] x) ∧ p (f^[k] x) :=
        Function.Iterate.rec (fun y => inv y ∧ p y) ⟨hx, hp⟩
          (fun y hy => ⟨hinv y hy.1, keep y hy.1 hy.2⟩) k
      exact hboth.2
    · obtain ⟨n, hn⟩ := ih (μ (f x)) (hm ▸ drive x hx hp) (f x) (hinv x hx) rfl
      refine ⟨n + 1, fun k hk => ?_⟩
      obtain ⟨j, rfl⟩ : ∃ j, k = j + 1 := ⟨k - 1, by omega⟩
      rw [Function.iterate_succ_apply]
      exact hn j (by omega)

end SmartHelmet.OnePole
