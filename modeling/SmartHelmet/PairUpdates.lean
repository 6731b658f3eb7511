import Mathlib

namespace PairUpdates

variable {α τ : Type} (f : τ → α → α → α × α)

def pairStep (c : ℕ → α) (x : τ × ℕ × ℕ) : ℕ → α :=
  Function.update (Function.update c x.2.1 (f x.1 (c x.2.1) (c x.2.2)).1) x.2.2 (f x.1 (c x.2.1) (c x.2.2)).2

def Apart (x y : τ × ℕ × ℕ) : Prop :=
  x.2.1 ≠ y.2.1 ∧ x.2.1 ≠ y.2.2 ∧ x.2.2 ≠ y.2.1 ∧ x.2.2 ≠ y.2.2

instance (x y : τ × ℕ × ℕ) : Decidable (Apart x y) := inferInstanceAs (Decidable (_ ∧ _ ∧ _ ∧ _))

variable {f}

theorem pairStep_of_ne {c : ℕ → α} {x : τ × ℕ × ℕ} {j : ℕ} (hp : j ≠ x.2.1) (hq : j ≠ x.2.2) :
    pairStep f c x j = c j := by
  rw [pairStep, Function.update_of_ne hq, Function.update_of_ne hp]

theorem foldl_pairStep_of_ne {pairs : List (τ × ℕ × ℕ)} {c : ℕ → α} {j : ℕ}
    (h : ∀ x ∈ pairs, j ≠ x.2.1 ∧ j ≠ x.2.2) : pairs.foldl (pairStep f) c j = c j := by
  induction pairs generalizing c with
  | nil => rfl
  | cons x pairs ih =>
    obtain ⟨hx, hpairs⟩ := List.forall_mem_cons.mp h
    rw [List.foldl_cons, ih hpairs, pairStep_of_ne hx.1 hx.2]

theorem foldl_pairStep {pairs : List (τ × ℕ × ℕ)} (hself : ∀ x ∈ pairs, x.2.1 ≠ x.2.2)
    (hapart : pairs.Pairwise Apart) (c : ℕ → α) {x : τ × ℕ × ℕ} (hx : x ∈ pairs) :
    pairs.foldl (pairStep f) c x.2.1 = (f x.1 (c x.2.1) (c x.2.2)).1 ∧
      pairs.foldl (pairStep f) c x.2.2 = (f x.1 (c x.2.1) (c x.2.2)).2 := by
  induction pairs generalizing c with
  | nil => exact absurd hx List.not_mem_nil
  | cons y pairs ih =>
    obtain ⟨hy, hself⟩ := List.forall_mem_cons.mp hself
    obtain ⟨hfar, hapart⟩ := List.pairwise_cons.mp hapart
    rw [List.foldl_cons]
    rcases List.mem_cons.mp hx with rfl | hx
    · have hp : ∀ y ∈ pairs, x.2.1 ≠ y.2.1 ∧ x.2.1 ≠ y.2.2 := fun y hy => ⟨(hfar y hy).1, (hfar y hy).2.1⟩
      have hq : ∀ y ∈ pairs, x.2.2 ≠ y.2.1 ∧ x.2.2 ≠ y.2.2 := fun y hy => (hfar y hy).2.2
      rw [foldl_pairStep_of_ne hp, foldl_pairStep_of_ne hq, pairStep, Function.update_of_ne hy,
        Function.update_self, Function.update_self]
      exact ⟨rfl, rfl⟩
    · obtain ⟨hpp, hqp, hpq, hqq⟩ := hfar x hx
      have hp : pairStep f c y x.2.1 = c x.2.1 := pairStep_of_ne (Ne.symm hpp) (Ne.symm hpq)
      have hq : pairStep f c y x.2.2 = c x.2.2 := pairStep_of_ne (Ne.symm hqp) (Ne.symm hqq)
      have hrest := ih hself hapart (pairStep f c y) hx
      rwa [hp, hq] at hrest

end PairUpdates
