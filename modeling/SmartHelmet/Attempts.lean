import Mathlib

/-!
Attempts: steps on a state that report whether they succeeded, and sequences of them that stop
at the first failure and keep what was done until then.
-/

namespace Attempt

variable {σ : Type*}

def andThen (f g : σ → Bool × σ) (s : σ) : Bool × σ := if (f s).1 then g (f s).2 else f s

def all (fs : List (σ → Bool × σ)) : σ → Bool × σ := fs.foldr andThen fun s => (true, s)

theorem all_cons (f : σ → Bool × σ) (fs : List (σ → Bool × σ)) : all (f :: fs) = andThen f (all fs) := rfl

theorem andThen_of_ok {f : σ → Bool × σ} {s : σ} (hf : (f s).1 = true) (g : σ → Bool × σ) :
    andThen f g s = g (f s).2 := if_pos hf

theorem andThen_of_fail {f : σ → Bool × σ} {s : σ} (hf : (f s).1 = false) (g : σ → Bool × σ) :
    andThen f g s = f s := by
  unfold andThen
  rw [hf]
  rfl

theorem ok_of_andThen {f g : σ → Bool × σ} {s : σ} (h : (andThen f g s).1 = true) :
    (f s).1 = true ∧ (g (f s).2).1 = true := by
  cases hf : (f s).1 with
  | true =>
    rw [andThen_of_ok hf] at h
    exact ⟨rfl, h⟩
  | false =>
    rw [andThen_of_fail hf, hf] at h
    exact absurd h Bool.false_ne_true

section Keeps

variable {R : σ → σ → Prop}

theorem andThen_keeps (htrans : ∀ a b c, R a b → R b c → R a c) {f g : σ → Bool × σ}
    (hf : ∀ s, R s (f s).2) (hg : ∀ s, R s (g s).2) (s : σ) : R s (andThen f g s).2 := by
  cases hok : (f s).1 with
  | true =>
    rw [andThen_of_ok hok]
    exact htrans _ _ _ (hf s) (hg _)
  | false =>
    rw [andThen_of_fail hok]
    exact hf s

theorem all_keeps (hrefl : ∀ a, R a a) (htrans : ∀ a b c, R a b → R b c → R a c)
    {fs : List (σ → Bool × σ)} (hfs : ∀ f ∈ fs, ∀ s, R s (f s).2) : ∀ s, R s (all fs s).2 := by
  induction fs with
  | nil => exact hrefl
  | cons f fs ih =>
    intro s
    rw [all_cons]
    refine andThen_keeps (R := R) htrans (hfs f List.mem_cons_self) ?_ s
    exact ih fun g hg => hfs g (List.mem_cons_of_mem f hg)

end Keeps

section Tally

variable {m : σ → ℕ}

def Tallies (m : σ → ℕ) (f : σ → Bool × σ) : Prop :=
  ∀ s, m s ≤ m (f s).2 ∧ ((f s).1 = false → m s < m (f s).2)

theorem tallies_done : Tallies m fun s => (true, s) :=
  fun _ => ⟨le_rfl, fun h => absurd h.symm Bool.false_ne_true⟩

theorem Tallies.andThen {f g : σ → Bool × σ} (hf : Tallies m f) (hg : Tallies m g) :
    Tallies m (Attempt.andThen f g) := by
  intro s
  cases hok : (f s).1 with
  | true =>
    rw [andThen_of_ok hok]
    exact ⟨(hf s).1.trans (hg _).1, fun h => (hf s).1.trans_lt ((hg _).2 h)⟩
  | false =>
    rw [andThen_of_fail hok]
    exact hf s

theorem tallies_all {fs : List (σ → Bool × σ)} (hfs : ∀ f ∈ fs, Tallies m f) : Tallies m (all fs) := by
  induction fs with
  | nil => exact tallies_done
  | cons f fs ih =>
    rw [all_cons]
    exact (hfs f List.mem_cons_self).andThen (ih fun g hg => hfs g (List.mem_cons_of_mem f hg))

theorem Tallies.ok_of_eq {f : σ → Bool × σ} (hf : Tallies m f) {s : σ} (h : m (f s).2 = m s) :
    (f s).1 = true := by
  by_contra hne
  have hlt := (hf s).2 (Bool.eq_false_iff.mpr hne)
  omega

end Tally

end Attempt
