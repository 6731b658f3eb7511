import Mathlib

namespace History

variable {σ ε γ : Type*} (step : σ → ε → σ) (note : σ → ε → γ → γ)

def next (p : σ × γ) (ev : ε) : σ × γ := (step p.1 ev, note p.1 ev p.2)

def after (s : σ) (g : γ) (evs : List ε) : γ := (evs.foldl (next step note) (s, g)).2

theorem fst_foldl_next (s : σ) (g : γ) (evs : List ε) :
    (evs.foldl (next step note) (s, g)).1 = evs.foldl step s := by
  induction evs generalizing s g with
  | nil => rfl
  | cons ev evs ih =>
    rw [List.foldl_cons, List.foldl_cons]
    exact ih _ _

theorem after_concat (s : σ) (g : γ) (evs : List ε) (ev : ε) :
    after step note s g (evs ++ [ev]) = note (evs.foldl step s) ev (after step note s g evs) := by
  rw [after, List.foldl_append, List.foldl_cons, List.foldl_nil, ← fst_foldl_next step note s g evs]
  rfl

theorem invariant {P : σ → γ → Prop} {s : σ} {g : γ} (start : P s g)
    (keep : ∀ s g ev, P s g → P (step s ev) (note s ev g)) (evs : List ε) :
    P (evs.foldl step s) (after step note s g evs) := by
  induction evs using List.reverseRecOn with
  | nil => exact start
  | append_singleton evs ev ih =>
    rw [after_concat, List.foldl_append, List.foldl_cons, List.foldl_nil]
    exact keep _ _ ev ih

end History
