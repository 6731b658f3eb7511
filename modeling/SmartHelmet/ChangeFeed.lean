import Mathlib

/-!
A leader that tells a follower of its changes through a queue. The follower is behind by the
changes that are still queued; it agrees with the state that the leader had before them.
-/

namespace ChangeFeed

variable {σ χ : Type*} {L : σ → σ → Prop}

/-- The changes lead, in order, from the first state to the last. -/
inductive Chain (L : σ → σ → Prop) : σ → List (σ × σ) → σ → Prop where
  | nil (s : σ) : Chain L s [] s
  | cons {s m s' : σ} {changes : List (σ × σ)} (hstep : L s m) (hrest : Chain L m changes s') :
      Chain L s ((s, m) :: changes) s'

theorem Chain.eq_of_nil {s s' : σ} (hc : Chain L s [] s') : s = s' := by
  cases hc
  rfl

theorem Chain.append {s m s' : σ} {changes changes' : List (σ × σ)} (hc : Chain L s changes m)
    (hc' : Chain L m changes' s') : Chain L s (changes ++ changes') s' := by
  induction hc with
  | nil => exact hc'
  | cons hfirst _ ih => exact .cons hfirst (ih hc')

/-- The follower's state `x` agrees with the leader's state before the queued changes. -/
def Agrees (L : σ → σ → Prop) (A : σ → χ → Prop) (x : χ) (changes : List (σ × σ)) (now : σ) : Prop :=
  ∃ seen, Chain L seen changes now ∧ A seen x

variable {A : σ → χ → Prop} {x x' : χ} {now : σ} {changes : List (σ × σ)}

theorem Agrees.send (ha : Agrees L A x changes now) {sent : List (σ × σ)} {new : σ} (hsent : Chain L now sent new) :
    Agrees L A x (changes ++ sent) new := by
  obtain ⟨seen, hchain, hx⟩ := ha
  exact ⟨seen, hchain.append hsent, hx⟩

theorem Agrees.move (ha : Agrees L A x changes now) (hmove : ∀ s, A s x → A s x') : Agrees L A x' changes now := by
  obtain ⟨seen, hchain, hx⟩ := ha
  exact ⟨seen, hchain, hmove seen hx⟩

theorem Agrees.receive {old new : σ} (ha : Agrees L A x ((old, new) :: changes) now)
    (hreact : L old new → A old x → A new x') : Agrees L A x' changes now := by
  obtain ⟨seen, hchain, hx⟩ := ha
  cases hchain with
  | cons hstep hrest => exact ⟨new, hrest, hreact hstep hx⟩

theorem Agrees.caught_up (ha : Agrees L A x [] now) : A now x := by
  obtain ⟨seen, hchain, hx⟩ := ha
  exact hchain.eq_of_nil ▸ hx

end ChangeFeed
