import Mathlib

namespace SmartHelmet.RingBuffer

variable {α : Type}

structure Ring (α : Type) (cap : ℕ) where
  buf : List α
  idx : ℕ
  count : ℕ
  length_buf : buf.length = cap
  idx_lt : idx < cap
  count_le : count ≤ cap

namespace Ring

variable {cap : ℕ}

def zeroed (zero : α) (h : 0 < cap) : Ring α cap :=
  ⟨List.replicate cap zero, 0, 0, List.length_replicate, h, Nat.zero_le _⟩

def push (r : Ring α cap) (a : α) : Ring α cap where
  buf := r.buf.set r.idx a
  idx := (r.idx + 1) % cap
  count := if r.count < cap then r.count + 1 else r.count
  length_buf := by rw [List.length_set]; exact r.length_buf
  idx_lt := Nat.mod_lt _ (Nat.zero_lt_of_lt r.idx_lt)
  count_le := by have := r.count_le; split_ifs <;> omega

def live (r : Ring α cap) : List α := r.buf.take r.count

def back [Inhabited α] (r : Ring α cap) (k : ℕ) : α := r.buf.getD ((r.idx + cap - k) % cap) default

def ordered [Inhabited α] (r : Ring α cap) (n : ℕ) : List α :=
  (List.range n).map (fun i => r.buf.getD (((r.idx + cap - n) % cap + i) % cap) default)

/-- The ring after the values `xs` were written to an empty one. -/
structure Holds (r : Ring α cap) (xs : List α) : Prop where
  count_eq : r.count = min xs.length cap
  idx_eq : r.idx = xs.length % cap
  slot_eq : ∀ i, xs.length ≤ i + cap → i < xs.length → r.buf[i % cap]? = xs[i]?

theorem holds_zeroed (zero : α) (h : 0 < cap) : (zeroed zero h).Holds [] where
  count_eq := by simp [zeroed]
  idx_eq := by simp [zeroed]
  slot_eq := by intro i _ hi; simp at hi

theorem mod_ne_mod {i n : ℕ} (hi : i < n) (hn : n < i + cap) : n % cap ≠ i % cap := by
  intro he
  have hd : cap ∣ n - i := (Nat.modEq_iff_dvd' hi.le).mp he.symm
  have := Nat.le_of_dvd (by omega) hd
  omega

theorem Holds.push {r : Ring α cap} {xs : List α} (h : r.Holds xs) (a : α) :
    (r.push a).Holds (xs ++ [a]) where
  count_eq := by
    have hc := h.count_eq
    simp only [Ring.push, List.length_append, List.length_singleton]
    split_ifs <;> omega
  idx_eq := by simp only [Ring.push, h.idx_eq, List.length_append, List.length_singleton, Nat.mod_add_mod]
  slot_eq := by
    intro i hlo hhi
    simp only [List.length_append, List.length_singleton] at hlo hhi
    simp only [Ring.push, h.idx_eq]
    rcases Nat.lt_succ_iff_lt_or_eq.mp hhi with hi | rfl
    · rw [List.getElem?_set_ne (mod_ne_mod hi (by omega)), h.slot_eq i (by omega) hi,
        List.getElem?_append_left hi]
    · have hlt : xs.length % cap < r.buf.length := by
        rw [r.length_buf, ← h.idx_eq]; exact r.idx_lt
      rw [List.getElem?_set_self hlt]
      simp

def recent (cap : ℕ) (xs : List α) : List α := xs.drop (xs.length - cap)

theorem recent_length (xs : List α) : (recent cap xs).length = min xs.length cap := by
  simp only [recent, List.length_drop]
  omega

theorem Holds.rotate_eq {r : Ring α cap} {xs : List α} (h : r.Holds xs) (hf : cap ≤ xs.length) :
    r.buf.rotate r.idx = recent cap xs := by
  have hcap : 0 < cap := Nat.zero_lt_of_lt r.idx_lt
  apply List.ext_getElem?
  intro k
  by_cases hk : k < cap
  · have hkb : k < (r.buf.rotate r.idx).length := by rw [List.length_rotate, r.length_buf]; exact hk
    rw [List.getElem?_eq_getElem hkb, List.getElem_rotate, ← List.getElem?_eq_getElem]
    have hmod : (k + r.idx) % r.buf.length = (xs.length - cap + k) % cap := by
      rw [r.length_buf, h.idx_eq, Nat.add_mod_mod]
      conv_lhs => rw [show k + xs.length = xs.length - cap + k + cap by omega, Nat.add_mod_right]
    rw [hmod, h.slot_eq _ (by omega) (by omega), recent, List.getElem?_drop]
  · have hl : (r.buf.rotate r.idx).length ≤ k := by rw [List.length_rotate, r.length_buf]; omega
    have hr : (recent cap xs).length ≤ k := by rw [recent_length]; omega
    rw [List.getElem?_eq_none hl, List.getElem?_eq_none hr]

theorem Holds.live_eq_of_short {r : Ring α cap} {xs : List α} (h : r.Holds xs)
    (hs : xs.length < cap) : r.live = xs := by
  have hc : r.count = xs.length := by rw [h.count_eq]; omega
  apply List.ext_getElem?
  intro k
  rw [live, List.getElem?_take]
  split_ifs with hk
  · have := h.slot_eq k (by omega) (by omega)
    rwa [Nat.mod_eq_of_lt (by omega)] at this
  · rw [List.getElem?_eq_none (by omega)]

theorem Holds.live_perm {r : Ring α cap} {xs : List α} (h : r.Holds xs) :
    r.live.Perm (recent cap xs) := by
  by_cases hs : xs.length < cap
  · rw [h.live_eq_of_short hs, recent, Nat.sub_eq_zero_of_le hs.le, List.drop_zero]
  · have hc : r.count = cap := by rw [h.count_eq]; omega
    rw [live, hc, List.take_of_length_le (le_of_eq r.length_buf), ← h.rotate_eq (by omega)]
    exact (List.rotate_perm _ _).symm

theorem Holds.back_eq [Inhabited α] {r : Ring α cap} {xs : List α} (h : r.Holds xs) {k : ℕ} (hk : 0 < k)
    (hcap : k ≤ cap) (hlen : k ≤ xs.length) : some (r.back k) = xs[xs.length - k]? := by
  have hlt : (r.idx + cap - k) % cap < r.buf.length := by
    rw [r.length_buf]
    exact Nat.mod_lt _ (by omega)
  have hslot := h.slot_eq (xs.length - k) (by omega) (by omega)
  have hmod : (xs.length - k) % cap = (r.idx + cap - k) % cap := by
    rw [h.idx_eq, ← Nat.add_mod_right (xs.length - k), show xs.length - k + cap = xs.length + (cap - k) by omega,
      show xs.length % cap + cap - k = xs.length % cap + (cap - k) by omega, Nat.mod_add_mod]
  rw [hmod, List.getElem?_eq_getElem hlt] at hslot
  rw [← hslot, back, List.getD_eq_getElem _ _ hlt]

theorem Holds.ordered_eq [Inhabited α] {r : Ring α cap} {xs : List α} (h : r.Holds xs) {k : ℕ} (hk : k ≤ r.count) :
    r.ordered k = recent k xs := by
  have hcount := h.count_eq
  have hcap : 0 < cap := Nat.zero_lt_of_lt r.idx_lt
  apply List.ext_getElem
  · rw [ordered, List.length_map, List.length_range, recent_length]
    omega
  · intro i hi _
    rw [ordered, List.length_map, List.length_range] at hi
    have hslot := h.slot_eq (xs.length - k + i) (by omega) (by omega)
    have hmod : (xs.length - k + i) % cap = ((r.idx + cap - k) % cap + i) % cap := by
      rw [Nat.mod_add_mod, h.idx_eq, ← Nat.add_mod_right (xs.length - k + i),
        show xs.length - k + i + cap = xs.length + (cap - k + i) by omega,
        show xs.length % cap + cap - k + i = xs.length % cap + (cap - k + i) by omega, Nat.mod_add_mod]
    have hlt : ((r.idx + cap - k) % cap + i) % cap < r.buf.length := by
      rw [r.length_buf]
      exact Nat.mod_lt _ hcap
    rw [hmod, List.getElem?_eq_getElem hlt, List.getElem?_eq_getElem (by omega), Option.some.injEq] at hslot
    simp only [ordered, List.getElem_map, List.getElem_range, recent, List.getElem_drop]
    rw [List.getD_eq_getElem _ _ hlt, hslot]

end Ring

end SmartHelmet.RingBuffer
