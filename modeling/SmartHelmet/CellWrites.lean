import Mathlib

/-!
Loops over a fixed array: `fill` writes the first cells, `sweep` rewrites a stretch of cells in
place and carries a value along. What a loop wrote does not depend on what the cells held.
-/

namespace CellWrites

variable {α β : Type*}

def fill (f : ℕ → α) (n : ℕ) (cells : List α) : List α :=
  (List.range n).foldl (fun cells i => cells.set i (f i)) cells

def sweep (d : α) (next : β → α → β × α) : List α → β → ℕ → ℕ → List α
  | cells, _, _, 0 => cells
  | cells, acc, i, n + 1 =>
    let (acc, x) := next acc (cells.getD i d)
    sweep d next (cells.set i x) acc (i + 1) n

def outputs (next : β → α → β × α) : β → List α → List α
  | _, [] => []
  | acc, x :: xs => (next acc x).2 :: outputs next (next acc x).1 xs

theorem length_fill (f : ℕ → α) (n : ℕ) (cells : List α) : (fill f n cells).length = cells.length := by
  unfold fill
  induction n with
  | zero => rfl
  | succ n ih => rw [List.range_succ, List.foldl_append, List.foldl_cons, List.foldl_nil, List.length_set, ih]

theorem take_succ_set {cells : List α} {i : ℕ} (hi : i < cells.length) (x : α) :
    (cells.set i x).take (i + 1) = cells.take i ++ [x] := by
  have htake : (cells.set i x).take i = cells.take i := by
    rw [List.take_set, List.set_eq_of_length_le (by rw [List.length_take]; omega)]
  rw [List.take_add_one, htake, List.getElem?_set_self hi]
  rfl

theorem take_fill (f : ℕ → α) {n : ℕ} {cells : List α} (hn : n ≤ cells.length) :
    (fill f n cells).take n = (List.range n).map f := by
  induction n with
  | zero => rfl
  | succ n ih =>
    have hlen := length_fill f n cells
    have hsucc : fill f (n + 1) cells = (fill f n cells).set n (f n) := by
      unfold fill
      rw [List.range_succ, List.foldl_append, List.foldl_cons, List.foldl_nil]
    rw [hsucc, take_succ_set (by omega), ih (by omega), List.range_succ, List.map_append]
    rfl

theorem fill_all (f : ℕ → α) {n : ℕ} {cells : List α} (hn : cells.length = n) :
    fill f n cells = (List.range n).map f := by
  have hlen := length_fill f n cells
  rw [← take_fill f hn.ge, List.take_of_length_le (by omega)]

theorem length_sweep (d : α) (next : β → α → β × α) (cells : List α) (acc : β) (i n : ℕ) :
    (sweep d next cells acc i n).length = cells.length := by
  induction n generalizing cells acc i with
  | zero => rfl
  | succ n ih => rw [sweep, ih, List.length_set]

theorem take_sweep (d : α) (next : β → α → β × α) {cells : List α} (acc : β) {i n : ℕ}
    (hn : i + n ≤ cells.length) :
    (sweep d next cells acc i n).take (i + n) = cells.take i ++ outputs next acc ((cells.drop i).take n) := by
  induction n generalizing cells acc i with
  | zero => simp [sweep, outputs]
  | succ n ih =>
    have hi : i < cells.length := by omega
    have hdrop : cells.drop i = cells.getD i d :: cells.drop (i + 1) := by
      rw [List.getD_eq_getElem _ _ hi, List.drop_eq_getElem_cons hi]
    rw [sweep, show i + (n + 1) = i + 1 + n by omega, ih _ (by rw [List.length_set]; omega), take_succ_set hi,
      List.drop_set_of_lt (Nat.lt_succ_self i), hdrop, List.take_succ_cons, outputs, List.append_assoc,
      List.singleton_append]

end CellWrites
