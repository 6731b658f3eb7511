import SmartHelmet.PairUpdates
import SmartHelmet.PulseEstimators

namespace SmartHelmet.Vitals

open Config PairUpdates

abbrev Cell := ℤ × ℤ

def cell (a : Frame) (j : ℕ) : Cell := (a.1.getD j 0, a.2.getD j 0)

structure Full (a : Frame) : Prop where
  re : a.1.length = 64
  im : a.2.length = 64

def halved (x : Cell) : Cell := (x.1.tdiv 2, x.2.tdiv 2)

def turned (tw : ℕ) (y : Cell) : Cell :=
  let (cw, sw) := shFftTwiddle tw
  (((halved y).1 * cw - (halved y).2 * sw).tdiv 16384, ((halved y).1 * sw + (halved y).2 * cw).tdiv 16384)

def twist (tw : ℕ) (x y : Cell) : Cell × Cell := (halved x + turned tw y, halved x - turned tw y)

theorem full_butterfly {a : Frame} (h : Full a) (p q tw : ℕ) : Full (butterfly a p q tw) where
  re := by simp only [butterfly, List.length_set, h.re]
  im := by simp only [butterfly, List.length_set, h.im]

theorem getD_set_set {l : List ℤ} {p q : ℕ} (hp : p < l.length) (hq : q < l.length) (x y : ℤ) :
    (fun j => ((l.set p x).set q y).getD j 0) =
      Function.update (Function.update (fun j => l.getD j 0) p x) q y := by
  have hset {l : List ℤ} {i : ℕ} (hi : i < l.length) (v : ℤ) :
      (fun j => (l.set i v).getD j 0) = Function.update (fun j => l.getD j 0) i v := by
    funext j
    by_cases hj : j = i
    · rw [hj, Function.update_self, List.getD_eq_getElem?_getD, List.getElem?_set_self hi, Option.getD_some]
    · rw [Function.update_of_ne hj, List.getD_eq_getElem?_getD, List.getElem?_set_ne (Ne.symm hj),
        List.getD_eq_getElem?_getD]
  rw [hset (by rw [List.length_set]; exact hq), hset hp]

theorem cell_butterfly {a : Frame} (h : Full a) {p q : ℕ} (hp : p < 64) (hq : q < 64) (tw : ℕ) :
    cell (butterfly a p q tw) = pairStep twist (cell a) (tw, p, q) := by
  have hre := getD_set_set (l := a.1) (p := p) (q := q) (by rw [h.re]; exact hp) (by rw [h.re]; exact hq)
  have him := getD_set_set (l := a.2) (p := p) (q := q) (by rw [h.im]; exact hp) (by rw [h.im]; exact hq)
  funext j
  simp only [cell, butterfly]
  rw [congrFun (hre _ _) j, congrFun (him _ _) j]
  simp only [pairStep, twist, Function.update_apply]
  split_ifs <;> rfl

def stagePairs (len : ℕ) : List (ℕ × ℕ × ℕ) :=
  (List.range (fftN / len)).flatMap (fun g => (List.range (len / 2)).map (fun m =>
    (m * fftN / len, g * len + m, g * len + m + len / 2)))

theorem fftStage_eq (a : Frame) (len : ℕ) :
    fftStage a len = (stagePairs len).foldl (fun a x => butterfly a x.2.1 x.2.2 x.1) a := by
  rw [fftStage, stagePairs, List.foldl_flatMap]
  simp only [List.foldl_map]

theorem cell_foldl_butterfly {pairs : List (ℕ × ℕ × ℕ)} (hpairs : ∀ x ∈ pairs, x.2.1 < 64 ∧ x.2.2 < 64)
    {a : Frame} (h : Full a) :
    Full (pairs.foldl (fun a x => butterfly a x.2.1 x.2.2 x.1) a) ∧
      cell (pairs.foldl (fun a x => butterfly a x.2.1 x.2.2 x.1) a) = pairs.foldl (pairStep twist) (cell a) := by
  induction pairs generalizing a with
  | nil => exact ⟨h, rfl⟩
  | cons x pairs ih =>
    obtain ⟨hx, hpairs⟩ := List.forall_mem_cons.mp hpairs
    rw [List.foldl_cons, List.foldl_cons, ← cell_butterfly h hx.1 hx.2]
    exact ih hpairs (full_butterfly h _ _ _)

theorem stagePairs_apart : ∀ s < 6, (∀ x ∈ stagePairs (2 ^ (s + 1)), x.2.1 < 64 ∧ x.2.2 < 64) ∧
    (∀ x ∈ stagePairs (2 ^ (s + 1)), x.2.1 ≠ x.2.2) ∧ (stagePairs (2 ^ (s + 1))).Pairwise Apart := by
  decide

theorem mem_stagePairs {s g m : ℕ} (hg : g < 64 / 2 ^ (s + 1)) (hm : m < 2 ^ s) :
    (m * 64 / 2 ^ (s + 1), g * 2 ^ (s + 1) + m, g * 2 ^ (s + 1) + m + 2 ^ s) ∈ stagePairs (2 ^ (s + 1)) := by
  have hhalf : 2 ^ (s + 1) / 2 = 2 ^ s := by rw [pow_succ, Nat.mul_div_cancel _ (by norm_num)]
  rw [stagePairs, List.mem_flatMap]
  refine ⟨g, List.mem_range.mpr hg, List.mem_map.mpr ⟨m, List.mem_range.mpr ?_, ?_⟩⟩
  · rw [hhalf]
    exact hm
  · rw [hhalf, fftN]

theorem full_fftStage {s : ℕ} (hs : s < 6) {a : Frame} (h : Full a) : Full (fftStage a (2 ^ (s + 1))) := by
  rw [fftStage_eq]
  exact (cell_foldl_butterfly (stagePairs_apart s hs).1 h).1

theorem cell_fftStage {s : ℕ} (hs : s < 6) {a : Frame} (h : Full a) {g m : ℕ} (hg : g < 64 / 2 ^ (s + 1))
    (hm : m < 2 ^ s) :
    let out := twist (m * 64 / 2 ^ (s + 1)) (cell a (2 * g * 2 ^ s + m)) (cell a ((2 * g + 1) * 2 ^ s + m))
    cell (fftStage a (2 ^ (s + 1))) (g * 2 ^ (s + 1) + m) = out.1 ∧
      cell (fftStage a (2 ^ (s + 1))) (g * 2 ^ (s + 1) + m + 2 ^ s) = out.2 := by
  intro out
  obtain ⟨hrange, hself, hapart⟩ := stagePairs_apart s hs
  have hp : 2 * g * 2 ^ s + m = g * 2 ^ (s + 1) + m := by ring
  have hq : (2 * g + 1) * 2 ^ s + m = g * 2 ^ (s + 1) + m + 2 ^ s := by ring
  simp only [out, hp, hq]
  rw [fftStage_eq, (cell_foldl_butterfly hrange h).2]
  exact foldl_pairStep hself hapart (cell a) (mem_stagePairs hg hm)

theorem cell_fftStage_mod {s : ℕ} (hs : s < 6) {a : Frame} (h : Full a) {g j : ℕ} (hg : g < 64 / 2 ^ (s + 1))
    (hj : j < 2 ^ (s + 1)) :
    let m := j % 2 ^ s
    let out := twist (m * 64 / 2 ^ (s + 1)) (cell a (2 * g * 2 ^ s + m)) (cell a ((2 * g + 1) * 2 ^ s + m))
    cell (fftStage a (2 ^ (s + 1))) (g * 2 ^ (s + 1) + j) = if j < 2 ^ s then out.1 else out.2 := by
  dsimp only
  by_cases hlow : j < 2 ^ s
  · rw [if_pos hlow, Nat.mod_eq_of_lt hlow]
    exact (cell_fftStage hs h hg hlow).1
  · have hupper : j - 2 ^ s < 2 ^ s := by
      rw [pow_succ] at hj
      omega
    have hindex : g * 2 ^ (s + 1) + j = g * 2 ^ (s + 1) + (j - 2 ^ s) + 2 ^ s := by omega
    rw [if_neg hlow, hindex, Nat.mod_eq_sub_mod (by omega), Nat.mod_eq_of_lt hupper]
    exact (cell_fftStage hs h hg hupper).2

def rev6 (j : ℕ) : ℕ :=
  j % 2 * 32 + j / 2 % 2 * 16 + j / 4 % 2 * 8 + j / 8 % 2 * 4 + j / 16 % 2 * 2 + j / 32 % 2

def swapPairs : List ℕ → ℕ → List (Unit × ℕ × ℕ)
  | [], _ => []
  | i :: is, j => (if i < j then [((), i, j)] else []) ++ swapPairs is (reverseNext 6 j (fftN / 2))

def swapCells (a : Frame) (x : Unit × ℕ × ℕ) : Frame := (swapAt a.1 x.2.1 x.2.2, swapAt a.2 x.2.1 x.2.2)

theorem bitReverse_eq (a : Frame) : bitReverse a = (swapPairs (List.range 63) 0).foldl swapCells a := by
  have hloop (is : List ℕ) (a : Frame) (j : ℕ) :
      (is.foldl (fun (st : Frame × ℕ) i =>
        let b := if i < st.2 then (swapAt st.1.1 i st.2, swapAt st.1.2 i st.2) else st.1
        (b, reverseNext 6 st.2 (fftN / 2))) (a, j)).1 = (swapPairs is j).foldl swapCells a := by
    induction is generalizing a j with
    | nil => rfl
    | cons i is ih =>
      rw [List.foldl_cons, ih, swapPairs, List.foldl_append]
      congr 1
      dsimp only
      split_ifs <;> rfl
  exact hloop (List.range 63) a 0

theorem cell_swapCells {a : Frame} (h : Full a) {x : Unit × ℕ × ℕ} (hx : x.2.1 < 64 ∧ x.2.2 < 64) :
    Full (swapCells a x) ∧ cell (swapCells a x) = pairStep (fun _ x y => (y, x)) (cell a) x := by
  have hre := getD_set_set (l := a.1) (p := x.2.1) (q := x.2.2) (by rw [h.re]; exact hx.1) (by rw [h.re]; exact hx.2)
  have him := getD_set_set (l := a.2) (p := x.2.1) (q := x.2.2) (by rw [h.im]; exact hx.1) (by rw [h.im]; exact hx.2)
  refine ⟨⟨by simp only [swapCells, swapAt, List.length_set, h.re],
    by simp only [swapCells, swapAt, List.length_set, h.im]⟩, ?_⟩
  funext j
  simp only [cell, swapCells, swapAt]
  rw [congrFun (hre _ _) j, congrFun (him _ _) j]
  simp only [pairStep, Function.update_apply]
  split_ifs <;> rfl

theorem cell_foldl_swapCells {pairs : List (Unit × ℕ × ℕ)} (hpairs : ∀ x ∈ pairs, x.2.1 < 64 ∧ x.2.2 < 64)
    {a : Frame} (h : Full a) : Full (pairs.foldl swapCells a) ∧
      cell (pairs.foldl swapCells a) = pairs.foldl (pairStep (fun _ x y => (y, x))) (cell a) := by
  induction pairs generalizing a with
  | nil => exact ⟨h, rfl⟩
  | cons x pairs ih =>
    obtain ⟨hx, hpairs⟩ := List.forall_mem_cons.mp hpairs
    obtain ⟨hfull, hcell⟩ := cell_swapCells h hx
    rw [List.foldl_cons, List.foldl_cons, ← hcell]
    exact ih hpairs hfull

theorem swapPairs_apart : (∀ x ∈ swapPairs (List.range 63) 0, x.2.1 < 64 ∧ x.2.2 < 64) ∧
    (∀ x ∈ swapPairs (List.range 63) 0, x.2.1 ≠ x.2.2) ∧ (swapPairs (List.range 63) 0).Pairwise Apart := by
  decide

theorem mem_swapPairs : ∀ j < 64, ((), j, rev6 j) ∈ swapPairs (List.range 63) 0 ∨
    ((), rev6 j, j) ∈ swapPairs (List.range 63) 0 ∨
    (rev6 j = j ∧ ∀ x ∈ swapPairs (List.range 63) 0, j ≠ x.2.1 ∧ j ≠ x.2.2) := by
  decide

theorem cell_bitReverse {a : Frame} (h : Full a) :
    Full (bitReverse a) ∧ ∀ j < 64, cell (bitReverse a) j = cell a (rev6 j) := by
  obtain ⟨hrange, hself, hapart⟩ := swapPairs_apart
  obtain ⟨hfull, hcell⟩ := cell_foldl_swapCells hrange h
  rw [bitReverse_eq]
  refine ⟨hfull, fun j hj => ?_⟩
  rw [hcell]
  rcases mem_swapPairs j hj with hp | hq | ⟨hfix, hnone⟩
  · exact (foldl_pairStep hself hapart (cell a) hp).1
  · exact (foldl_pairStep hself hapart (cell a) hq).2
  · rw [foldl_pairStep_of_ne hnone, hfix]

def afterStages (a : Frame) : ℕ → Frame
  | 0 => bitReverse a
  | s + 1 => fftStage (afterStages a s) (2 ^ (s + 1))

theorem shFftRadix2_eq (a : Frame) : shFftRadix2 a = afterStages a 6 := by
  simp only [shFftRadix2, List.foldl_cons, List.foldl_nil, afterStages, zero_add, Nat.reduceAdd, Nat.reducePow]

theorem afterStages_invariant {a : Frame} (h : Full a) (Inv : ℕ → Frame → Prop) (h0 : Inv 0 (bitReverse a))
    (hstep : ∀ s < 6, ∀ b, Full b → Inv s b → Inv (s + 1) (fftStage b (2 ^ (s + 1)))) {s : ℕ} (hs : s ≤ 6) :
    Full (afterStages a s) ∧ Inv s (afterStages a s) := by
  induction s with
  | zero => exact ⟨(cell_bitReverse h).1, h0⟩
  | succ s ih =>
    obtain ⟨hfull, hinv⟩ := ih (by omega)
    exact ⟨full_fftStage (by omega) hfull, hstep s (by omega) _ hfull hinv⟩

end SmartHelmet.Vitals
