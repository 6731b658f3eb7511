import SmartHelmet.MachineArith
import SmartHelmet.VitalsState

namespace SmartHelmet.Vitals

open Config MachineArith

def sqrtSkip (op : ℕ) : ℕ → ℕ → ℕ
  | 0, one => one
  | fuel + 1, one => if one > op then sqrtSkip op fuel (one / 4) else one

def sqrtDigits : ℕ → ℕ → ℕ → ℕ → ℕ
  | 0, _, res, _ => res
  | fuel + 1, op, res, one =>
    if one = 0 then res
    else if op ≥ res + one then sqrtDigits fuel (op - (res + one)) (res / 2 + one) (one / 4)
    else sqrtDigits fuel op (res / 2) (one / 4)

/-- `one` is a power of four below `2 ^ 32`, so sixteen rounds empty either loop. -/
def shSqrtU32 (v : ℕ) : ℕ := u16 (sqrtDigits 16 v 0 (sqrtSkip v 16 (2 ^ 30)))

def shIntervalQ8ToBpm (fsQ8 intervalQ8 : ℕ) : ℕ :=
  if intervalQ8 = 0 then 0 else u16 (u32 (60 * fsQ8) / intervalQ8)

def shAccSat (sum term : ℕ) : ℕ :=
  let s := u32 (sum + term)
  if s < sum then 4294967295 else s

def shRmsDevU16 (buf : List ℕ) : ℕ :=
  if buf.length = 0 then 0
  else
    let mean := buf.foldl (fun s v => u32 (s + v)) 0 / buf.length
    let sum := buf.foldl (fun s (v : ℕ) =>
      shAccSat s (u32OfInt (((v : ℤ) - (mean : ℤ)) * ((v : ℤ) - (mean : ℤ))))) 0
    shSqrtU32 (sum / buf.length)

def shEnergyI16 (buf : List ℤ) : ℕ :=
  if buf.length = 0 then 0
  else
    let mean := buf.foldl (fun s v => shAccSat s (u32OfInt (v * v))) 0 / buf.length
    if mean > 0xffff then 0xffff else mean

def shMeanAbsI16 (buf : List ℤ) : ℕ :=
  if buf.length = 0 then 0
  else u16 (buf.foldl (fun s v => u32 (s + v.natAbs)) 0 / buf.length)

def shMaxAbsI16 (x : List ℤ) : ℕ :=
  x.foldl (fun m v => if v.natAbs > m then u16 v.natAbs else m) 0

def shHighPass (f : HighPass) (x : ℤ) : HighPass × ℤ :=
  let y := x - f.prevX + (f.prevY * 243).tdiv 256
  (⟨x, y⟩, clampI16 y)

def bandPass (y : ℤ) : List ℤ → List ℤ
  | [] => []
  | x :: xs =>
    let y' := y + ((x - y) * hrLpAlphaQ8).tdiv 256
    i16 y' :: bandPass y' xs

def shCopySensOrdered (s : State) (n : ℕ) : List ℤ :=
  match s.sens.ordered (min n s.sens.count) with
  | [] => []
  | x :: xs => x :: bandPass x xs

theorem le_foldl_of_le {α : Type} {f : ℕ → α → ℕ} {g : α → ℕ} {l : List α}
    (h : ∀ m, ∀ a ∈ l, m ≤ f m a ∧ g a ≤ f m a) (m : ℕ) : m ≤ l.foldl f m ∧ ∀ a ∈ l, g a ≤ l.foldl f m := by
  induction l generalizing m with
  | nil => exact ⟨le_rfl, by rintro a ⟨⟩⟩
  | cons b l ih =>
    obtain ⟨hstart, hrest⟩ := ih (fun m a ha => h m a (List.mem_cons_of_mem b ha)) (f m b)
    obtain ⟨hm, hb⟩ := h m b List.mem_cons_self
    refine ⟨hm.trans hstart, ?_⟩
    intro a ha
    rcases List.mem_cons.mp ha with rfl | ha
    · exact hb.trans hstart
    · exact hrest a ha

theorem sqrtSkip_spec (v j : ℕ) (h : v < 4 ^ (j + 1)) :
    (v = 0 ∧ sqrtSkip v (j + 1) (4 ^ j) = 0) ∨
      ∃ i ≤ j, v < 4 ^ (i + 1) ∧ sqrtSkip v (j + 1) (4 ^ j) = 4 ^ i := by
  induction j with
  | zero =>
    by_cases hv : v = 0
    · subst hv
      exact Or.inl ⟨rfl, by decide⟩
    · exact Or.inr ⟨0, le_rfl, h, by rw [sqrtSkip, if_neg (by omega)]⟩
  | succ j ih =>
    by_cases hv : v < 4 ^ (j + 1)
    · have hdiv : 4 ^ (j + 1) / 4 = 4 ^ j := by rw [pow_succ]; omega
      rw [sqrtSkip, if_pos hv, hdiv]
      rcases ih hv with hz | ⟨i, hi, hlt, he⟩
      · exact Or.inl hz
      · exact Or.inr ⟨i, by omega, hlt, he⟩
    · exact Or.inr ⟨j + 1, le_rfl, h, by rw [sqrtSkip, if_neg hv]⟩

theorem sqrtDigits_spec (v k : ℕ) : ∀ (fuel root op : ℕ), k < fuel → op + root * root = v →
    v < (root + 2 ^ (k + 1)) * (root + 2 ^ (k + 1)) →
    sqrtDigits fuel op (root * 2 ^ (k + 1)) (4 ^ k) = Nat.sqrt v := by
  have hsq (k : ℕ) : (4 : ℕ) ^ k = 2 ^ k * 2 ^ k := mul_pow 2 2 k
  induction k with
  | zero =>
    intro fuel root op hfuel hop hlt
    obtain ⟨f, rfl⟩ : ∃ f, fuel = f + 1 := ⟨fuel - 1, by omega⟩
    have hend (res : ℕ) : ∀ op f, sqrtDigits f op res 0 = res := by
      intro op f
      cases f <;> rfl
    simp only [zero_add, pow_one, pow_zero] at hlt ⊢
    rw [sqrtDigits, if_neg one_ne_zero]
    split_ifs with hge
    · rw [show 1 / 4 = 0 from rfl, hend, Nat.mul_div_cancel _ (by norm_num)]
      exact Nat.eq_sqrt.mpr ⟨by nlinarith, by nlinarith⟩
    · rw [show 1 / 4 = 0 from rfl, hend, Nat.mul_div_cancel _ (by norm_num)]
      exact Nat.eq_sqrt.mpr ⟨by nlinarith, by nlinarith⟩
  | succ k ih =>
    intro fuel root op hfuel hop hlt
    obtain ⟨f, rfl⟩ : ∃ f, fuel = f + 1 := ⟨fuel - 1, by omega⟩
    have hone : 4 ^ (k + 1) / 4 = 4 ^ k := by rw [pow_succ]; omega
    have hhalf : root * 2 ^ (k + 1 + 1) / 2 = root * 2 ^ (k + 1) := by
      rw [pow_succ 2 (k + 1), ← mul_assoc, Nat.mul_div_cancel _ (by norm_num)]
    rw [sqrtDigits, if_neg (by positivity), hone, hhalf, hsq (k + 1)]
    have hpow : (2 : ℕ) ^ (k + 1 + 1) = 2 ^ (k + 1) + 2 ^ (k + 1) := by rw [pow_succ]; omega
    rw [hpow] at hlt ⊢
    generalize hd : 2 ^ (k + 1) = d at *
    split_ifs with hge
    · have hres : root * d + d * d = (root + d) * d := by ring
      rw [hres]
      have hsub : op - (root * (d + d) + d * d) + (root + d) * (root + d) = v := by
        have : (root + d) * (root + d) = root * root + (root * (d + d) + d * d) := by ring
        omega
      exact ih f (root + d) _ (by omega) hsub (by rw [add_assoc]; exact hlt)
    · refine ih f root op (by omega) hop ?_
      have : (root + d) * (root + d) = root * root + (root * (d + d) + d * d) := by ring
      omega

theorem shSqrtU32_eq_sqrt {v : ℕ} (h : v < 4294967296) : shSqrtU32 v = Nat.sqrt v := by
  have hfit : Nat.sqrt v < 65536 := Nat.sqrt_lt.mpr (by omega)
  unfold shSqrtU32
  rcases sqrtSkip_spec v 15 (by norm_num; omega) with ⟨rfl, he⟩ | ⟨i, hi, hlt, he⟩
  · rw [show (2 : ℕ) ^ 30 = 4 ^ 15 by norm_num, he]
    rfl
  · have hroot := sqrtDigits_spec v i 16 0 v (by omega) (by omega) (by
      rw [zero_add, ← mul_pow]; exact hlt)
    rw [zero_mul] at hroot
    rw [show (2 : ℕ) ^ 30 = 4 ^ 15 by norm_num, he, hroot]
    exact u16_of_lt hfit

end SmartHelmet.Vitals
