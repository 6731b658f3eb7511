import Mathlib

/-!
C integers over `ℕ` and `ℤ`: unsigned types and narrowing casts are reductions modulo a
power of two, signed arithmetic is exact and divides towards zero.
-/

namespace SmartHelmet.MachineArith

def u8 (n : ℕ) : ℕ := n % 256
def u16 (n : ℕ) : ℕ := n % 65536
def u32 (n : ℕ) : ℕ := n % 4294967296

def u16OfInt (x : ℤ) : ℕ := (x % 65536).toNat
def u32OfInt (x : ℤ) : ℕ := (x % 4294967296).toNat

def i16 (x : ℤ) : ℤ := Int.bmod x 65536

def clampI16 (x : ℤ) : ℤ := if x > 32767 then 32767 else if x < -32768 then -32768 else x

def incSat (top n : ℕ) : ℕ := if n < top then n + 1 else n

theorem u16_of_lt {n : ℕ} (h : n < 65536) : u16 n = n := Nat.mod_eq_of_lt h

theorem u16_add_u16 (m n : ℕ) : u16 (u16 m + n) = u16 (m + n) := by
  simp only [u16, Nat.mod_add_mod]

theorem u16OfInt_of_lt {x : ℤ} (h0 : 0 ≤ x) (h : x < 65536) : (u16OfInt x : ℤ) = x := by
  rw [u16OfInt, Int.emod_eq_of_lt h0 h, Int.toNat_of_nonneg h0]

theorem u16_lt (n : ℕ) : u16 n < 65536 := Nat.mod_lt _ (by norm_num)

theorem u16OfInt_lt (x : ℤ) : u16OfInt x < 65536 := by
  unfold u16OfInt
  omega

theorem i16_range (x : ℤ) : -32768 ≤ i16 x ∧ i16 x < 32768 := by
  have hlo := Int.le_bmod (x := x) (m := 65536) (by norm_num)
  have hhi := Int.bmod_lt (x := x) (m := 65536) (by norm_num)
  unfold i16
  omega

theorem abs_clampI16_le (v : ℤ) : |clampI16 v| ≤ 32768 := by
  rw [clampI16]
  split_ifs <;> rw [abs_le] <;> omega

theorem abs_clampI16_le_abs (v : ℤ) : |clampI16 v| ≤ |v| := by
  rw [clampI16]
  split_ifs with h1 h2
  · rw [abs_of_nonneg (by norm_num), abs_of_nonneg (by omega)]
    omega
  · rw [abs_of_nonpos (by norm_num), abs_of_nonpos (by omega)]
    omega
  · exact le_rfl

theorem abs_tdiv_mul_le (n : ℤ) {d : ℤ} (hd : 0 < d) : |n.tdiv d| * d ≤ |n| := by
  obtain ⟨k, rfl⟩ := Int.eq_ofNat_of_zero_le hd.le
  have hquot : (n.tdiv k).natAbs = n.natAbs / k := Int.natAbs_tdiv n k
  rw [Int.abs_eq_natAbs, Int.abs_eq_natAbs, hquot]
  exact_mod_cast Nat.div_mul_le_self _ _

end SmartHelmet.MachineArith
