import Mathlib

namespace SmartHelmet.Firmware

def bytes (s : String) : List UInt8 := s.toList.map (fun c => UInt8.ofNat c.toNat)

def foldByte (b : UInt8) : UInt8 := if 65 ≤ b ∧ b ≤ 90 then b - 65 + 97 else b

/-- The inner loop of `shContainsFold`; it fails where the buffer ends before the needle. -/
def startsFold : List UInt8 → List UInt8 → Bool
  | _, [] => true
  | [], _ :: _ => false
  | a :: data, b :: needle => foldByte a == foldByte b && startsFold data needle

def searchFold (needle : List UInt8) : List UInt8 → Bool
  | [] => false
  | a :: data => startsFold (a :: data) needle || searchFold needle data

def shContainsFold (data : List UInt8) (needle : String) : Bool :=
  !(bytes needle).isEmpty && searchFold (bytes needle) data

theorem startsFold_iff (data needle : List UInt8) :
    startsFold data needle = true ↔ needle.map foldByte <+: data.map foldByte := by
  induction needle generalizing data with
  | nil => simp [startsFold]
  | cons b needle ih =>
    cases data with
    | nil => simp [startsFold]
    | cons a data =>
      rw [startsFold, Bool.and_eq_true, ih, beq_iff_eq, List.map_cons, List.map_cons, List.cons_prefix_cons]
      exact and_congr_left (fun _ => eq_comm)

theorem searchFold_iff {needle : List UInt8} (hne : needle ≠ []) (data : List UInt8) :
    searchFold needle data = true ↔ needle.map foldByte <:+: data.map foldByte := by
  induction data with
  | nil => simpa [searchFold] using hne
  | cons a data ih =>
    rw [searchFold, Bool.or_eq_true, startsFold_iff, ih, List.map_cons]
    exact List.infix_cons_iff.symm

theorem shContainsFold_iff {needle : String} (hne : bytes needle ≠ []) (data : List UInt8) :
    shContainsFold data needle = true ↔ (bytes needle).map foldByte <:+: data.map foldByte := by
  have hemp : (bytes needle).isEmpty = false := by
    rw [Bool.eq_false_iff, Ne, List.isEmpty_iff]
    exact hne
  rw [shContainsFold, hemp, Bool.not_false, Bool.true_and]
  exact searchFold_iff hne data

theorem shContainsFold_of_part {part data : List UInt8} {needle : String} (hne : bytes needle ≠ [])
    (hpart : part <:+: data) (h : shContainsFold part needle = true) :
    shContainsFold data needle = true := by
  rw [shContainsFold_iff hne] at h ⊢
  exact h.trans (hpart.map foldByte)

end SmartHelmet.Firmware
