import SmartHelmet.ReportText

namespace SmartHelmet.Firmware

open MachineArith

def resistance (mv : ℕ) : ℕ := (micsVccMv - mv) * 1000 / mv

/-- The ratio is the floor of the hundredfold quotient. -/
def RatioExact (mv r0 : ℕ) : Prop :=
  resistance r0 ≠ 0 ∧ shGasRatioX100 mv r0 = resistance mv * 100 / resistance r0

structure GasOrdered (mv mv' r0 : ℕ) : Prop where
  exact : RatioExact mv r0 ∧ RatioExact mv' r0
  co : shCoPpm (shGasRatioX100 mv r0) ≤ shCoPpm (shGasRatioX100 mv' r0)
  nh3 : shNh3Ppm (shGasRatioX100 mv r0) ≤ shNh3Ppm (shGasRatioX100 mv' r0)
  no2 : shNo2PpmX100 (shGasRatioX100 mv' r0) ≤ shNo2PpmX100 (shGasRatioX100 mv r0)
  clean : shCoPpm (shGasRatioX100 r0 r0) = 1 ∧ shNh3Ppm (shGasRatioX100 r0 r0) = 1 ∧
    shNo2PpmX100 (shGasRatioX100 r0 r0) = 5

section Tables

variable {ratio ratio' : ℕ}

theorem shCoPpm_antitone (h : ratio' ≤ ratio) : shCoPpm ratio ≤ shCoPpm ratio' := by
  unfold shCoPpm
  split_ifs <;> omega

theorem shNh3Ppm_antitone (h : ratio' ≤ ratio) : shNh3Ppm ratio ≤ shNh3Ppm ratio' := by
  unfold shNh3Ppm
  split_ifs <;> omega

theorem shNo2PpmX100_mono (h : ratio' ≤ ratio) : shNo2PpmX100 ratio' ≤ shNo2PpmX100 ratio := by
  unfold shNo2PpmX100
  split_ifs <;> omega

end Tables

section Ratio

variable {mv mv' r0 : ℕ}

theorem resistance_antitone (hpos : 0 < mv) (h : mv ≤ mv') : resistance mv' ≤ resistance mv := by
  have hnum : (micsVccMv - mv') * 1000 ≤ (micsVccMv - mv) * 1000 := by
    apply Nat.mul_le_mul_right
    omega
  calc resistance mv' ≤ (micsVccMv - mv) * 1000 / mv' := Nat.div_le_div_right hnum
    _ ≤ resistance mv := Nat.div_le_div_left h hpos

theorem shGasRatioX100_eq (hmv : 50 ≤ mv ∧ mv < 3300) (hr0 : 50 ≤ r0 ∧ r0 < 3300) :
    shGasRatioX100 mv r0 = if resistance r0 = 0 then 100 else u16 (resistance mv * 100 / resistance r0) := by
  unfold shGasRatioX100
  rw [if_neg (by simp only [micsVccMv]; omega)]
  rfl

theorem ratioExact_iff (hmv : 50 ≤ mv ∧ mv < 3300) (hr0 : 50 ≤ r0 ∧ r0 < 3300) :
    RatioExact mv r0 ↔ resistance r0 ≠ 0 ∧ resistance mv * 100 / resistance r0 < 65536 := by
  apply and_congr_right
  intro hne
  rw [shGasRatioX100_eq hmv hr0, if_neg hne, u16, Nat.mod_eq_iff_lt (by norm_num)]

theorem ratio_at_reference (hr0 : 50 ≤ r0 ∧ r0 < 3300) : shGasRatioX100 r0 r0 = 100 := by
  rw [shGasRatioX100_eq hr0 hr0]
  by_cases hzero : resistance r0 = 0
  · rw [if_pos hzero]
  · rw [if_neg hzero, Nat.mul_div_cancel_left _ (Nat.pos_of_ne_zero hzero)]
    rfl

end Ratio

/-- Two readings keep their order exactly when the quotient of the lower one fits into 16 bits. -/
theorem gas_ordered_iff (mv mv' r0 : ℕ) (hmv : 50 ≤ mv) (hle : mv ≤ mv') (hmv' : mv' < micsVccMv)
    (hr0 : 50 ≤ r0 ∧ r0 < micsVccMv) :
    GasOrdered mv mv' r0 ↔ resistance r0 ≠ 0 ∧ resistance mv * 100 < 65536 * resistance r0 := by
  have hlow : 50 ≤ mv ∧ mv < 3300 := ⟨hmv, hle.trans_lt hmv'⟩
  have hhigh : 50 ≤ mv' ∧ mv' < 3300 := ⟨hmv.trans hle, hmv'⟩
  have hfits : (resistance r0 ≠ 0 ∧ resistance mv * 100 < 65536 * resistance r0) ↔ RatioExact mv r0 := by
    rw [ratioExact_iff hlow hr0]
    apply and_congr_right
    intro hne
    rw [Nat.div_lt_iff_lt_mul (Nat.pos_of_ne_zero hne)]
  rw [hfits]
  constructor
  · exact fun h => h.exact.1
  · intro hexact
    have hres : resistance mv' ≤ resistance mv := resistance_antitone (by omega) hle
    have hexact' : RatioExact mv' r0 := by
      obtain ⟨hne, hlt⟩ := (ratioExact_iff hlow hr0).mp hexact
      refine (ratioExact_iff hhigh hr0).mpr ⟨hne, lt_of_le_of_lt ?_ hlt⟩
      exact Nat.div_le_div_right (Nat.mul_le_mul_right 100 hres)
    have hratio : shGasRatioX100 mv' r0 ≤ shGasRatioX100 mv r0 := by
      rw [hexact.2, hexact'.2]
      exact Nat.div_le_div_right (Nat.mul_le_mul_right 100 hres)
    refine ⟨⟨hexact, hexact'⟩, shCoPpm_antitone hratio, shNh3Ppm_antitone hratio, shNo2PpmX100_mono hratio, ?_⟩
    rw [ratio_at_reference hr0]
    decide

theorem gas_ordered_mid_reference :
    (resistance 1650 ≠ 0 ∧ resistance 400 * 100 < 65536 * resistance 1650) ∧ GasOrdered 400 2000 1650 :=
  ⟨by decide, (gas_ordered_iff 400 2000 1650 (by decide) (by decide) (by decide) (by decide)).mpr (by decide)⟩

/-- With the reference at 3296 mV the reading at 1992 mV shows more carbon monoxide than the one
at 2000 mV. -/
theorem gas_not_ordered_high_reference :
    ¬GasOrdered 1992 2000 3296 ∧ shCoPpm (shGasRatioX100 1992 3296) = 10 ∧ shCoPpm (shGasRatioX100 2000 3296) = 1 := by
  refine ⟨fun h => absurd h.co (by decide), by decide, by decide⟩

end SmartHelmet.Firmware
