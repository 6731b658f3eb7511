import SmartHelmet.AutoCorrelation

namespace SmartHelmet.Vitals

open Config MachineArith RingBuffer LagSums

def corr (r : Resp) (lag : ℕ) : ℤ := lagSum (scaled (window r)) lag
def corr0 (r : Resp) : ℤ := energy (scaled (window r))

def fsResp (fsQ8 : ℕ) : ℕ := u16 (fsQ8 / respDecim)

def searched (r : Resp) (fsQ8 : ℕ) : List ℕ :=
  match respLags r fsQ8 with
  | none => []
  | some (_, minLag, maxLag) =>
    if shMaxAbsI16 (window r) = 0 ∨ corr0 r ≤ 0 then [] else List.range' minLag (maxLag + 1 - minLag)

structure RespSpec (r : Resp) (fsQ8 : ℕ) : Prop where
  accepted : (shRespBpm r fsQ8).1 ≠ 0 →
    let lag := (bestLag (scaled (window r)) (searched r fsQ8)).1
    (respMinQ8 * corr0 r ≤ 256 * corr r lag ∧ ∀ l ∈ searched r fsQ8, corr r l ≤ corr r lag) ∧
      (shRespBpm r fsQ8).1 = 60 * fsResp fsQ8 / (256 * lag) ∧
      respBpmMin ≤ (shRespBpm r fsQ8).1 ∧ (shRespBpm r fsQ8).1 ≤ respBpmMax
  band : ∀ lag ∈ searched r fsQ8,
    respBpmMin ≤ 60 * fsResp fsQ8 / (256 * lag) ∧ 60 * fsResp fsQ8 / (256 * lag) ≤ respBpmMax

/-- The division for the shortest lag drops less than the lag: it is the lag of 30 to 31 breaths. -/
def ShortestExact (fsQ8 : ℕ) : Prop :=
  60 * fsResp fsQ8 / 7680 < 2 ∨ 60 * fsResp fsQ8 % 7680 < 256 * (60 * fsResp fsQ8 / 7680)

/-- A window without a lag of a quarter of `r(0)` has none of a quarter of `r(0)` cut to 256s. -/
def CutHarmless (r : Resp) (fsQ8 : ℕ) : Prop :=
  (∀ lag ∈ searched r fsQ8, 4 * corr r lag < corr0 r) →
    ∀ lag ∈ searched r fsQ8, corr r lag < 64 * max (corr0 r / 256) 1

section Rates

variable {r : Resp} {fsQ8 : ℕ}

theorem searched_cases (r : Resp) (fsQ8 : ℕ) : searched r fsQ8 = [] ∨
    ∃ maxLag, respLags r fsQ8 = some (fsResp fsQ8, max (60 * fsResp fsQ8 / 7680) 2, maxLag) ∧
      searched r fsQ8 = List.range' (max (60 * fsResp fsQ8 / 7680) 2) (maxLag + 1 - max (60 * fsResp fsQ8 / 7680) 2) ∧
      ¬ (shMaxAbsI16 (window r) = 0 ∨ corr0 r ≤ 0) ∧
      max (60 * fsResp fsQ8 / 7680) 2 ≤ maxLag ∧ maxLag < r.ring.count ∧ maxLag ≤ 60 * fsResp fsQ8 / 2048 := by
  cases hlags : respLags r fsQ8 with
  | none =>
    left
    rw [searched, hlags]
  | some l =>
    obtain ⟨rate, minLag, maxLag⟩ := l
    obtain ⟨hrate, hmin, hle, hmax⟩ := respLags_spec hlags
    dsimp only at hrate hmin hle hmax
    rw [← fsResp] at hrate
    subst hrate
    rw [Nat.mul_comm] at hmin
    subst hmin
    rw [Nat.mul_comm (fsResp fsQ8)] at hmax
    by_cases hidle : shMaxAbsI16 (window r) = 0 ∨ corr0 r ≤ 0
    · left
      rw [searched, hlags]
      exact if_pos hidle
    · right
      refine ⟨maxLag, rfl, ?_, hidle, hle, ?_⟩
      · rw [searched, hlags]
        exact if_neg hidle
      · rcases hmax with hempty | hmax
        · have hwindow : window r = [] := List.length_eq_zero_iff.mp ((length_window r).trans hempty)
          exact absurd (Or.inl (by rw [hwindow]; rfl)) hidle
        · exact hmax

theorem mem_searched {lag : ℕ} (h : lag ∈ searched r fsQ8) :
    max (60 * fsResp fsQ8 / 7680) 2 ≤ lag ∧ lag ≤ 60 * fsResp fsQ8 / 2048 ∧ lag < r.ring.count := by
  rcases searched_cases r fsQ8 with hnone | ⟨maxLag, -, hsearched, -, -, hcount, hmax⟩
  · rw [hnone] at h
    exact absurd h List.not_mem_nil
  · rw [hsearched, List.mem_range'_1] at h
    omega

theorem respRate_eq {lag : ℕ} (h : lag ∈ searched r fsQ8) :
    respRate (fsResp fsQ8) lag = 60 * fsResp fsQ8 / (256 * lag) := by
  have hlag := (mem_searched h).1
  have hrate : fsResp fsQ8 < 65536 := u16_lt _
  rw [respRate, Nat.mul_comm (fsResp fsQ8), Nat.mul_comm lag]
  have hquot : 60 * fsResp fsQ8 / (256 * lag) ≤ 60 * fsResp fsQ8 / 512 :=
    Nat.div_le_div_left (by omega) (by norm_num)
  exact u16_of_lt (by omega)

theorem band_iff : (∀ lag ∈ searched r fsQ8, respBpmMin ≤ 60 * fsResp fsQ8 / (256 * lag) ∧
      60 * fsResp fsQ8 / (256 * lag) ≤ respBpmMax) ↔ (searched r fsQ8 ≠ [] → ShortestExact fsQ8) := by
  have hupper (m : ℕ) (hm : 2 ≤ m) : 60 * fsResp fsQ8 / (256 * m) ≤ 30 ↔ 60 * fsResp fsQ8 < 7936 * m := by
    rw [← Nat.lt_succ_iff, Nat.div_lt_iff_lt_mul (by omega)]
    omega
  have hshortest : 60 * fsResp fsQ8 < 7936 * max (60 * fsResp fsQ8 / 7680) 2 ↔ ShortestExact fsQ8 := by
    rw [ShortestExact]
    omega
  constructor
  · intro h hne
    rcases searched_cases r fsQ8 with hnone | ⟨maxLag, -, hsearched, -, hle, -⟩
    · exact absurd hnone hne
    · have hmem : max (60 * fsResp fsQ8 / 7680) 2 ∈ searched r fsQ8 := by
        rw [hsearched, List.mem_range'_1]
        omega
      rw [← hshortest, ← hupper _ (le_max_right _ _)]
      exact (h _ hmem).2
  · intro h lag hlag
    obtain ⟨hmin, hmax, -⟩ := mem_searched hlag
    have hexact := hshortest.mpr (h (List.ne_nil_of_mem hlag))
    constructor
    · rw [respBpmMin, Nat.le_div_iff_mul_le (by omega)]
      omega
    · refine (hupper lag (by omega)).mpr (hexact.trans_le ?_)
      exact Nat.mul_le_mul_left 7936 hmin

end Rates

section Quality

variable {r : Resp} {fsQ8 : ℕ}

theorem best_spec (hne : searched r fsQ8 ≠ []) :
    let best := bestLag (scaled (window r)) (searched r fsQ8)
    best.1 ∈ searched r fsQ8 ∧ best.2 = corr r best.1 ∧ ∀ lag ∈ searched r fsQ8, corr r lag ≤ best.2 := by
  have hpos : ∀ lag ∈ searched r fsQ8, lag ≠ 0 := by
    intro lag hlag
    have := (mem_searched hlag).1
    omega
  rcases bestLag_spec (scaled (window r)) hpos with ⟨hnone, -⟩ | h
  · exact absurd hnone hne
  · exact h

theorem quality_lt_iff {r0 best : ℤ} (hpos : 0 < best) (hle : best ≤ r0) (hr0 : r0 < 2 ^ 31) :
    u32OfInt best / (if u32OfInt r0 / 256 = 0 then 1 else u32OfInt r0 / 256) < respMinQ8 ↔
      best < 64 * max (r0 / 256) 1 := by
  have h1 : u32OfInt r0 = r0.toNat := by
    rw [u32OfInt, Int.emod_eq_of_lt (by omega) (by omega)]
  have h2 : u32OfInt best = best.toNat := by
    rw [u32OfInt, Int.emod_eq_of_lt (by omega) (by omega)]
  have hden : (if u32OfInt r0 / 256 = 0 then 1 else u32OfInt r0 / 256) = max (r0.toNat / 256) 1 := by
    rw [h1]
    split_ifs <;> omega
  rw [hden, h2, respMinQ8, Nat.div_lt_iff_lt_mul (by omega)]
  omega

theorem shRespBpm_searched (hne : searched r fsQ8 ≠ []) (hfit : corr0 r < 2 ^ 31) :
    let best := bestLag (scaled (window r)) (searched r fsQ8)
    (shRespBpm r fsQ8).1 =
      if best.2 < 64 * max (corr0 r / 256) 1 ∨ respRate (fsResp fsQ8) best.1 < respBpmMin ∨
        respRate (fsResp fsQ8) best.1 > respBpmMax then 0 else respRate (fsResp fsQ8) best.1 := by
  rcases searched_cases r fsQ8 with hnone | ⟨maxLag, hlags, hsearched, hidle, -⟩
  · exact absurd hnone hne
  have hbest := best_spec hne
  have hinside : ∀ lag ∈ searched r fsQ8, lag ≠ 0 ∧ lag ≤ (scaled (window r)).length := by
    intro lag hlag
    have := mem_searched hlag
    rw [length_scaled, length_window]
    omega
  rw [shRespBpm_eq, hlags]
  dsimp only
  rw [← window, ← length_window, lagBpm_eq, ← hsearched, search, ← corr0, if_neg hidle]
  dsimp only
  by_cases hneg : (bestLag (scaled (window r)) (searched r fsQ8)).2 ≤ 0
  · rw [if_pos (Or.inr hneg), if_pos (Or.inl (by omega))]
  · have hpos := not_le.mp hneg
    have hnonzero := (hinside _ hbest.1).1
    have hquality := quality_lt_iff hpos (bestLag_le_energy _ hinside hpos) hfit
    rw [if_neg (not_or.mpr ⟨hnonzero, hneg⟩)]
    dsimp only
    rw [corr0]
    exact if_congr (or_congr hquality Iff.rfl) rfl rfl

theorem searched_of_rate (h : (shRespBpm r fsQ8).1 ≠ 0) : searched r fsQ8 ≠ [] := by
  intro hnone
  apply h
  rw [shRespBpm_eq]
  cases hlags : respLags r fsQ8 with
  | none => rfl
  | some l =>
    obtain ⟨rate, minLag, maxLag⟩ := l
    dsimp only
    rw [← window, ← length_window, lagBpm_eq]
    rw [searched, hlags] at hnone
    dsimp only at hnone
    by_cases hidle : shMaxAbsI16 (window r) = 0 ∨ corr0 r ≤ 0
    · rw [search, ← corr0, if_pos hidle]
    · rw [if_neg hidle] at hnone
      rw [hnone, search, ← corr0, if_neg hidle]
      rfl

/-- An accepted respiration is what it is documented to be where the two divisions are harmless.
No sum leaves `int32` where `r(0)` does not. -/
theorem resp_spec_iff (hfit : corr0 r < 2 ^ 31) :
    RespSpec r fsQ8 ↔ (searched r fsQ8 ≠ [] → ShortestExact fsQ8) ∧ CutHarmless r fsQ8 := by
  constructor
  · intro h
    refine ⟨band_iff.mp h.band, ?_⟩
    intro hbelow lag hlag
    by_contra hreach
    have hne := List.ne_nil_of_mem hlag
    obtain ⟨hmem, hvalue, hmax⟩ := best_spec hne
    have hband := h.band _ hmem
    rw [← respRate_eq hmem] at hband
    have hrate := shRespBpm_searched hne hfit
    dsimp only at hrate
    rw [if_neg (by have := hmax lag hlag; omega)] at hrate
    have hquality := (h.accepted (by rw [hrate]; simp only [respBpmMin] at hband; omega)).1.1
    have := hbelow _ hmem
    simp only [respMinQ8] at hquality
    omega
  · rintro ⟨hshortest, hcut⟩
    have hband := band_iff.mpr hshortest
    refine ⟨?_, hband⟩
    intro hrate
    have hne := searched_of_rate hrate
    obtain ⟨hmem, hvalue, hmax⟩ := best_spec hne
    have hvalues := shRespBpm_searched hne hfit
    dsimp only at hvalues
    have haccepted : ¬ ((bestLag (scaled (window r)) (searched r fsQ8)).2 < 64 * max (corr0 r / 256) 1 ∨
        respRate (fsResp fsQ8) (bestLag (scaled (window r)) (searched r fsQ8)).1 < respBpmMin ∨
        respRate (fsResp fsQ8) (bestLag (scaled (window r)) (searched r fsQ8)).1 > respBpmMax) := by
      intro hrefused
      rw [if_pos hrefused] at hvalues
      exact hrate hvalues
    rw [if_neg haccepted, respRate_eq hmem] at hvalues
    refine ⟨⟨?_, fun l hl => (hmax l hl).trans hvalue.le⟩, hvalues, ?_⟩
    · by_contra hweak
      simp only [respMinQ8] at hweak
      have hnone := hcut (fun l hl => by have := hmax l hl; omega) _ hmem
      rw [hvalue] at haccepted
      exact haccepted (Or.inl hnone)
    · rw [hvalues]
      exact hband _ hmem

def held (vs : List UInt16) : Resp := respAfter (vs.flatMap (List.replicate 8))

def steadyBreaths : List UInt16 := (List.range 46).map fun k => if k % 12 < 6 then 1100 else 1000

theorem resp_spec_steady_breaths :
    RespSpec (held steadyBreaths) 6144 ∧ shRespBpm (held steadyBreaths) 6144 = (15, 176) := by
  have hfit : corr0 (held steadyBreaths) < 2 ^ 31 := by decide +kernel
  refine ⟨(resp_spec_iff hfit).mpr ⟨fun _ => Or.inr (by decide), ?_⟩, by decide +kernel⟩
  intro hbelow
  have hquarter : 12 ∈ searched (held steadyBreaths) 6144 ∧
      ¬ 4 * corr (held steadyBreaths) 12 < corr0 (held steadyBreaths) := by
    decide +kernel
  exact absurd (hbelow 12 hquarter.1) hquarter.2

/-- Six decimated samples a breath win with a quality of 215 and are then thrown away: 31 breaths. -/
def fastBreaths : List UInt16 := (List.range 46).map fun k => if k % 6 < 3 then 1100 else 1000

/-- Three small humps: `r(0)` is 335 and counts as 256, so that 65 of it pass for a quarter. -/
def threeHumps : List UInt16 :=
  (List.range 46).map fun k => if k = 9 then 1008 else if k = 13 ∨ k = 15 then 1012 else 1000

theorem resp_spec_fails :
    (¬ RespSpec (held fastBreaths) 6400 ∧ shRespBpm (held fastBreaths) 6400 = (0, 215)) ∧
      ¬ RespSpec (held threeHumps) 6144 ∧ shRespBpm (held threeHumps) 6144 = (30, 65) := by
  refine ⟨⟨?_, by decide +kernel⟩, ?_, by decide +kernel⟩
  · intro h
    have hsix : 6 ∈ searched (held fastBreaths) 6400 := by decide +kernel
    exact absurd (h.band 6 hsix).2 (by decide)
  · intro h
    have hrate : (shRespBpm (held threeHumps) 6144).1 ≠ 0 := by decide +kernel
    have hweak : ¬ respMinQ8 * corr0 (held threeHumps) ≤
        256 * corr (held threeHumps) (bestLag (scaled (window (held threeHumps))) (searched (held threeHumps) 6144)).1 := by
      decide +kernel
    exact hweak (h.accepted hrate).1.1

end Quality

end SmartHelmet.Vitals
