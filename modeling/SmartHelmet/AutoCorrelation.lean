import SmartHelmet.LagSums
import SmartHelmet.PulseEstimators
import SmartHelmet.ScratchBuffers

namespace SmartHelmet.Vitals

open Config MachineArith RingBuffer LagSums

@[simp] def acMinLag : ℕ := fsHz * 60 / hrBpmMax
@[simp] def acMaxLag : ℕ := fsHz * 60 / hrBpmMin
@[simp] def hrAcMinQ8 : ℕ := 77

def acLags (n : ℕ) : Option (ℕ × ℕ) :=
  let minLag := if acMinLag = 0 then 1 else acMinLag
  if n ≤ u8 (minLag + 1) then none
  else
    let maxLag := if n ≤ acMaxLag + minLag then u16OfInt ((n : ℤ) - minLag) else acMaxLag
    if maxLag < minLag then none else some (minLag, maxLag)

/-- `sh_ac_r` holds the sums of the lags that were searched, the first at index zero. -/
def interpolatedLag (r : List ℤ) (minLag maxLag : ℕ) (best : ℕ × ℤ) : ℕ :=
  let lagQ8 := u16 (best.1 * 256)
  if minLag < best.1 ∧ best.1 < maxLag then
    let rp := r.getD (best.1 - minLag - 1) 0
    let rn := r.getD (best.1 - minLag + 1) 0
    if rp > 0 ∧ rn > 0 then
      let (a, b, c) := shFitScale3 (u32OfInt rp) (u32OfInt best.2) (u32OfInt rn)
      u16OfInt (lagQ8 + shParabolicDeltaQ8 a b c)
    else lagQ8
  else lagQ8

def shAutoCorrBpm (fsQ8 : ℕ) (x : List ℤ) : ℕ × ℕ :=
  match acLags x.length with
  | none => (0, 0)
  | some (minLag, maxLag) =>
    let peak := shMaxAbsI16 x
    if peak = 0 then (0, 0)
    else
      let sh := scaleShift peak x.length 15 0
      let y := x.map (fun v => v / 2 ^ sh)
      let r0 := (y.map (fun v => v * v)).sum
      if r0 ≤ 0 then (0, 0)
      else
        let lags := List.range' minLag (maxLag + 1 - minLag)
        let best := bestLag y lags
        if best.1 = 0 ∨ best.2 ≤ 0 then (0, 0)
        else
          let den := if u32OfInt r0 / 256 = 0 then 1 else u32OfInt r0 / 256
          let q := u32OfInt best.2 / den
          let q8 := if q > 0xffff then 0xffff else q
          if q < hrAcMinQ8 then (0, q8)
          else
            let lagQ8 := interpolatedLag (lags.map (lagSum y)) minLag maxLag best
            if lagQ8 = 0 then (0, q8)
            else (bpmInBand (shIntervalQ8ToBpm fsQ8 lagQ8), q8)

def shiftOf (x : List ℤ) : ℕ := scaleShift (shMaxAbsI16 x) x.length 15 0

def scaled (x : List ℤ) : List ℤ := x.map (fun v => v / 2 ^ shiftOf x)

/-- No value of the scaling test leaves `uint32`, no value of the sums leaves `int32`. -/
structure SumsFit (x : List ℤ) (minLag maxLag : ℕ) : Prop where
  test : ∀ sh ≤ shiftOf x, shMaxAbsI16 x / 2 ^ sh * (shMaxAbsI16 x / 2 ^ sh) * x.length < 2 ^ 32
  product : ∀ i j, |(scaled x).getD i 0 * (scaled x).getD j 0| < 2 ^ 31
  zero : ∀ k ≤ x.length, |partialSum (scaled x) 0 k| < 2 ^ 31
  lag : ∀ lag, minLag ≤ lag → lag ≤ maxLag → ∀ k ≤ x.length - lag, |partialSum (scaled x) lag k| < 2 ^ 31

def TestExact (x : List ℤ) : Prop := shMaxAbsI16 x * shMaxAbsI16 x * x.length < 2 ^ 32

theorem lagSum_eq (x : List ℤ) (lag : ℕ) : lagSum x lag = partialSum x lag (x.length - lag) := rfl

theorem length_scaled (x : List ℤ) : (scaled x).length = x.length := List.length_map _

section Scaling

theorem scaleShift_spec {peak n : ℕ} (hpeak : peak ≤ 32768) (hn : n ≤ 255) (htest : peak * peak * n < 2 ^ 32)
    (fuel sh : ℕ) (hfuel : fuel + sh = 15) :
    peak / 2 ^ scaleShift peak n fuel sh * (peak / 2 ^ scaleShift peak n fuel sh) * n ≤ 0x3fffffff := by
  induction fuel generalizing sh with
  | zero =>
    obtain rfl : sh = 15 := by omega
    have hone : peak / 2 ^ 15 ≤ 1 := by omega
    calc peak / 2 ^ 15 * (peak / 2 ^ 15) * n ≤ 1 * 1 * n := by gcongr
      _ ≤ 0x3fffffff := by omega
  | succ fuel ih =>
    have hexact : peak / 2 ^ sh * (peak / 2 ^ sh) * n < 2 ^ 32 := by
      have hle := Nat.div_le_self peak (2 ^ sh)
      calc peak / 2 ^ sh * (peak / 2 ^ sh) * n ≤ peak * peak * n := by gcongr
        _ < 2 ^ 32 := htest
    have hsquare : peak / 2 ^ sh * (peak / 2 ^ sh) ≤ 32768 * 32768 := by
      have hle : peak / 2 ^ sh ≤ 32768 := (Nat.div_le_self peak (2 ^ sh)).trans hpeak
      exact Nat.mul_le_mul hle hle
    have hvalue : u32 (u32 (peak / 2 ^ sh * (peak / 2 ^ sh)) * n) = peak / 2 ^ sh * (peak / 2 ^ sh) * n := by
      rw [u32, u32, Nat.mod_eq_of_lt (hsquare.trans_lt (by norm_num)),
        Nat.mod_eq_of_lt (hexact.trans_eq (by norm_num))]
    rw [scaleShift, hvalue]
    split_ifs with hloop
    · exact ih (sh + 1) (by omega)
    · simp only [not_and, not_lt] at hloop
      exact hloop (by omega)

variable {x : List ℤ}

theorem abs_le_shMaxAbsI16 (hx : ∀ v ∈ x, |v| ≤ 32768) : ∀ v ∈ x, |v| ≤ shMaxAbsI16 x := by
  intro v hv
  have h := (le_foldl_of_le (f := fun m (v : ℤ) => if v.natAbs > m then u16 v.natAbs else m) (g := Int.natAbs)
    (l := x) ?_ 0).2 v hv
  · rw [Int.abs_eq_natAbs]
    exact_mod_cast h
  · intro m a ha
    have hlt : a.natAbs < 65536 := by
      have := hx a ha
      rw [Int.abs_eq_natAbs] at this
      omega
    rw [u16_of_lt hlt]
    split_ifs <;> omega

theorem shMaxAbsI16_le (hx : ∀ v ∈ x, |v| ≤ 32768) : shMaxAbsI16 x ≤ 32768 := by
  rw [shMaxAbsI16]
  apply List.foldlRecOn (motive := fun m : ℕ => m ≤ 32768)
  · exact Nat.zero_le _
  · intro m hm v hv
    have hle : v.natAbs ≤ 32768 := by
      have := hx v hv
      rw [Int.abs_eq_natAbs] at this
      omega
    split_ifs
    · exact (Nat.mod_le _ _).trans hle
    · exact hm

theorem abs_scaled_le (hx : ∀ v ∈ x, |v| ≤ 32768) :
    ∀ v ∈ scaled x, |v| ≤ ((shMaxAbsI16 x / 2 ^ shiftOf x : ℕ) : ℤ) + 1 := by
  intro v hv
  obtain ⟨a, ha, rfl⟩ := List.mem_map.mp hv
  have hle := abs_le_shMaxAbsI16 hx a ha
  have hpos : (0 : ℤ) < 2 ^ shiftOf x := by positivity
  have hpeak : (shMaxAbsI16 x : ℤ) < 2 ^ shiftOf x * (((shMaxAbsI16 x / 2 ^ shiftOf x : ℕ) : ℤ) + 1) := by
    have := Nat.lt_mul_div_succ (shMaxAbsI16 x) (show 0 < 2 ^ shiftOf x by positivity)
    exact_mod_cast this
  rw [abs_le] at hle ⊢
  constructor
  · apply Int.le_ediv_of_mul_le hpos
    nlinarith
  · apply (Int.ediv_lt_of_lt_mul hpos _).le
    nlinarith

theorem mul_square_succ_lt {p n k : ℕ} (hn : n ≤ 100) (hk : k ≤ n) (h : p * p * n ≤ 0x3fffffff) :
    k * ((p + 1) * (p + 1)) < 2 ^ 31 := by
  by_cases hp : p < 3
  · have hsmall : (p + 1) * (p + 1) ≤ 3 * 3 := Nat.mul_le_mul hp hp
    calc k * ((p + 1) * (p + 1)) ≤ 100 * (3 * 3) := Nat.mul_le_mul (hk.trans hn) hsmall
      _ < 2 ^ 31 := by norm_num
  · have hdouble : (p + 1) * (p + 1) ≤ 2 * (p * p) := by nlinarith
    calc k * ((p + 1) * (p + 1)) ≤ n * (2 * (p * p)) := Nat.mul_le_mul hk hdouble
      _ = 2 * (p * p * n) := by ring
      _ < 2 ^ 31 := by omega

theorem sumsFit_of_testExact (hlen : x.length ≤ 100) (hx : ∀ v ∈ x, |v| ≤ 32768) (htest : TestExact x)
    (minLag maxLag : ℕ) : SumsFit x minLag maxLag := by
  have hguard := scaleShift_spec (shMaxAbsI16_le hx) (show x.length ≤ 255 by omega) htest 15 0 rfl
  have hscaled := abs_scaled_le hx
  have hpeak : shMaxAbsI16 x / 2 ^ shiftOf x ≤ 32768 := (Nat.div_le_self _ _).trans (shMaxAbsI16_le hx)
  rw [← shiftOf] at hguard
  generalize shMaxAbsI16 x / 2 ^ shiftOf x = p at hguard hscaled hpeak
  have hpos : (0 : ℤ) ≤ (p : ℤ) + 1 := by omega
  have hproduct : ((p : ℤ) + 1) * (p + 1) < 2 ^ 31 := by nlinarith
  have hsum {k : ℕ} (hk : k ≤ x.length) : (k : ℤ) * ((p + 1) * (p + 1)) < 2 ^ 31 := by
    exact_mod_cast mul_square_succ_lt hlen hk hguard
  exact {
    test := fun sh _ => by
      have hle := Nat.div_le_self (shMaxAbsI16 x) (2 ^ sh)
      calc shMaxAbsI16 x / 2 ^ sh * (shMaxAbsI16 x / 2 ^ sh) * x.length
          ≤ shMaxAbsI16 x * shMaxAbsI16 x * x.length := by gcongr
        _ < 2 ^ 32 := htest
    product := fun i j => (abs_product_le hpos hscaled i j).trans_lt hproduct
    zero := fun k hk => (abs_partialSum_le hpos hscaled 0 k).trans_lt (hsum hk)
    lag := fun lag _ _ k hk => (abs_partialSum_le hpos hscaled lag k).trans_lt (hsum (by omega)) }

end Scaling

section Search

theorem bestLag_spec (y : List ℤ) {lags : List ℕ} (hpos : ∀ lag ∈ lags, lag ≠ 0) :
    lags = [] ∧ bestLag y lags = (0, 0) ∨
      (bestLag y lags).1 ∈ lags ∧ (bestLag y lags).2 = lagSum y (bestLag y lags).1 ∧
        ∀ lag ∈ lags, lagSum y lag ≤ (bestLag y lags).2 := by
  induction lags using List.reverseRecOn with
  | nil => exact Or.inl ⟨rfl, rfl⟩
  | append_singleton lags lag ih =>
    have hstep : bestLag y (lags ++ [lag]) =
        if (bestLag y lags).1 = 0 ∨ lagSum y lag > (bestLag y lags).2 then (lag, lagSum y lag) else bestLag y lags := by
      rw [bestLag, List.foldl_append]
      rfl
    right
    rw [hstep]
    rcases ih fun l hl => hpos l (List.mem_append_left _ hl) with ⟨rfl, hnone⟩ | ⟨hmem, hvalue, hmax⟩
    · rw [if_pos (Or.inl (by rw [hnone]))]
      simp
    · have hne := hpos _ (List.mem_append_left [lag] hmem)
      by_cases hbetter : lagSum y lag > (bestLag y lags).2
      · rw [if_pos (Or.inr hbetter)]
        refine ⟨by simp, rfl, ?_⟩
        intro l hl
        rcases List.mem_append.mp hl with hl | hl
        · exact (hmax l hl).trans hbetter.le
        · rw [List.mem_singleton.mp hl]
      · rw [if_neg (by rintro (h | h); exacts [hne h, hbetter h])]
        refine ⟨List.mem_append_left _ hmem, hvalue, ?_⟩
        intro l hl
        rcases List.mem_append.mp hl with hl | hl
        · exact hmax l hl
        · rw [List.mem_singleton.mp hl]
          exact not_lt.mp hbetter

theorem bestLag_le_energy (y : List ℤ) {lags : List ℕ} (hlags : ∀ lag ∈ lags, lag ≠ 0 ∧ lag ≤ y.length)
    (hpos : 0 < (bestLag y lags).2) : (bestLag y lags).2 ≤ energy y := by
  rcases bestLag_spec y fun lag h => (hlags lag h).1 with ⟨rfl, hnone⟩ | ⟨hmem, hvalue, -⟩
  · rw [hnone] at hpos
    exact absurd hpos (lt_irrefl 0)
  · rw [hvalue, lagSum_eq]
    have := (hlags _ hmem).2
    exact partialSum_le_energy y (by omega)

theorem quality_le {r0 best : ℤ} (hbest : best ≤ r0) (hpos : 0 < best) (hr0 : r0 < 2 ^ 31) :
    let den := if u32OfInt r0 / 256 = 0 then 1 else u32OfInt r0 / 256
    u32OfInt best / den ≤ 511 := by
  have h1 : u32OfInt r0 = r0.toNat := by
    rw [u32OfInt, Int.emod_eq_of_lt (by omega) (by omega)]
  have h2 : u32OfInt best = best.toNat := by
    rw [u32OfInt, Int.emod_eq_of_lt (by omega) (by omega)]
  have hle : best.toNat ≤ r0.toNat := Int.toNat_le_toNat hbest
  dsimp only
  rw [h1, h2]
  generalize r0.toNat = a at hle
  split_ifs with hsmall
  · rw [Nat.div_one]
    omega
  · have hpos : 0 < a / 256 := Nat.pos_of_ne_zero hsmall
    apply Nat.le_of_lt_succ
    rw [Nat.div_lt_iff_lt_mul hpos]
    omega

end Search

section Calls

/-- What is asked of a call on a window: exact sums, and a winner and a quality in range. -/
structure Exact (x : List ℤ) (lags : Option (ℕ × ℕ)) (out : ℕ × ℕ) : Prop where
  sums : ∀ l ∈ lags, SumsFit x l.1 l.2
  best : out.1 ≠ 0 → ∃ l ∈ lags, 0 < (bestLag (scaled x) (List.range' l.1 (l.2 + 1 - l.1))).2 ∧
    (bestLag (scaled x) (List.range' l.1 (l.2 + 1 - l.1))).2 ≤ energy (scaled x)
  quality : out.2 ≤ 511

def search (x : List ℤ) (lags : List ℕ) : Option ((ℕ × ℤ) × ℕ) :=
  if shMaxAbsI16 x = 0 ∨ energy (scaled x) ≤ 0 then none
  else
    let best := bestLag (scaled x) lags
    if best.1 = 0 ∨ best.2 ≤ 0 then none
    else
      let den := if u32OfInt (energy (scaled x)) / 256 = 0 then 1 else u32OfInt (energy (scaled x)) / 256
      some (best, u32OfInt best.2 / den)

def respRate (fsRespQ8 lag : ℕ) : ℕ := u16 (fsRespQ8 * 60 / (lag * 256))

theorem lagBpm_eq (fsRespQ8 minLag maxLag : ℕ) (x : List ℤ) : lagBpm fsRespQ8 minLag maxLag x.length x =
    match search x (List.range' minLag (maxLag + 1 - minLag)) with
    | none => (0, 0)
    | some (best, q) =>
      (if q < respMinQ8 ∨ respRate fsRespQ8 best.1 < respBpmMin ∨ respRate fsRespQ8 best.1 > respBpmMax then 0
        else respRate fsRespQ8 best.1, if q > 0xffff then 0xffff else q) := by
  unfold lagBpm search
  dsimp only
  rw [← shiftOf, ← scaled, ← energy]
  generalize energy (scaled x) = r0
  generalize bestLag (scaled x) _ = best
  generalize u32OfInt best.2 / _ = q
  by_cases hpeak : shMaxAbsI16 x = 0
  · rw [if_pos hpeak, if_pos (Or.inl hpeak)]
  rw [if_neg hpeak]
  by_cases henergy : r0 ≤ 0
  · rw [if_pos henergy, if_pos (Or.inr henergy)]
  rw [if_neg henergy, if_neg (not_or.mpr ⟨hpeak, henergy⟩)]
  by_cases hnone : best.1 = 0 ∨ best.2 ≤ 0
  · rw [if_pos hnone, if_pos hnone]
  rw [if_neg hnone, if_neg hnone]
  dsimp only
  rw [← respRate]
  by_cases hweak : q < respMinQ8
  · rw [if_pos hweak, if_pos (Or.inl hweak)]
  rw [if_neg hweak]
  by_cases hband : respRate fsRespQ8 best.1 < respBpmMin ∨ respRate fsRespQ8 best.1 > respBpmMax
  · rw [if_pos hband, if_pos (Or.inr hband)]
  · rw [if_neg hband, if_neg (not_or.mpr ⟨hweak, hband⟩)]

theorem shAutoCorrBpm_eq (fsQ8 : ℕ) (x : List ℤ) : shAutoCorrBpm fsQ8 x =
    match acLags x.length with
    | none => (0, 0)
    | some (minLag, maxLag) =>
      let lags := List.range' minLag (maxLag + 1 - minLag)
      match search x lags with
      | none => (0, 0)
      | some (best, q) =>
        let lagQ8 := interpolatedLag (lags.map (lagSum (scaled x))) minLag maxLag best
        (if q < hrAcMinQ8 ∨ lagQ8 = 0 then 0 else bpmInBand (shIntervalQ8ToBpm fsQ8 lagQ8),
          if q > 0xffff then 0xffff else q) := by
  unfold shAutoCorrBpm
  cases acLags x.length with
  | none => rfl
  | some lags =>
    unfold search
    dsimp only
    rw [← shiftOf, ← scaled, ← energy]
    generalize energy (scaled x) = r0
    generalize bestLag (scaled x) _ = best
    generalize u32OfInt best.2 / _ = q
    by_cases hpeak : shMaxAbsI16 x = 0
    · rw [if_pos hpeak, if_pos (Or.inl hpeak)]
    rw [if_neg hpeak]
    by_cases henergy : r0 ≤ 0
    · rw [if_pos henergy, if_pos (Or.inr henergy)]
    rw [if_neg henergy, if_neg (not_or.mpr ⟨hpeak, henergy⟩)]
    by_cases hnone : best.1 = 0 ∨ best.2 ≤ 0
    · rw [if_pos hnone, if_pos hnone]
    rw [if_neg hnone, if_neg hnone]
    dsimp only
    generalize interpolatedLag _ _ _ best = lagQ8
    by_cases hweak : q < hrAcMinQ8
    · rw [if_pos hweak, if_pos (Or.inl hweak)]
    rw [if_neg hweak]
    by_cases hzero : lagQ8 = 0
    · rw [if_pos hzero, if_pos (Or.inr hzero)]
    · rw [if_neg hzero, if_neg (not_or.mpr ⟨hweak, hzero⟩)]

theorem search_spec {x : List ℤ} {lags : List ℕ} {best : ℕ × ℤ} {q : ℕ} (h : search x lags = some (best, q))
    (hlags : ∀ lag ∈ lags, lag ≠ 0 ∧ lag ≤ x.length) (hfit : |energy (scaled x)| < 2 ^ 31) :
    best = bestLag (scaled x) lags ∧ 0 < best.2 ∧ best.2 ≤ energy (scaled x) ∧ q ≤ 511 := by
  rw [search] at h
  by_cases hidle : shMaxAbsI16 x = 0 ∨ energy (scaled x) ≤ 0
  · rw [if_pos hidle] at h
    exact absurd h (by simp)
  rw [if_neg hidle] at h
  dsimp only at h
  by_cases hnone : (bestLag (scaled x) lags).1 = 0 ∨ (bestLag (scaled x) lags).2 ≤ 0
  · rw [if_pos hnone] at h
    exact absurd h (by simp)
  rw [if_neg hnone, Option.some.injEq, Prod.mk.injEq] at h
  obtain ⟨rfl, rfl⟩ := h
  have hpos : 0 < (bestLag (scaled x) lags).2 := not_le.mp (not_or.mp hnone).2
  have hle := bestLag_le_energy (scaled x) (by rwa [length_scaled]) hpos
  exact ⟨rfl, hpos, hle, quality_le hle hpos (abs_lt.mp hfit).2⟩

theorem exact_iff {x : List ℤ} {lags : Option (ℕ × ℕ)} {out : ℕ × ℕ} (hlen : x.length ≤ 100)
    (hx : ∀ v ∈ x, |v| ≤ 32768) (hlags : ∀ l ∈ lags, l.1 ≠ 0 ∧ (l.2 ≤ x.length ∨ x = []))
    (hout : out = (0, 0) ∨ ∃ l ∈ lags, ∃ best q, search x (List.range' l.1 (l.2 + 1 - l.1)) = some (best, q) ∧
      out.2 = if q > 0xffff then 0xffff else q) :
    Exact x lags out ↔ (lags.isSome → TestExact x) := by
  constructor
  · intro h hsome
    obtain ⟨l, hl⟩ := Option.isSome_iff_exists.mp hsome
    have := (h.sums l hl).test 0 (Nat.zero_le _)
    rwa [pow_zero, Nat.div_one] at this
  · intro htest
    have hsums : ∀ l ∈ lags, SumsFit x l.1 l.2 := by
      intro l hl
      exact sumsFit_of_testExact hlen hx (htest (Option.isSome_of_mem hl)) l.1 l.2
    rcases hout with rfl | ⟨l, hl, best, q, hsearch, hq⟩
    · exact ⟨hsums, fun h => absurd rfl h, Nat.zero_le _⟩
    · have hfit : |energy (scaled x)| < 2 ^ 31 := by
        have := (hsums l hl).zero x.length le_rfl
        rwa [← length_scaled, partialSum_length] at this
      have hinside : ∀ lag ∈ List.range' l.1 (l.2 + 1 - l.1), lag ≠ 0 ∧ lag ≤ x.length := by
        obtain ⟨hmin, hmax | rfl⟩ := hlags l hl
        · intro lag hlag
          rw [List.mem_range'_1] at hlag
          omega
        · have hpeak : shMaxAbsI16 [] = 0 := rfl
          rw [search, if_pos (Or.inl hpeak)] at hsearch
          exact absurd hsearch (by simp)
      obtain ⟨rfl, hpos, hle, hquality⟩ := search_spec hsearch hinside hfit
      refine ⟨hsums, fun _ => ⟨l, hl, hpos, hle⟩, ?_⟩
      rw [hq, if_neg (by omega)]
      exact hquality

theorem acLags_inside {n : ℕ} {l : ℕ × ℕ} (h : l ∈ acLags n) (hn : n ≤ 100) : l.1 = 8 ∧ l.2 ≤ n := by
  have hmin : (if acMinLag = 0 then 1 else acMinLag) = 8 := rfl
  have hmax : acMaxLag = 37 := rfl
  simp only [acLags, hmin, hmax, u8, u16OfInt] at h
  split_ifs at h <;> simp only [Option.mem_def, Option.some.injEq, reduceCtorEq] at h
  all_goals
    subst h
    dsimp only
    omega

theorem respLags_spec {r : Resp} {fsQ8 : ℕ} {l : ℕ × ℕ × ℕ} (h : l ∈ respLags r fsQ8) :
    l.1 = u16 (fsQ8 / respDecim) ∧ l.2.1 = max (l.1 * 60 / 7680) 2 ∧ l.2.1 ≤ l.2.2 ∧
      (r.ring.count = 0 ∨ l.2.2 < r.ring.count ∧ l.2.2 ≤ l.1 * 60 / 2048) := by
  have hcount : r.ring.count ≤ 64 := r.ring.count_le
  have hrate := u16_lt (fsQ8 / respDecim)
  simp only [respLags] at h
  generalize u16 (fsQ8 / respDecim) = rate at h hrate ⊢
  rw [u16_of_lt (show rate * 60 / (respBpmMax * 256) < 65536 by simp only [respBpmMax]; omega),
    u16_of_lt (show rate * 60 / (respBpmMin * 256) < 65536 by simp only [respBpmMin]; omega)] at h
  have hmax : rate * 60 / (respBpmMin * 256) = rate * 60 / 2048 := rfl
  have hmin : rate * 60 / (respBpmMax * 256) = rate * 60 / 7680 := rfl
  rw [hmax, hmin] at h
  split_ifs at h <;> simp only [Option.mem_def, Option.some.injEq, reduceCtorEq] at h
  all_goals
    subst h
    dsimp only [u16OfInt] at *
    refine ⟨rfl, rfl, by omega, ?_⟩
    omega

end Calls

section Samples

def window (r : Resp) : List ℤ := r.ring.ordered r.ring.count

theorem length_window (r : Resp) : (window r).length = r.ring.count := by
  rw [window, Ring.ordered, List.length_map, List.length_range]

def respAfter (mvs : List UInt16) : Resp := mvs.foldl (fun r mv => shRespPush r mv.toNat) boot.resp

theorem buf_shRespPush {r : Resp} (h : ∀ v ∈ r.ring.buf, |v| ≤ 32768) (mv : ℕ) :
    ∀ v ∈ (shRespPush r mv).ring.buf, |v| ≤ 32768 := by
  unfold shRespPush
  dsimp only
  split_ifs
  · exact h
  all_goals
    intro v hv
    rcases List.mem_or_eq_of_mem_set hv with hv | rfl
    · exact h v hv
    · exact abs_clampI16_le _

theorem buf_respAfter (mvs : List UInt16) : ∀ v ∈ (respAfter mvs).ring.buf, |v| ≤ 32768 := by
  apply List.foldlRecOn (motive := fun r : Resp => ∀ v ∈ r.ring.buf, |v| ≤ 32768)
  · intro v hv
    rw [show v = 0 from List.eq_of_mem_replicate hv]
    norm_num
  · intro r h mv _
    exact buf_shRespPush h mv.toNat

theorem abs_window_le {r : Resp} (h : ∀ v ∈ r.ring.buf, |v| ≤ 32768) : ∀ v ∈ window r, |v| ≤ 32768 := by
  intro v hv
  obtain ⟨i, -, rfl⟩ := List.mem_map.mp hv
  exact abs_getD_le (by norm_num) h _

theorem resp_exact_iff (mvs : List UInt16) (fsQ8 : ℕ) :
    Exact (window (respAfter mvs)) ((respLags (respAfter mvs) fsQ8).map Prod.snd) (shRespBpm (respAfter mvs) fsQ8) ↔
      ((respLags (respAfter mvs) fsQ8).isSome → TestExact (window (respAfter mvs))) := by
  generalize hr : respAfter mvs = r
  have hbuf : ∀ v ∈ r.ring.buf, |v| ≤ 32768 := hr ▸ buf_respAfter mvs
  have hcount := r.ring.count_le
  rw [exact_iff, Option.isSome_map]
  · rw [length_window]
    simp only [respWin] at hcount
    omega
  · exact abs_window_le hbuf
  · intro l hl
    obtain ⟨l', hl', rfl⟩ := Option.mem_map.mp hl
    obtain ⟨-, hmin, -, hmax⟩ := respLags_spec hl'
    rw [← List.length_eq_zero_iff, length_window]
    exact ⟨by omega, by omega⟩
  · rw [shRespBpm_eq]
    cases hlags : respLags r fsQ8 with
    | none => exact Or.inl rfl
    | some lags =>
      dsimp only
      rw [← window, ← length_window, lagBpm_eq]
      cases hsearch : search (window r) (List.range' lags.2.1 (lags.2.2 + 1 - lags.2.1)) with
      | none => exact Or.inl rfl
      | some found => exact Or.inr ⟨lags.2, rfl, found.1, found.2, hsearch, rfl⟩

theorem autoCorr_exact_iff (fsQ8 : ℕ) {x : List ℤ} (hlen : x.length ≤ 100) (hx : ∀ v ∈ x, |v| ≤ 32768) :
    Exact x (acLags x.length) (shAutoCorrBpm fsQ8 x) ↔ ((acLags x.length).isSome → TestExact x) := by
  rw [exact_iff hlen hx]
  · intro l hl
    obtain ⟨hmin, hmax⟩ := acLags_inside hl hlen
    exact ⟨by omega, Or.inl hmax⟩
  · rw [shAutoCorrBpm_eq]
    cases hlags : acLags x.length with
    | none => exact Or.inl rfl
    | some lags =>
      dsimp only
      cases hsearch : search x (List.range' lags.1 (lags.2 + 1 - lags.1)) with
      | none => exact Or.inl rfl
      | some found => exact Or.inr ⟨lags, rfl, found.1, found.2, hsearch, rfl⟩

/-- The sums of both estimators are exact where the square of the peak times the count is a `uint32`. -/
theorem lag_sums_exact_iff (mvs : List UInt16) (fsQ8 : ℕ) (x : List ℤ) (hlen : x.length ≤ 100)
    (hx : ∀ v ∈ x, -32768 ≤ v ∧ v ≤ 32767) :
    (Exact (window (respAfter mvs)) ((respLags (respAfter mvs) fsQ8).map Prod.snd) (shRespBpm (respAfter mvs) fsQ8) ↔
        ((respLags (respAfter mvs) fsQ8).isSome → TestExact (window (respAfter mvs)))) ∧
      (Exact x (acLags x.length) (shAutoCorrBpm fsQ8 x) ↔ ((acLags x.length).isSome → TestExact x)) := by
  refine ⟨resp_exact_iff mvs fsQ8, autoCorr_exact_iff fsQ8 hlen ?_⟩
  intro v hv
  have := hx v hv
  exact abs_le.mpr ⟨by omega, by omega⟩

theorem lag_sums_exact_square_wave :
    let x := (List.range 24).map fun i => if i % 12 < 6 then (-5000 : ℤ) else 5000
    Exact x (acLags 24) (shAutoCorrBpm 6400 x) ∧ shAutoCorrBpm 6400 x = (123, 128) := by
  have hlen : ((List.range 24).map fun i => if i % 12 < 6 then (-5000 : ℤ) else 5000).length = 24 := rfl
  refine ⟨?_, by decide⟩
  apply (lag_sums_exact_iff [] 6400 _ (by rw [hlen]; norm_num) (by decide)).2.mpr
  intro _
  rw [TestExact]
  decide

/-- Breaths of ten volts either way: the peak is 10177 and the test wraps to `469313838`. -/
def wideSwing : List UInt16 :=
  (List.range 46).flatMap fun k => List.replicate 8 (if k = 0 then 10200 else if k % 2 = 1 then 20400 else 0)

theorem wide_swing_overflows :
    ¬ Exact (window (respAfter wideSwing)) ((respLags (respAfter wideSwing) 6400).map Prod.snd)
        (shRespBpm (respAfter wideSwing) 6400) ∧
      shMaxAbsI16 (window (respAfter wideSwing)) = 10177 ∧ shiftOf (window (respAfter wideSwing)) = 0 ∧
      energy (scaled (window (respAfter wideSwing))) = 4457684504 := by
  have hvalues : (respLags (respAfter wideSwing) 6400).map Prod.snd = some (6, 23) ∧
      shMaxAbsI16 (window (respAfter wideSwing)) = 10177 ∧ shiftOf (window (respAfter wideSwing)) = 0 ∧
      energy (scaled (window (respAfter wideSwing))) = 4457684504 := by
    decide +kernel
  refine ⟨?_, hvalues.2⟩
  intro h
  have hfit := (h.sums _ hvalues.1).zero _ le_rfl
  rw [← length_scaled, partialSum_length, hvalues.2.2.2] at hfit
  norm_num at hfit

end Samples

end SmartHelmet.Vitals
