import SmartHelmet.PulseEstimators

namespace SmartHelmet.Vitals

open Config MachineArith

def isPeak (x : List ℤ) (i : ℕ) : Bool :=
  decide (x.getD (i - 1) 0 < x.getD i 0 ∧ x.getD (i + 1) 0 ≤ x.getD i 0 ∧ peakThreshold x ≤ x.getD i 0)

/-- Of two peaks closer than `HR_MIN_PEAK_DIST` the stronger stays; newest first. -/
def retainStep (x : List ℤ) (kept : List ℕ) (i : ℕ) : List ℕ :=
  match kept with
  | [] => [i]
  | last :: older =>
    if i - last < hrMinPeakDist then (if x.getD i 0 > x.getD last 0 then i :: older else last :: older)
    else i :: last :: older

def scanned (x : List ℤ) : List ℕ :=
  if x.length < hrMinPeakDist * 2 + 3 then [] else (List.range' 1 (x.length - 2)).filter (isPeak x)

def retained (x : List ℤ) : List ℕ := (scanned x).foldl (retainStep x) []

def distances : List ℕ → List ℕ
  | p :: q :: older => distances (q :: older) ++ [p - q]
  | _ => []

def inIbiRange (d : ℕ) : Bool := decide (minIbi ≤ d ∧ d ≤ maxIbi)

def beatDistances (x : List ℤ) : List ℕ := ((distances (retained x)).filter inIbiRange).take ibiMax

def recorded (x : List ℤ) : List ℕ := if x.length < hrMinPeakDist * 2 + 3 then [] else (peakScan x).ibi

def medianTimes256 (ds : List ℕ) : ℕ :=
  let sorted := ds.insertionSort (· ≤ ·)
  (sorted.getD ((ds.length - 1) / 2) 0 + sorted.getD (ds.length / 2) 0) * 128

structure PeakSpec (fsQ8 : ℕ) (x : List ℤ) : Prop where
  intervals : recorded x = beatDistances x
  count : (shPeakBpm fsQ8 x).2 = (retained x).length
  rate : (shPeakBpm fsQ8 x).1 ≠ 0 →
    let m := medianTimes256 (beatDistances x)
    (shPeakBpm fsQ8 x).1 = 60 * fsQ8 / m ∧ (40 ≤ (shPeakBpm fsQ8 x).1 ∧ (shPeakBpm fsQ8 x).1 ≤ 180) ∧
      (3 ≤ (beatDistances x).length →
        ∀ d ∈ beatDistances x, ((d * 256 : ℤ) - m).natAbs * 100 ≤ m * hrIbiSpreadPct)

/-- A place in the scan: the first peak of a group and the one that stayed. -/
def groupStep (x : List ℤ) (groups : List (ℕ × ℕ)) (i : ℕ) : List (ℕ × ℕ) :=
  match groups with
  | [] => [(i, i)]
  | (first, last) :: older =>
    if i - last < hrMinPeakDist then
      (if x.getD i 0 > x.getD last 0 then (first, i) :: older else (first, last) :: older)
    else (i, i) :: (first, last) :: older

def groups (x : List ℤ) : List (ℕ × ℕ) := (scanned x).foldl (groupStep x) []

/-- No group that begins within `max_ibi` of the peak kept before it is given another peak. -/
def Undisturbed : List (ℕ × ℕ) → Prop
  | p :: q :: older => (p.1 - q.2 ≤ maxIbi → p.1 = p.2) ∧ Undisturbed (q :: older)
  | _ => True

section Groups

def Spaced : List (ℕ × ℕ) → Prop
  | [] => True
  | [p] => 1 ≤ p.1 ∧ p.1 ≤ p.2
  | p :: q :: older => q.2 + 8 ≤ p.1 ∧ p.1 ≤ p.2 ∧ Spaced (q :: older)

def firstGaps : List (ℕ × ℕ) → List ℕ
  | p :: q :: older => firstGaps (q :: older) ++ [p.1 - q.2]
  | _ => []

theorem Spaced.length_le {p : ℕ × ℕ} {older : List (ℕ × ℕ)} (h : Spaced (p :: older)) :
    8 * older.length + 1 ≤ p.2 := by
  induction older generalizing p with
  | nil =>
    obtain ⟨h1, h2⟩ := h
    rw [List.length_nil]
    omega
  | cons q older ih =>
    obtain ⟨h1, h2, h3⟩ := h
    have := ih h3
    rw [List.length_cons]
    omega

theorem Spaced.length_le_ibiMax {gs : List (ℕ × ℕ)} {k : ℕ} (h : Spaced gs) (hk : k ≤ 98)
    (hhead : ∀ p ∈ gs.head?, p.2 ≤ k) : gs.length ≤ ibiMax := by
  cases gs with
  | nil => exact Nat.zero_le _
  | cons p older =>
    have h1 := h.length_le
    have h2 := hhead p rfl
    rw [List.length_cons, ibiMax]
    omega

theorem length_firstGaps_le (gs : List (ℕ × ℕ)) : (firstGaps gs).length ≤ gs.length - 1 := by
  induction gs with
  | nil => exact le_rfl
  | cons p gs ih =>
    cases gs with
    | nil => exact le_rfl
    | cons q older =>
      simp only [firstGaps, List.length_append, List.length_cons, List.length_nil] at ih ⊢
      omega

theorem append_eq_append_iff_of_length_le {a a' b b' : List ℕ} (h : a'.length ≤ a.length)
    (h' : b'.length ≤ b.length) : a ++ b = a' ++ b' ↔ b = b' ∧ a = a' := by
  constructor
  · intro heq
    have hlen := congrArg List.length heq
    rw [List.length_append, List.length_append] at hlen
    have := List.append_inj heq (by omega)
    exact this.symm
  · rintro ⟨rfl, rfl⟩
    rfl

theorem lastGap_eq_iff {p q : ℕ × ℕ} (hgap : q.2 + 8 ≤ p.1) (hfirst : p.1 ≤ p.2) :
    ([p.2 - q.2].filter inIbiRange).length ≤ ([p.1 - q.2].filter inIbiRange).length ∧
      ([p.1 - q.2].filter inIbiRange = [p.2 - q.2].filter inIbiRange ↔
        (p.1 - q.2 ≤ maxIbi → p.1 = p.2)) := by
  have hmin (d : ℕ) (h : 8 ≤ d) : inIbiRange d = decide (d ≤ 37) := by
    rw [inIbiRange, decide_eq_decide]
    exact and_iff_right h
  have h37 : maxIbi = 37 := rfl
  simp only [List.filter_cons, List.filter_nil, hmin (p.2 - q.2) (by omega), hmin (p.1 - q.2) (by omega),
    decide_eq_true_eq, h37]
  split_ifs with h2 h1 h1
  · simp only [List.length_cons, le_refl, true_and, List.cons.injEq, and_true]
    omega
  · omega
  · simp only [List.length_cons, List.length_nil, zero_le, true_and, false_iff]
    omega
  · simp only [le_refl, true_and, true_iff]
    omega

theorem firstGaps_eq_iff {gs : List (ℕ × ℕ)} (h : Spaced gs) :
    ((distances (gs.map Prod.snd)).filter inIbiRange).length ≤ ((firstGaps gs).filter inIbiRange).length ∧
      ((firstGaps gs).filter inIbiRange = (distances (gs.map Prod.snd)).filter inIbiRange ↔ Undisturbed gs) := by
  induction gs with
  | nil => exact ⟨le_rfl, iff_of_true rfl trivial⟩
  | cons p gs ih =>
    cases gs with
    | nil => exact ⟨le_rfl, iff_of_true rfl trivial⟩
    | cons q older =>
      obtain ⟨hgap, hfirst, hrest⟩ := h
      obtain ⟨hlen, heq⟩ := ih hrest
      have hlast := lastGap_eq_iff hgap hfirst
      simp only [List.map_cons] at hlen heq
      simp only [List.map_cons, distances, firstGaps, List.filter_append, Undisturbed]
      rw [← heq, ← hlast.2]
      constructor
      · rw [List.length_append, List.length_append]
        exact Nat.add_le_add hlen hlast.1
      · exact append_eq_append_iff_of_length_le hlen hlast.1

theorem map_snd_groupStep (x : List ℤ) (gs : List (ℕ × ℕ)) (i : ℕ) :
    retainStep x (gs.map Prod.snd) i = (groupStep x gs i).map Prod.snd := by
  cases gs with
  | nil => rfl
  | cons p older =>
    simp only [List.map_cons, retainStep, groupStep]
    split_ifs <;> rfl

theorem map_snd_groups (x : List ℤ) : (groups x).map Prod.snd = retained x :=
  (List.foldl_hom (List.map Prod.snd) (map_snd_groupStep x)).symm

theorem spaced_groupStep (x : List ℤ) {gs : List (ℕ × ℕ)} {k : ℕ} (h : Spaced gs)
    (hk : ∀ p ∈ gs.head?, p.2 ≤ k) :
    Spaced (groupStep x gs (k + 1)) ∧ ∀ p ∈ (groupStep x gs (k + 1)).head?, p.2 ≤ k + 1 := by
  cases gs with
  | nil => exact ⟨⟨Nat.le_add_left 1 k, le_rfl⟩, by rintro p ⟨⟩; exact le_rfl⟩
  | cons p older =>
    have hp : p.2 ≤ k := hk p rfl
    simp only [groupStep]
    split_ifs with hclose hstronger
    · refine ⟨?_, by rintro p ⟨⟩; exact le_rfl⟩
      cases older with
      | nil => exact ⟨h.1, by have := h.2; omega⟩
      | cons q older => exact ⟨h.1, by have := h.2.1; omega, h.2.2⟩
    · refine ⟨h, ?_⟩
      rintro p ⟨⟩
      omega
    · refine ⟨⟨?_, le_rfl, h⟩, by rintro p ⟨⟩; exact le_rfl⟩
      simp only [hrMinPeakDist] at hclose
      omega

end Groups

section Scan

def scanOf (gs : List (ℕ × ℕ)) : PeakScan :=
  ⟨gs.length, gs.head?.map Prod.snd, (firstGaps gs).filter inIbiRange⟩

theorem peakStep_scanOf (x : List ℤ) {gs : List (ℕ × ℕ)} (hlen : gs.length ≤ ibiMax) (i : ℕ) :
    peakStep x (peakThreshold x) (scanOf gs) i = if isPeak x i then scanOf (groupStep x gs i) else scanOf gs := by
  simp only [peakStep, isPeak, decide_eq_true_eq]
  by_cases hlocal : x.getD i 0 ≤ x.getD (i - 1) 0 ∨ x.getD i 0 < x.getD (i + 1) 0
  · rw [if_pos hlocal, if_neg (by omega)]
  rw [if_neg hlocal]
  by_cases hweak : x.getD i 0 < peakThreshold x
  · rw [if_pos hweak, if_neg (by omega)]
  rw [if_neg hweak, if_pos (by omega)]
  cases gs with
  | nil => rfl
  | cons p older =>
    change (if i - p.2 < hrMinPeakDist then _ else _) = scanOf (groupStep x (p :: older) i)
    rw [groupStep]
    by_cases hclose : i - p.2 < hrMinPeakDist
    · rw [if_pos hclose, if_pos hclose]
      split_ifs
      · cases older <;> rfl
      · rfl
    rw [if_neg hclose, if_neg hclose]
    have hgaps : (firstGaps ((i, i) :: p :: older)).filter inIbiRange =
        (firstGaps (p :: older)).filter inIbiRange ++ [i - p.2].filter inIbiRange := List.filter_append _ _
    have hroom : ((firstGaps (p :: older)).filter inIbiRange).length < ibiMax := by
      have h1 := List.length_filter_le inIbiRange (firstGaps (p :: older))
      have h2 := length_firstGaps_le (p :: older)
      rw [List.length_cons] at hlen h2
      omega
    by_cases hin : inIbiRange (i - p.2) = true
    · rw [List.filter_cons_of_pos hin, List.filter_nil] at hgaps
      rw [inIbiRange, decide_eq_true_eq] at hin
      rw [if_pos ⟨hin.1, hin.2, hroom⟩]
      exact congrArg (PeakScan.mk _ _) hgaps.symm
    · rw [List.filter_cons_of_neg hin, List.filter_nil, List.append_nil] at hgaps
      rw [inIbiRange, decide_eq_true_eq] at hin
      rw [if_neg fun h => hin ⟨h.1, h.2.1⟩]
      exact congrArg (PeakScan.mk _ _) hgaps.symm

theorem scan_range' (x : List ℤ) {k : ℕ} (hk : k ≤ 98) :
    let gs := ((List.range' 1 k).filter (isPeak x)).foldl (groupStep x) []
    (List.range' 1 k).foldl (peakStep x (peakThreshold x)) .start = scanOf gs ∧
      Spaced gs ∧ gs.length ≤ ibiMax ∧ ∀ p ∈ gs.head?, p.2 ≤ k := by
  induction k with
  | zero => exact ⟨rfl, trivial, Nat.zero_le _, by rintro p ⟨⟩⟩
  | succ k ih =>
    obtain ⟨hscan, hspaced, hlen, hhead⟩ := ih (by omega)
    set gs := ((List.range' 1 k).filter (isPeak x)).foldl (groupStep x) []
    have hstep := peakStep_scanOf x hlen (k + 1)
    rw [List.range'_concat, List.filter_append, List.foldl_append, List.foldl_append, hscan, Nat.one_mul,
      Nat.add_comm 1 k]
    simp only [List.foldl_cons, List.foldl_nil, hstep]
    by_cases hpeak : isPeak x (k + 1) = true
    · rw [if_pos hpeak, List.filter_cons_of_pos hpeak]
      obtain ⟨hspaced', hhead'⟩ := spaced_groupStep x hspaced hhead
      exact ⟨rfl, hspaced', hspaced'.length_le_ibiMax hk hhead', hhead'⟩
    · rw [if_neg hpeak, List.filter_cons_of_neg hpeak]
      exact ⟨rfl, hspaced, hlen, fun p hp => Nat.le_succ_of_le (hhead p hp)⟩

variable {x : List ℤ}

theorem peakScan_eq (hlen : x.length ≤ 100) (hlong : ¬ x.length < hrMinPeakDist * 2 + 3) :
    peakScan x = scanOf (groups x) ∧ Spaced (groups x) := by
  have h := scan_range' x (k := x.length - 2) (by omega)
  rw [groups, scanned, if_neg hlong]
  exact ⟨h.1, h.2.1⟩

theorem recorded_eq (hlen : x.length ≤ 100) : recorded x = (firstGaps (groups x)).filter inIbiRange := by
  by_cases hlong : x.length < hrMinPeakDist * 2 + 3
  · rw [recorded, groups, scanned, if_pos hlong, if_pos hlong]
    rfl
  · rw [recorded, if_neg hlong, (peakScan_eq hlen hlong).1]
    rfl

theorem spaced_groups (hlen : x.length ≤ 100) : Spaced (groups x) := by
  by_cases hlong : x.length < hrMinPeakDist * 2 + 3
  · rw [groups, scanned, if_pos hlong]
    exact trivial
  · exact (peakScan_eq hlen hlong).2

theorem length_groups_le (hlen : x.length ≤ 100) : (groups x).length ≤ ibiMax := by
  by_cases hlong : x.length < hrMinPeakDist * 2 + 3
  · rw [groups, scanned, if_pos hlong]
    exact Nat.zero_le _
  · rw [groups, scanned, if_neg hlong]
    exact (scan_range' x (k := x.length - 2) (by omega)).2.2.1

theorem recorded_eq_beatDistances_iff (hlen : x.length ≤ 100) :
    recorded x = beatDistances x ↔ Undisturbed (groups x) := by
  obtain ⟨hle, heq⟩ := firstGaps_eq_iff (spaced_groups hlen)
  have hfew : ((distances (retained x)).filter inIbiRange).length ≤ ibiMax := by
    have h1 := List.length_filter_le inIbiRange (firstGaps (groups x))
    have h2 := length_firstGaps_le (groups x)
    have h3 := length_groups_le hlen
    rw [map_snd_groups] at hle
    omega
  rw [map_snd_groups] at heq
  rw [recorded_eq hlen, beatDistances, List.take_of_length_le hfew]
  exact heq

end Scan

section Rate

variable {ds : List ℕ}

theorem mem_insertionSort_getD {i : ℕ} (h : i < ds.length) : (ds.insertionSort (· ≤ ·)).getD i 0 ∈ ds := by
  have h' : i < (ds.insertionSort (· ≤ ·)).length := by rwa [List.length_insertionSort]
  rw [List.getD_eq_getElem _ _ h', ← List.mem_insertionSort (· ≤ ·)]
  exact List.getElem_mem h'

theorem medianQ8_eq (hne : ds ≠ []) (hle : ∀ d ∈ ds, d ≤ maxIbi) :
    medianQ8 (ds.insertionSort (· ≤ ·)) = medianTimes256 ds := by
  have hpos := List.length_pos_iff.mpr hne
  have hmid := hle _ (mem_insertionSort_getD (show ds.length / 2 < ds.length by omega))
  have hlow := hle _ (mem_insertionSort_getD (show (ds.length - 1) / 2 < ds.length by omega))
  have h37 : maxIbi = 37 := rfl
  simp only [medianQ8, medianTimes256, List.length_insertionSort, u16]
  split_ifs with hodd
  · rw [show (ds.length - 1) / 2 = ds.length / 2 by omega]
    omega
  · rw [show ds.length / 2 - 1 = (ds.length - 1) / 2 by omega]
    omega

theorem le_medianTimes256 (hne : ds ≠ []) (hge : ∀ d ∈ ds, minIbi ≤ d) : 2048 ≤ medianTimes256 ds := by
  have hpos := List.length_pos_iff.mpr hne
  have hmid := hge _ (mem_insertionSort_getD (show ds.length / 2 < ds.length by omega))
  have hlow := hge _ (mem_insertionSort_getD (show (ds.length - 1) / 2 < ds.length by omega))
  have h8 : minIbi = 8 := rfl
  simp only [medianTimes256]
  omega

theorem le_spreadMax (m : ℕ) (sorted : List ℕ) : ∀ d ∈ sorted, ((d * 256 : ℤ) - m).natAbs ≤ spreadMax m sorted := by
  intro d hd
  exact (le_foldl_of_le (g := fun d : ℕ => ((d * 256 : ℤ) - m).natAbs)
    (fun _ _ _ => ⟨le_max_left _ _, le_max_right _ _⟩) 0).2 d hd

theorem shIntervalQ8ToBpm_eq {fsQ8 m : ℕ} (hfs : fsQ8 < 65536) (hm : 256 ≤ m) :
    shIntervalQ8ToBpm fsQ8 m = 60 * fsQ8 / m := by
  have hquot : 60 * fsQ8 / m ≤ 60 * fsQ8 / 256 := Nat.div_le_div_left hm (by norm_num)
  rw [shIntervalQ8ToBpm, if_neg (by omega), u32, Nat.mod_eq_of_lt (by omega), u16_of_lt (by omega)]

end Rate

section Estimate

variable {fsQ8 : ℕ} {x : List ℤ}

theorem shPeakBpm_count (fsQ8 : ℕ) (hlen : x.length ≤ 100) : (shPeakBpm fsQ8 x).2 = (retained x).length := by
  rw [← map_snd_groups, List.length_map]
  unfold shPeakBpm
  by_cases hlong : x.length < hrMinPeakDist * 2 + 3
  · rw [if_pos hlong, groups, scanned, if_pos hlong]
    rfl
  · rw [if_neg hlong]
    have hpeaks : (peakScan x).peaks = (groups x).length := by rw [(peakScan_eq hlen hlong).1, scanOf]
    dsimp only
    split_ifs <;> exact hpeaks

theorem mem_recorded_le (hlen : x.length ≤ 100) : ∀ d ∈ recorded x, minIbi ≤ d ∧ d ≤ maxIbi := by
  intro d hd
  rw [recorded_eq hlen, List.mem_filter, inIbiRange, decide_eq_true_eq] at hd
  exact hd.2

theorem shPeakBpm_rate (hfs : fsQ8 < 65536) (hlen : x.length ≤ 100) (hrate : (shPeakBpm fsQ8 x).1 ≠ 0) :
    (shPeakBpm fsQ8 x).1 = 60 * fsQ8 / medianTimes256 (recorded x) ∧
      (3 ≤ (recorded x).length →
        ∀ d ∈ recorded x, ((d * 256 : ℤ) - medianTimes256 (recorded x)).natAbs * 100 ≤
          medianTimes256 (recorded x) * hrIbiSpreadPct) := by
  have hmem := mem_recorded_le hlen
  by_cases hlong : x.length < hrMinPeakDist * 2 + 3
  · rw [shPeakBpm, if_pos hlong] at hrate
    exact absurd rfl hrate
  have hrec : (peakScan x).ibi = recorded x := (if_neg hlong).symm
  rw [shPeakBpm, if_neg hlong] at hrate ⊢
  simp only [hrec, List.length_insertionSort] at hrate ⊢
  by_cases hnone : (recorded x).length = 0
  · rw [if_pos hnone] at hrate
    exact absurd rfl hrate
  have hne : recorded x ≠ [] := fun h => hnone (by rw [h]; rfl)
  have hmedian := le_medianTimes256 hne fun d hd => (hmem d hd).1
  rw [if_neg hnone, medianQ8_eq hne fun d hd => (hmem d hd).2, if_neg (by omega)] at hrate ⊢
  by_cases hspread : 3 ≤ (recorded x).length ∧
      spreadMax (medianTimes256 (recorded x)) ((recorded x).insertionSort (· ≤ ·)) * 100 >
        medianTimes256 (recorded x) * hrIbiSpreadPct
  · rw [if_pos hspread] at hrate
    exact absurd rfl hrate
  rw [if_neg hspread] at hrate ⊢
  constructor
  · rw [← shIntervalQ8ToBpm_eq hfs (by omega)]
    simp only [bpmInBand] at hrate ⊢
    split_ifs at hrate ⊢
    · exact absurd rfl hrate
    · rfl
  · intro hthree d hd
    have hle := le_spreadMax (medianTimes256 (recorded x)) _ d ((List.mem_insertionSort (· ≤ ·)).mpr hd)
    simp only [not_and, not_lt] at hspread
    exact (Nat.mul_le_mul_right 100 hle).trans (hspread hthree)

/-- The peak estimator meets its specification where no recorded interval is overtaken. -/
theorem peak_spec_iff (hfs : fsQ8 < 65536) (hlen : x.length ≤ 100) : PeakSpec fsQ8 x ↔ Undisturbed (groups x) := by
  rw [← recorded_eq_beatDistances_iff hlen]
  constructor
  · intro h
    exact h.intervals
  · intro heq
    refine ⟨heq, shPeakBpm_count fsQ8 hlen, ?_⟩
    intro hrate
    obtain ⟨hvalue, hspread⟩ := shPeakBpm_rate hfs hlen hrate
    rw [heq] at hvalue hspread
    refine ⟨hvalue, ?_, hspread⟩
    rcases shPeakBpm_range fsQ8 x with hzero | hband
    · exact absurd hzero hrate
    · exact hband

def evenBeats : List ℤ :=
  [0, 0, 0, 0, 0, 0, 0, 0, 0, 0, 90, 0, 0, 0, 0, 0, 0, 0, 0, 0, 90, 0, 0, 80, 0, 0, 0, 0, 0, 0, 90, 0, 0]

theorem peak_spec_even_beats : PeakSpec 6400 evenBeats ∧ shPeakBpm 6400 evenBeats = (150, 3) := by
  refine ⟨(peak_spec_iff (by norm_num) (by decide)).mpr ?_, by decide⟩
  have hgroups : groups evenBeats = [(30, 30), (20, 20), (10, 10)] := by decide
  rw [hgroups]
  exact ⟨fun _ => rfl, fun _ => rfl, trivial⟩

/-- Beats ten samples apart, and a stronger one behind the beat at 20: ten samples are recorded,
fifteen apart. -/
def overtakenBeat : List ℤ :=
  [0, 0, 0, 0, 0, 0, 0, 0, 0, 0, 90, 0, 0, 0, 0, 0, 0, 0, 0, 0, 80, 0, 0, 0, 0, 90, 0, 0]

theorem overtaken_beat_not_spec : ¬ PeakSpec 6400 overtakenBeat ∧ recorded overtakenBeat = [10] ∧
    retained overtakenBeat = [25, 10] ∧ shPeakBpm 6400 overtakenBeat = (150, 2) := by
  have hrec : recorded overtakenBeat = [10] := by decide
  have hdist : beatDistances overtakenBeat = [15] := by decide
  refine ⟨?_, hrec, by decide, by decide⟩
  intro h
  have := h.intervals
  rw [hrec, hdist] at this
  exact absurd this (by decide)

end Estimate

end SmartHelmet.Vitals
