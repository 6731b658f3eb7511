import SmartHelmet.Cusum
import SmartHelmet.History
import SmartHelmet.StaleBaseline

namespace SmartHelmet.Vitals

open Config MachineArith

/-- What a window hands to `shUpdateHrChange`. -/
structure Reading where
  valid : Bool
  bpm : ℕ
  range : valid = true → 40 ≤ bpm ∧ bpm ≤ 180

def readHr (s : State) (r : Reading) : State :=
  { s with status := { s.status with hrValid := r.valid, hrBpm := r.bpm } }

def hrStep (b : Build) (s : State) (r : Reading) : State := shUpdateHrChange b (readHr s r)

def hrRun (b : Build) (s : State) (rs : List Reading) : State := rs.foldl (hrStep b) (vitalsInit s)

structure Deviation where
  dev : ℤ
  slack : ℤ

def deviation (t : HrTrack) (bpm : ℕ) : Deviation := ⟨(bpm : ℤ) - t.baseBpm, hrSlack t.baseBpm⟩

def Deviation.rise (x : Deviation) : ℤ := x.dev - x.slack

def Deviation.fall (x : Deviation) : ℤ := -x.dev - x.slack

/-- The valid windows since a long gap last discarded the baseline, and the windows since the last
valid one. -/
structure Learning where
  learned : ℕ
  lost : ℕ

def Learning.tracks (l : Learning) : Bool := decide (hrBaselineMinWin ≤ l.learned)

def Learning.goesStale (l : Learning) : Bool := decide (hrBaselineStaleWin ≤ l.lost + 1)

def noteReading (l : Learning) (r : Reading) : Learning :=
  if r.valid then ⟨l.learned + 1, 0⟩
  else if l.goesStale then ⟨0, l.lost + 1⟩
  else ⟨l.learned, l.lost + 1⟩

def learning (rs : List Reading) : Learning := rs.foldl noteReading ⟨0, 0⟩

/-- The tracking windows since the accumulators were last cleared, newest first. -/
def noteDeviation (b : Build) (s : State) (r : Reading) (g : Learning × List Deviation) : Learning × List Deviation :=
  (noteReading g.1 r,
    if r.valid then
      if g.1.tracks then
        let change := (hrStep b s r).status.hrChange
        if change = .rising ∨ change = .falling then [] else deviation s.hrTrack r.bpm :: g.2
      else []
    else if g.1.goesStale then [] else g.2)

def deviations (b : Build) (s : State) (rs : List Reading) : List Deviation :=
  (History.after (hrStep b) (noteDeviation b) (vitalsInit s) (⟨0, 0⟩, []) rs).2

/-- Some run of the newest windows has gathered the limit. -/
def Gathered (side : Deviation → ℤ) (ds : List Deviation) : Prop :=
  ∃ n, 0 < n ∧ n ≤ ds.length ∧ hrCusumLimit ≤ ((ds.take n).map side).sum

section Steps

variable (b : Build) (s : State) {r : Reading}

theorem hrStep_invalid (hr : r.valid = false) :
    (hrStep b s r).hrTrack = (trackInvalid s.hrTrack s.status.hrChange).1 ∧
      (hrStep b s r).status.hrChange = (trackInvalid s.hrTrack s.status.hrChange).2 :=
  (shUpdateHrChange_track b (readHr s r)).1 hr

theorem hrStep_valid (hr : r.valid = true) :
    (hrStep b s r).hrTrack = (trackValid s.hrTrack s.status.hrChange r.bpm).1 ∧
      (hrStep b s r).status.hrChange = (trackValid s.hrTrack s.status.hrChange r.bpm).2.1 := by
  have hrange := r.range hr
  apply (shUpdateHrChange_track b (readHr s r)).2 hr
  change r.bpm ≠ 0
  omega

theorem hrStep_published (r : Reading) :
    (hrStep b s r).status.hrBaselineBpm = (hrStep b s r).hrTrack.baseBpm ∧
      (hrStep b s r).status.hrCusumUp = u16OfInt (hrStep b s r).hrTrack.cusumUp ∧
      (hrStep b s r).status.hrCusumDn = u16OfInt (hrStep b s r).hrTrack.cusumDn := by
  unfold hrStep shUpdateHrChange
  dsimp only
  split_ifs <;> exact ⟨rfl, rfl, rfl⟩

end Steps

section Track

variable {t : HrTrack} (change : TrendFlag) (bpm : ℕ)

theorem trackValid_learns (hn : t.baseN < hrBaselineMinWin) :
    (trackValid t change bpm).1.baseN = t.baseN + 1 ∧ (trackValid t change bpm).1.cusumUp = 0 ∧
      (trackValid t change bpm).1.cusumDn = 0 ∧ (trackValid t change bpm).2.1 = change := by
  unfold trackValid
  dsimp only
  rw [if_pos hn]
  exact ⟨rfl, rfl, rfl, rfl⟩

theorem trackValid_tracks (hn : hrBaselineMinWin ≤ t.baseN) (hbase : t.baseBpm ≠ 0) :
    let d := deviation t bpm
    let up := cusumStep t.cusumUp d.rise
    let dn := cusumStep t.cusumDn d.fall
    (hrCusumLimit ≤ up ∧ (trackValid t change bpm).1 = ⟨bpm, t.baseN, 0, 0, 0⟩ ∧
      (trackValid t change bpm).2.1 = .rising) ∨
    (up < hrCusumLimit ∧ hrCusumLimit ≤ dn ∧ (trackValid t change bpm).1 = ⟨bpm, t.baseN, 0, 0, 0⟩ ∧
      (trackValid t change bpm).2.1 = .falling) ∨
    (up < hrCusumLimit ∧ dn < hrCusumLimit ∧
      (trackValid t change bpm).1 =
        ⟨u16OfInt (t.baseBpm + (d.dev * hrBaselineAlphaQ8).tdiv 256), t.baseN, 0, up, dn⟩ ∧
      (trackValid t change bpm).2.1 = .stable) := by
  intro d up dn
  have heq : trackValid t change bpm =
      if up ≥ hrCusumLimit then (⟨bpm, t.baseN, 0, 0, 0⟩, .rising, d.dev)
      else if dn ≥ hrCusumLimit then (⟨bpm, t.baseN, 0, 0, 0⟩, .falling, d.dev)
      else (⟨u16OfInt (t.baseBpm + (d.dev * hrBaselineAlphaQ8).tdiv 256), t.baseN, 0, up, dn⟩, .stable, d.dev) := by
    unfold trackValid
    dsimp only
    rw [if_neg hbase, if_neg hn.not_gt]
    rfl
  rw [heq]
  by_cases hup : up ≥ hrCusumLimit
  · rw [if_pos hup]
    exact Or.inl ⟨hup, rfl, rfl⟩
  · rw [if_neg hup]
    by_cases hdn : dn ≥ hrCusumLimit
    · rw [if_pos hdn]
      exact Or.inr (Or.inl ⟨not_le.mp hup, hdn, rfl, rfl⟩)
    · rw [if_neg hdn]
      exact Or.inr (Or.inr ⟨not_le.mp hup, not_le.mp hdn, rfl, rfl⟩)

theorem incSat_min (n : ℕ) : incSat 0xffff (min 0xffff n) = min 0xffff (n + 1) := by
  unfold incSat
  split <;> omega

theorem trackInvalid_cases :
    (hrBaselineStaleWin ≤ incSat 0xffff t.invalidRun ∧
      (trackInvalid t change).1 = ⟨0, 0, incSat 0xffff t.invalidRun, 0, 0⟩ ∧ (trackInvalid t change).2 = .unknown) ∨
    (incSat 0xffff t.invalidRun < hrBaselineStaleWin ∧
      (trackInvalid t change).1 = { t with invalidRun := incSat 0xffff t.invalidRun } ∧
      (trackInvalid t change).2 = change) := by
  unfold trackInvalid
  dsimp only
  by_cases hstale : hrBaselineStaleWin ≤ incSat 0xffff t.invalidRun
  · rw [if_pos (show _ ≥ _ from hstale)]
    exact Or.inl ⟨hstale, rfl, rfl⟩
  · rw [if_neg (show ¬ _ ≥ _ from hstale)]
    exact Or.inr ⟨not_le.mp hstale, rfl, rfl⟩

end Track

structure CusumKept (s : State) (g : Learning × List Deviation) : Prop where
  base : g.1.learned = 0 ∧ s.hrTrack.baseBpm = 0 ∨ 0 < g.1.learned ∧ 40 ≤ s.hrTrack.baseBpm ∧ s.hrTrack.baseBpm ≤ 180
  learned : s.hrTrack.baseN = min hrBaselineMinWin g.1.learned
  lost : s.hrTrack.invalidRun = min 0xffff g.1.lost
  learning : s.hrTrack.baseN < hrBaselineMinWin → s.status.hrChange = .unknown ∧ g.2 = []
  up : Cusum.Best s.hrTrack.cusumUp (g.2.map Deviation.rise)
  dn : Cusum.Best s.hrTrack.cusumDn (g.2.map Deviation.fall)
  upLt : s.hrTrack.cusumUp < hrCusumLimit
  dnLt : s.hrTrack.cusumDn < hrCusumLimit

theorem hrCusumLimit_pos : (0 : ℤ) < hrCusumLimit := by decide

theorem cusumStep_eq {acc d : ℤ} (h : acc + d ≤ 0xffff) : cusumStep acc d = Cusum.step acc d := by
  unfold cusumStep Cusum.step
  dsimp only
  split_ifs <;> omega

theorem hrSlack_ge (base : ℕ) : 3 ≤ hrSlack base := by
  unfold hrSlack
  dsimp only
  split_ifs with h
  · exact h.le
  · exact le_rfl

namespace CusumKept

variable {b : Build} {s : State} {g : Learning × List Deviation} {r : Reading}

theorem start (s : State) : CusumKept (vitalsInit s) (⟨0, 0⟩, []) where
  base := Or.inl ⟨rfl, rfl⟩
  learned := rfl
  lost := rfl
  learning _ := ⟨rfl, rfl⟩
  up := Cusum.Best.nil
  dn := Cusum.Best.nil
  upLt := hrCusumLimit_pos
  dnLt := hrCusumLimit_pos

theorem baseN_of_tracks (h : CusumKept s g) (ht : g.1.tracks = true) : s.hrTrack.baseN = hrBaselineMinWin :=
  h.learned.trans (min_eq_left (of_decide_eq_true ht))

theorem base_of_tracks (h : CusumKept s g) (ht : g.1.tracks = true) :
    40 ≤ s.hrTrack.baseBpm ∧ s.hrTrack.baseBpm ≤ 180 := by
  have hn : 8 ≤ g.1.learned := of_decide_eq_true ht
  rcases h.base with ⟨h0, -⟩ | ⟨-, hrange⟩
  · omega
  · exact hrange

theorem gathers (h : CusumKept s g) (ht : g.1.tracks = true) (hr : r.valid = true) :
    let d := deviation s.hrTrack r.bpm
    Cusum.Best (cusumStep s.hrTrack.cusumUp d.rise) ((d :: g.2).map Deviation.rise) ∧
      Cusum.Best (cusumStep s.hrTrack.cusumDn d.fall) ((d :: g.2).map Deviation.fall) := by
  intro d
  have hbase := h.base_of_tracks ht
  have hbpm := r.range hr
  have hslack := hrSlack_ge s.hrTrack.baseBpm
  have hup : s.hrTrack.cusumUp < 24 := h.upLt
  have hdn : s.hrTrack.cusumDn < 24 := h.dnLt
  have hrise : d.rise = (r.bpm : ℤ) - s.hrTrack.baseBpm - hrSlack s.hrTrack.baseBpm := rfl
  have hfall : d.fall = -((r.bpm : ℤ) - s.hrTrack.baseBpm) - hrSlack s.hrTrack.baseBpm := rfl
  rw [cusumStep_eq (by omega), cusumStep_eq (by omega)]
  exact ⟨h.up.cons d.rise, h.dn.cons d.fall⟩

theorem invalid (h : CusumKept s g) (hr : r.valid = false) : CusumKept (hrStep b s r) (noteDeviation b s r g) := by
  obtain ⟨htrack, hchange⟩ := hrStep_invalid b s hr
  unfold noteDeviation noteReading
  simp only [hr, Bool.false_eq_true, if_false]
  have hlost : incSat 0xffff s.hrTrack.invalidRun = min 0xffff (g.1.lost + 1) := by
    rw [h.lost, incSat_min]
  rcases trackInvalid_cases (t := s.hrTrack) s.status.hrChange with ⟨hlong, ht, hc⟩ | ⟨hshort, ht, hc⟩
  · have hstale : g.1.goesStale = true := decide_eq_true (by rw [hlost] at hlong; exact hlong.trans (min_le_right _ _))
    rw [ht, hlost] at htrack
    rw [hc] at hchange
    simp only [hstale, if_true]
    constructor <;> rw [htrack]
    · exact Or.inl ⟨rfl, rfl⟩
    · rfl
    · exact fun _ => ⟨hchange, rfl⟩
    · exact Cusum.Best.nil
    · exact Cusum.Best.nil
    · exact hrCusumLimit_pos
    · exact hrCusumLimit_pos
  · have hfresh : g.1.goesStale = false := by
      apply decide_eq_false
      rw [hlost] at hshort
      change min 0xffff (g.1.lost + 1) < 15 at hshort
      change ¬ 15 ≤ g.1.lost + 1
      omega
    rw [ht, hlost] at htrack
    rw [hc] at hchange
    simp only [hfresh, Bool.false_eq_true, if_false]
    constructor <;> rw [htrack]
    · exact h.base
    · exact h.learned
    · rw [hchange]
      exact h.learning
    · exact h.up
    · exact h.dn
    · exact h.upLt
    · exact h.dnLt

theorem learns (h : CusumKept s g) (hr : r.valid = true) (hnot : g.1.tracks = false) :
    CusumKept (hrStep b s r) (noteDeviation b s r g) := by
  have hfew : g.1.learned < 8 := not_le.mp (of_decide_eq_false hnot)
  have hcount : s.hrTrack.baseN = g.1.learned := h.learned.trans (min_eq_right hfew.le)
  have hn : s.hrTrack.baseN < hrBaselineMinWin := hcount.trans_lt hfew
  obtain ⟨htrack, hchange⟩ := hrStep_valid b s hr
  obtain ⟨hnext, hup, hdn, hsame⟩ := trackValid_learns s.status.hrChange r.bpm hn
  obtain ⟨hlo, hhi, hrun⟩ := trackValid_base s.hrTrack s.status.hrChange (r.range hr) (h.base.imp And.right And.right)
  unfold noteDeviation noteReading
  simp only [hr, hnot, if_true, Bool.false_eq_true, if_false]
  rw [hsame] at hchange
  constructor <;> rw [htrack]
  · exact Or.inr ⟨Nat.succ_pos _, hlo, hhi⟩
  · rw [hnext, hcount]
    exact (min_eq_right hfew).symm
  · exact hrun
  · intro _
    rw [hchange]
    exact ⟨(h.learning hn).1, rfl⟩
  · rw [hup]
    exact Cusum.Best.nil
  · rw [hdn]
    exact Cusum.Best.nil
  · rw [hup]
    exact hrCusumLimit_pos
  · rw [hdn]
    exact hrCusumLimit_pos

theorem tracked (h : CusumKept s g) (hr : r.valid = true) (ht : g.1.tracks = true) :
    CusumKept (hrStep b s r) (noteDeviation b s r g) := by
  have hmany : 8 ≤ g.1.learned := of_decide_eq_true ht
  have hfull := h.baseN_of_tracks ht
  have hbase := h.base_of_tracks ht
  have hbpm := r.range hr
  obtain ⟨htrack, hchange⟩ := hrStep_valid b s hr
  obtain ⟨hbestUp, hbestDn⟩ := h.gathers ht hr
  have hcases := trackValid_tracks s.status.hrChange r.bpm hfull.ge (by omega)
  have hfollow := u16OfInt_between hrBaselineAlphaQ8 (by decide) (by decide) hbase hbpm
  have hstays : hrBaselineMinWin = min hrBaselineMinWin (g.1.learned + 1) := (min_eq_left (Nat.le_succ_of_le hmany)).symm
  unfold noteDeviation noteReading
  simp only [hr, ht, if_true]
  dsimp only at hcases ⊢
  rw [← htrack, ← hchange] at hcases
  have hcleared (hflag : (hrStep b s r).status.hrChange = .rising ∨ (hrStep b s r).status.hrChange = .falling)
      (hclear : (hrStep b s r).hrTrack = ⟨r.bpm, s.hrTrack.baseN, 0, 0, 0⟩) :
      CusumKept (hrStep b s r) (⟨g.1.learned + 1, 0⟩, if (hrStep b s r).status.hrChange = .rising ∨
        (hrStep b s r).status.hrChange = .falling then [] else deviation s.hrTrack r.bpm :: g.2) := by
    rw [if_pos hflag]
    constructor <;> rw [hclear]
    · exact Or.inr ⟨Nat.succ_pos _, hbpm⟩
    · exact hfull.trans hstays
    · rfl
    · exact fun hlt => absurd hlt hfull.ge.not_gt
    · exact Cusum.Best.nil
    · exact Cusum.Best.nil
    · exact hrCusumLimit_pos
    · exact hrCusumLimit_pos
  rcases hcases with ⟨-, hclear, hflag⟩ | ⟨-, -, hclear, hflag⟩ | ⟨hup, hdn, hmove, hflag⟩
  · exact hcleared (Or.inl hflag) hclear
  · exact hcleared (Or.inr hflag) hclear
  · have hstable : ¬ ((hrStep b s r).status.hrChange = .rising ∨ (hrStep b s r).status.hrChange = .falling) := by
      rw [hflag]
      decide
    rw [if_neg hstable]
    constructor <;> rw [hmove]
    · exact Or.inr ⟨Nat.succ_pos _, hfollow⟩
    · exact hfull.trans hstays
    · rfl
    · exact fun hlt => absurd hlt hfull.ge.not_gt
    · exact hbestUp
    · exact hbestDn
    · exact hup
    · exact hdn

theorem step (h : CusumKept s g) (r : Reading) : CusumKept (hrStep b s r) (noteDeviation b s r g) := by
  cases hr : r.valid with
  | false => exact h.invalid hr
  | true =>
    cases ht : g.1.tracks with
    | false => exact h.learns hr ht
    | true => exact h.tracked hr ht

end CusumKept

theorem learning_run (b : Build) (s : State) (rs : List Reading) :
    (History.after (hrStep b) (noteDeviation b) (vitalsInit s) (⟨0, 0⟩, []) rs).1 = learning rs := by
  induction rs using List.reverseRecOn with
  | nil => rfl
  | append_singleton rs r ih =>
    rw [History.after_concat, learning, List.foldl_concat, ← learning, ← ih]
    rfl

theorem cusumKept_run (b : Build) (s : State) (rs : List Reading) :
    CusumKept (hrRun b s rs) (learning rs, deviations b s rs) := by
  rw [← learning_run b s rs]
  exact History.invariant (hrStep b) (noteDeviation b) (CusumKept.start s) (fun _ _ r h => h.step r) rs

theorem published_run (b : Build) (s : State) (rs : List Reading) :
    (hrRun b s rs).status.hrBaselineBpm = (hrRun b s rs).hrTrack.baseBpm ∧
      (hrRun b s rs).status.hrCusumUp = u16OfInt (hrRun b s rs).hrTrack.cusumUp ∧
      (hrRun b s rs).status.hrCusumDn = u16OfInt (hrRun b s rs).hrTrack.cusumDn := by
  induction rs using List.reverseRecOn with
  | nil => exact ⟨rfl, rfl, rfl⟩
  | append_singleton rs r ih =>
    rw [hrRun, List.foldl_append, List.foldl_cons, List.foldl_nil]
    exact hrStep_published b _ r

theorem CusumKept.flag_iff {b : Build} {s : State} {g : Learning × List Deviation} (h : CusumKept s g) {r : Reading}
    (hr : r.valid = true) :
    let ds := deviation s.hrTrack r.bpm :: g.2
    ((hrStep b s r).status.hrChange = .rising ↔ g.1.tracks = true ∧ Gathered Deviation.rise ds) ∧
      ((hrStep b s r).status.hrChange = .falling ↔
        g.1.tracks = true ∧ ¬ Gathered Deviation.rise ds ∧ Gathered Deviation.fall ds) := by
  intro ds
  obtain ⟨-, hchange⟩ := hrStep_valid b s hr
  cases ht : g.1.tracks with
  | false =>
    have hfew : g.1.learned < 8 := not_le.mp (of_decide_eq_false ht)
    have hn : s.hrTrack.baseN < hrBaselineMinWin := (h.learned.trans (min_eq_right hfew.le)).trans_lt hfew
    rw [(trackValid_learns s.status.hrChange r.bpm hn).2.2.2, (h.learning hn).1] at hchange
    rw [hchange]
    simp
  | true =>
    have hbase := h.base_of_tracks ht
    obtain ⟨hup, hdn⟩ := h.gathers ht hr
    have hreachUp := hup.reaches_iff hrCusumLimit_pos
    have hreachDn := hdn.reaches_iff hrCusumLimit_pos
    rw [List.length_map] at hreachUp hreachDn
    simp only [← List.map_take] at hreachUp hreachDn
    have hcases := trackValid_tracks s.status.hrChange r.bpm (h.baseN_of_tracks ht).ge (by omega)
    dsimp only at hcases
    rw [← hchange] at hcases
    rcases hcases with ⟨hrise, -, hflag⟩ | ⟨hquiet, hfall, -, hflag⟩ | ⟨hquiet, hlow, -, hflag⟩
    · have hgathered : Gathered Deviation.rise ds := hreachUp.mp hrise
      rw [hflag]
      simp [hgathered]
    · have hgathered : ¬ Gathered Deviation.rise ds := fun hg => absurd (hreachUp.mpr hg) (not_le.mpr hquiet)
      have hfallen : Gathered Deviation.fall ds := hreachDn.mp hfall
      rw [hflag]
      simp [hgathered, hfallen]
    · have hgathered : ¬ Gathered Deviation.rise ds := fun hg => absurd (hreachUp.mpr hg) (not_le.mpr hquiet)
      have hfallen : ¬ Gathered Deviation.fall ds := fun hg => absurd (hreachDn.mpr hg) (not_le.mpr hlow)
      rw [hflag]
      simp [hgathered, hfallen]

/-- The variables stay in their ranges and are published as they are; the baseline is learned from
the valid windows since it was last discarded; and a flag is raised exactly where some run of the
newest tracking windows has gathered the limit. -/
theorem hr_change_is_cusum (b : Build) (s : State) (rs : List Reading) :
    let s' := hrRun b s rs
    (((learning rs).learned = 0 ∧ s'.hrTrack.baseBpm = 0 ∨
        0 < (learning rs).learned ∧ 40 ≤ s'.hrTrack.baseBpm ∧ s'.hrTrack.baseBpm ≤ 180) ∧
      s'.hrTrack.baseN = min hrBaselineMinWin (learning rs).learned ∧
      (0 ≤ s'.hrTrack.cusumUp ∧ s'.hrTrack.cusumUp < hrCusumLimit) ∧
      (0 ≤ s'.hrTrack.cusumDn ∧ s'.hrTrack.cusumDn < hrCusumLimit) ∧
      s'.status.hrBaselineBpm = s'.hrTrack.baseBpm ∧
      (s'.status.hrCusumUp : ℤ) = s'.hrTrack.cusumUp ∧ (s'.status.hrCusumDn : ℤ) = s'.hrTrack.cusumDn) ∧
    ∀ r : Reading, r.valid = true →
      let ds := deviation s'.hrTrack r.bpm :: deviations b s rs
      ((hrStep b s' r).status.hrChange = .rising ↔
        hrBaselineMinWin ≤ (learning rs).learned ∧ Gathered Deviation.rise ds) ∧
      ((hrStep b s' r).status.hrChange = .falling ↔
        hrBaselineMinWin ≤ (learning rs).learned ∧ ¬ Gathered Deviation.rise ds ∧ Gathered Deviation.fall ds) := by
  intro s'
  have hkept := cusumKept_run b s rs
  obtain ⟨hbase, hup, hdn⟩ := published_run b s rs
  have hup0 := hkept.up.nonneg
  have hdn0 := hkept.dn.nonneg
  have huplt : s'.hrTrack.cusumUp < 24 := hkept.upLt
  have hdnlt : s'.hrTrack.cusumDn < 24 := hkept.dnLt
  refine ⟨⟨hkept.base, hkept.learned, ⟨hup0, huplt⟩, ⟨hdn0, hdnlt⟩, hbase, ?_, ?_⟩, ?_⟩
  · rw [hup]
    exact u16OfInt_of_lt hup0 (huplt.trans (by decide))
  · rw [hdn]
    exact u16OfInt_of_lt hdn0 (hdnlt.trans (by decide))
  · intro r hr
    obtain ⟨hrise, hfall⟩ := hkept.flag_iff (b := b) hr
    rw [Learning.tracks, decide_eq_true_eq] at hrise hfall
    exact ⟨hrise, hfall⟩

def steadyAt60 : List Reading := List.replicate 8 ⟨true, 60, by decide⟩

/-- Eight windows teach a baseline of 60 BPM. The second window of 80 BPM is flagged, and so is the
second of 40 BPM. -/
theorem hr_change_is_cusum_both_ways :
    (hrStep defaultBuild (hrRun defaultBuild boot (steadyAt60 ++ [⟨true, 80, by decide⟩]))
      ⟨true, 80, by decide⟩).status.hrChange = .rising ∧
    (hrStep defaultBuild (hrRun defaultBuild boot (steadyAt60 ++ [⟨true, 40, by decide⟩]))
      ⟨true, 40, by decide⟩).status.hrChange = .falling := by
  constructor
  · apply ((hr_change_is_cusum defaultBuild boot _).2 _ rfl).1.mpr
    exact ⟨by decide, 2, by decide, by decide, by decide⟩
  · apply ((hr_change_is_cusum defaultBuild boot _).2 _ rfl).2.mpr
    refine ⟨by decide, ?_, 2, by decide, by decide, by decide⟩
    rintro ⟨n, hpos, hle, hsum⟩
    change n ≤ 2 at hle
    interval_cases n
    · exact absurd hsum (by decide +kernel)
    · exact absurd hsum (by decide +kernel)

end SmartHelmet.Vitals
