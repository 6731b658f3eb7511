import SmartHelmet.AbsenceDetection
import SmartHelmet.PulseValidity

namespace SmartHelmet.Vitals

open Config MachineArith OnePole

def judges (b : Build) (s : State) : Bool :=
  looksAtBands b s && !decide (s.bio.pulseAbs < bioPulseAbsMin ∧ s.bio.respAbs < bioRespAbsMin) &&
    !decide (sensAbs s > u16 (s.bio.pulseAbs * bioArtifactRatio + 40))

def baselineToward (level base : ℕ) : ℕ :=
  if base = 0 then (if level ≠ 0 then level else 1)
  else u16OfInt (base + (((level : ℤ) - (base : ℤ)) * baselineAlphaQ8).tdiv 256)

def trendAgainst (level base : ℕ) : TrendFlag :=
  let deltaPct := (((level : ℤ) - (base : ℤ)) * 100).tdiv base
  if deltaPct ≥ trendUpPct then .rising
  else if deltaPct ≤ -trendDownPct then .falling
  else .stable

/-- Where the baseline stops. -/
def restingBaseline (level base : ℕ) : ℕ :=
  if base = 0 then level
  else if base ≤ level then level - min (level - base) 15
  else level + min (base - level) 15

def Settling (level base : ℕ) : Prop :=
  base = 0 ∨ (5 * min (level - base) 15 < level ∧ 4 * min (base - level) 15 < level)

def follow (b : Build) (r : Run) (cs : ℕ → Call) : ℕ → Run
  | 0 => r
  | n + 1 => (follow b r cs n).step b (cs n)

def windowState (s : State) : Call → State
  | .onSensSample => { s with sensSinceProcess := 0 }
  | _ => s

def judgedAt (b : Build) (r : Run) (cs : ℕ → Call) (n : ℕ) : Bool :=
  processes (follow b r cs n) (cs n) && judges b (windowState (follow b r cs n).state (cs n))

/-- A run that goes on without a restart and whose judged windows all see one pulse level. -/
structure HoldsLevel (b : Build) (r : Run) (cs : ℕ → Call) (level : ℕ) : Prop where
  noRestart : ∀ n, cs n ≠ .init
  level : ∀ n, judgedAt b r cs n = true → (follow b r cs n).state.bio.pulseAbs = level
  goesOn : ∀ n, ∃ m, n ≤ m ∧ judgedAt b r cs m = true

def TrendSettles (b : Build) (r : Run) (cs : ℕ → Call) : Prop :=
  ∃ N, ∀ n, N ≤ n → judgedAt b r cs n = true → (follow b r cs (n + 1)).state.status.trend = .stable

section Windows

variable {b : Build} {s : State}

theorem window_judged (hjudges : judges b s = true) :
    (vitalsProcess b s).status.baselineEnergy = baselineToward s.bio.pulseAbs s.status.baselineEnergy ∧
      (vitalsProcess b s).status.trend =
        trendAgainst s.bio.pulseAbs (baselineToward s.bio.pulseAbs s.status.baselineEnergy) := by
  unfold judges at hjudges
  simp only [Bool.and_eq_true, Bool.not_eq_true', decide_eq_false_iff_not] at hjudges
  obtain ⟨⟨hlooks, hpresent⟩, hclean⟩ := hjudges
  obtain ⟨htrend, hbase⟩ := trend_window hlooks
  have hbio : bioTrend s.bio s.status.baselineEnergy (sensAbs s) =
      (trendAgainst s.bio.pulseAbs (baselineToward s.bio.pulseAbs s.status.baselineEnergy), true,
        baselineToward s.bio.pulseAbs s.status.baselineEnergy) := by
    unfold bioTrend trendAgainst
    rw [if_neg hpresent, if_neg hclean]
    dsimp only
    rw [← baselineToward]
    split_ifs <;> rfl
  rw [htrend, hbase, hbio]
  exact ⟨rfl, rfl⟩

theorem baseline_processWarm (s : State) : (processWarm s).status.baselineEnergy = s.status.baselineEnergy := by
  unfold processWarm
  obtain ⟨_, _, _, _, _, _, hr⟩ := shFuseHr_shape (shHrDisturb { s with status := { s.status with
    trend := .unknown, valid := false } } hrDisturbHoldoffWin) 0 0 0 0 0 false .warm
  rw [hr]
  rfl

theorem window_not_looking (hlooks : looksAtBands b s = false) :
    (vitalsProcess b s).status.baselineEnergy = s.status.baselineEnergy := by
  have hgated : (gated b s).status.baselineEnergy = s.status.baselineEnergy :=
    congrArg Guards.baselineEnergy (guards_processPrologue s)
  rcases vitalsProcess_cases b s with ⟨_, hactive⟩ | ⟨hcalm, hw⟩
  · rw [hactive, ← hgated]
    rfl
  · obtain ⟨-, -, -, -, hbase⟩ := opened_keeps b s
    have hwarm : processPulse b (gated b s) = processWarm (armHoldoff (openCalm b (gated b s))) :=
      if_pos ((warm_iff_not_looking hcalm).mpr hlooks)
    obtain ⟨t, change, dev, pct, he⟩ := processCalm_eq b (gated b s)
    have hclose (p : State) : (closeCalm p t change dev pct).status.baselineEnergy = p.status.baselineEnergy := rfl
    rw [hw, he, hclose, hwarm, baseline_processWarm, hbase]

theorem window_not_judged (hjudges : judges b s = false) :
    (vitalsProcess b s).status.baselineEnergy = s.status.baselineEnergy := by
  cases hlooks : looksAtBands b s with
  | true =>
    unfold judges at hjudges
    rw [hlooks, Bool.true_and, ← Bool.not_or, Bool.not_eq_false', Bool.or_eq_true, decide_eq_true_eq,
      decide_eq_true_eq] at hjudges
    rw [(trend_window hlooks).2]
    unfold bioTrend
    by_cases habsent : s.bio.pulseAbs < bioPulseAbsMin ∧ s.bio.respAbs < bioRespAbsMin
    · rw [if_pos habsent]
    · rw [if_neg habsent, if_pos (hjudges.resolve_left habsent)]
  | false => exact window_not_looking hlooks

end Windows

section Baseline

variable {level base : ℕ}

theorem baselineToward_eq (hlevel : 8 ≤ level ∧ level < 65536) (hbase : base < 65536) :
    (baselineToward level base : ℤ) =
      if base = 0 then (level : ℤ)
      else if base ≤ level then base + ((level : ℤ) - base) * 16 / 256
      else base - ((base : ℤ) - level) * 16 / 256 := by
  unfold baselineToward
  split_ifs with h0 hne hle
  · rfl
  · omega
  · have hstep := step_of_ge (x := (level : ℤ)) (y := base) 16 (by norm_num) (by omega)
    unfold step at hstep
    rw [baselineAlphaQ8, hstep, u16OfInt]
    omega
  · have hstep := step_of_le (x := (level : ℤ)) (y := base) 16 (by norm_num) (by omega)
    unfold step at hstep
    rw [baselineAlphaQ8, hstep, u16OfInt]
    omega

theorem baselineToward_lt (hlevel : 8 ≤ level ∧ level < 65536) (hbase : base < 65536) :
    baselineToward level base < 65536 := by
  have heq := baselineToward_eq hlevel hbase
  split_ifs at heq <;> omega

theorem restingBaseline_toward (hlevel : 8 ≤ level ∧ level < 65536) (hbase : base < 65536) :
    restingBaseline level (baselineToward level base) = restingBaseline level base := by
  have heq := baselineToward_eq hlevel hbase
  generalize baselineToward level base = next at heq ⊢
  unfold restingBaseline
  split_ifs at heq ⊢ <;> omega

theorem baselineToward_rests (hlevel : 8 ≤ level ∧ level < 65536) (hbase : base < 65536)
    (hrest : base = restingBaseline level base) : baselineToward level base = base := by
  have heq := baselineToward_eq hlevel hbase
  generalize baselineToward level base = next at heq ⊢
  unfold restingBaseline at hrest
  split_ifs at heq hrest <;> omega

theorem baselineToward_nearer (hlevel : 8 ≤ level ∧ level < 65536) (hbase : base < 65536)
    (hrest : base ≠ restingBaseline level base) :
    ((level : ℤ) - baselineToward level base).natAbs < ((level : ℤ) - base).natAbs := by
  have heq := baselineToward_eq hlevel hbase
  generalize baselineToward level base = next at heq ⊢
  unfold restingBaseline at hrest
  split_ifs at heq hrest <;> omega

theorem baseline_comes_to_rest (hlevel : 8 ≤ level ∧ level < 65536) (hbase : base < 65536) :
    ∃ N, ∀ n, N ≤ n → (baselineToward level)^[n] base = restingBaseline level base := by
  apply exists_iterate_enters (baselineToward level) (fun x => ((level : ℤ) - x).natAbs)
    (fun x => x < 65536 ∧ restingBaseline level x = restingBaseline level base)
    (fun x => x = restingBaseline level base)
  · rintro x ⟨hx, hrest⟩
    exact ⟨baselineToward_lt hlevel hx, (restingBaseline_toward hlevel hx).trans hrest⟩
  · rintro x ⟨hx, hrest⟩ hstop
    rw [baselineToward_rests hlevel hx (hstop.trans hrest.symm)]
    exact hstop
  · rintro x ⟨hx, hrest⟩ hmoves
    exact baselineToward_nearer hlevel hx (fun hstop => hmoves (hstop.trans hrest))
  · exact ⟨hbase, rfl⟩

theorem trendAgainst_of_le (hbase : 0 < base) (hle : base ≤ level) :
    trendAgainst level base = if 100 * (level - base) < 25 * base then .stable else .rising := by
  have hpos : (0 : ℤ) < base := by omega
  have hdelta : (((level : ℤ) - base) * 100).tdiv base = ((level : ℤ) - base) * 100 / base :=
    Int.tdiv_eq_ediv_of_nonneg (by omega)
  have hnonneg : 0 ≤ ((level : ℤ) - base) * 100 / base := Int.ediv_nonneg (by omega) hpos.le
  have hup := Int.le_ediv_iff_mul_le (a := 25) (b := ((level : ℤ) - base) * 100) hpos
  unfold trendAgainst
  rw [hdelta, trendUpPct, trendDownPct]
  by_cases hrise : 25 ≤ ((level : ℤ) - base) * 100 / base
  · have hbig := hup.mp hrise
    rw [if_pos hrise, if_neg (by omega)]
  · have hsmall := fun h => hrise (hup.mpr h)
    rw [if_neg hrise, if_neg (by omega), if_pos (by omega)]

theorem trendAgainst_of_ge (hbase : 0 < base) (hle : level ≤ base) :
    trendAgainst level base = if 100 * (base - level) < 20 * base then .stable else .falling := by
  have hpos : (0 : ℤ) < base := by omega
  have hdelta : (((level : ℤ) - base) * 100).tdiv base = -(((base : ℤ) - level) * 100 / base) := by
    rw [← Int.tdiv_eq_ediv_of_nonneg (show 0 ≤ ((base : ℤ) - level) * 100 by omega), ← Int.neg_tdiv]
    congr 1
    ring
  have hnonneg : 0 ≤ ((base : ℤ) - level) * 100 / base := Int.ediv_nonneg (by omega) hpos.le
  have hdown := Int.le_ediv_iff_mul_le (a := 20) (b := ((base : ℤ) - level) * 100) hpos
  unfold trendAgainst
  rw [hdelta, trendUpPct, trendDownPct, if_neg (by omega)]
  by_cases hfall : 20 ≤ ((base : ℤ) - level) * 100 / base
  · have hbig := hdown.mp hfall
    rw [if_pos (by omega), if_neg (by omega)]
  · have hsmall := fun h => hfall (hdown.mpr h)
    rw [if_neg (by omega), if_pos (by omega)]

theorem trendAgainst_resting (hlevel : 8 ≤ level) :
    trendAgainst level (restingBaseline level base) = .stable ↔ Settling level base := by
  have hpos : 0 < restingBaseline level base := by
    unfold restingBaseline
    split_ifs <;> omega
  rcases le_total (restingBaseline level base) level with hle | hle
  · rw [trendAgainst_of_le hpos hle, ite_eq_left_iff]
    unfold restingBaseline Settling at *
    split_ifs at * <;> simp <;> omega
  · rw [trendAgainst_of_ge hpos hle, ite_eq_left_iff]
    unfold restingBaseline Settling at *
    split_ifs at * <;> simp <;> omega

end Baseline

section Runs

variable {b : Build} {r : Run} {cs : ℕ → Call} {level : ℕ}

theorem step_window (b : Build) {r : Run} {c : Call} (hp : processes r c = true) :
    r.step b c = r.process b (windowState r.state c) := by
  cases c with
  | process => rfl
  | onSensSample => exact if_pos (of_decide_eq_true hp)
  | _ => exact absurd hp Bool.false_ne_true

theorem pulseAbs_windowState (s : State) (c : Call) :
    (windowState s c).bio = s.bio ∧ (windowState s c).status = s.status := by
  cases c <;> exact ⟨rfl, rfl⟩

theorem baseline_step (r : Run) {c : Call} (hc : c ≠ .init) :
    (r.step b c).state.status.baselineEnergy =
      if processes r c && judges b (windowState r.state c) then
        baselineToward r.state.bio.pulseAbs r.state.status.baselineEnergy
      else r.state.status.baselineEnergy := by
  cases hp : processes r c with
  | true =>
    obtain ⟨hbio, hstatus⟩ := pulseAbs_windowState r.state c
    rw [step_window b hp, Bool.true_and, ← hbio, ← hstatus, Run.process]
    cases hjudges : judges b (windowState r.state c) with
    | true => exact (window_judged hjudges).1
    | false => exact window_not_judged hjudges
  | false =>
    rw [Bool.false_and, if_neg Bool.false_ne_true]
    cases c with
    | init => exact absurd rfl hc
    | sens mv t =>
      simp only [Run.step]
      unfold vitalsPushSensInMvAt noteSensEdge
      dsimp only
      split_ifs <;> rfl
    | onSensSample => rw [step_onSensSample_idle b hp]
    | process => exact absurd hp.symm Bool.false_ne_true
    | dropped | accel | pirEvent | takeFall => rfl

theorem trend_step (r : Run) {c : Call} (hp : processes r c = true)
    (hjudges : judges b (windowState r.state c) = true) : (r.step b c).state.status.trend =
      trendAgainst r.state.bio.pulseAbs (baselineToward r.state.bio.pulseAbs r.state.status.baselineEnergy) := by
  obtain ⟨hbio, hstatus⟩ := pulseAbs_windowState r.state c
  rw [step_window b hp, ← hbio, ← hstatus]
  exact (window_judged hjudges).2

theorem baseline_follow (h : HoldsLevel b r cs level) (n : ℕ) :
    (follow b r cs n).state.status.baselineEnergy =
      (baselineToward level)^[Nat.count (judgedAt b r cs · = true) n] r.state.status.baselineEnergy := by
  induction n with
  | zero => rfl
  | succ n ih =>
    rw [follow, baseline_step _ (h.noRestart n), Nat.count_succ]
    cases hjudged : judgedAt b r cs n with
    | true =>
      have hlevel := h.level n hjudged
      unfold judgedAt at hjudged
      rw [if_pos hjudged, if_pos rfl, Function.iterate_succ_apply', ← ih, hlevel]
    | false =>
      unfold judgedAt at hjudged
      rw [if_neg (Bool.eq_false_iff.mp hjudged), if_neg Bool.false_ne_true, ih, Nat.add_zero]

theorem count_unbounded (h : HoldsLevel b r cs level) (k : ℕ) :
    ∃ n, k ≤ Nat.count (judgedAt b r cs · = true) n := by
  induction k with
  | zero => exact ⟨0, Nat.zero_le _⟩
  | succ k ih =>
    obtain ⟨n, hn⟩ := ih
    obtain ⟨m, hm, hjudged⟩ := h.goesOn n
    refine ⟨m + 1, ?_⟩
    have hmono := Nat.count_monotone (judgedAt b r cs · = true) hm
    rw [Nat.count_succ, if_pos hjudged]
    omega

theorem trend_at_rest (h : HoldsLevel b r cs level) (hlevel : 8 ≤ level ∧ level < 65536)
    (hbase : r.state.status.baselineEnergy < 65536) :
    ∃ N, ∀ n, N ≤ n → judgedAt b r cs n = true → (follow b r cs (n + 1)).state.status.trend =
      trendAgainst level (restingBaseline level r.state.status.baselineEnergy) := by
  obtain ⟨k, hk⟩ := baseline_comes_to_rest hlevel hbase
  obtain ⟨N, hN⟩ := count_unbounded h k
  refine ⟨N, fun n hn hjudged => ?_⟩
  have hcount := Nat.count_monotone (judgedAt b r cs · = true) hn
  have hrest := hk (Nat.count (judgedAt b r cs · = true) n + 1) (by omega)
  have hboth := Bool.and_eq_true_iff.mp hjudged
  rw [follow, trend_step _ hboth.1 hboth.2, h.level n hjudged, baseline_follow h,
    ← Function.iterate_succ_apply' (baselineToward level), hrest]

theorem trendSettles_iff (h : HoldsLevel b r cs level) (hlevel : 8 ≤ level ∧ level < 65536)
    (hbase : r.state.status.baselineEnergy < 65536) :
    TrendSettles b r cs ↔
      trendAgainst level (restingBaseline level r.state.status.baselineEnergy) = .stable := by
  obtain ⟨N, hN⟩ := trend_at_rest h hlevel hbase
  constructor
  · rintro ⟨M, hM⟩
    obtain ⟨n, hn, hjudged⟩ := h.goesOn (max N M)
    rw [← hN n (by omega) hjudged]
    exact hM n (by omega) hjudged
  · intro hstable
    exact ⟨N, fun n hn hjudged => (hN n hn hjudged).trans hstable⟩

theorem levels_follow (hr : r.state.bio.pulseAbs < 65536 ∧ r.state.bio.respAbs < 65536) (n : ℕ) :
    (follow b r cs n).state.bio.pulseAbs < 65536 ∧ (follow b r cs n).state.bio.respAbs < 65536 := by
  induction n with
  | zero => exact hr
  | succ n ih => exact levels_step b _ (cs n) ih

theorem baseline_lt_run (b : Build) (calls : List Call) : (run b calls).state.status.baselineEnergy < 65536 := by
  have hkeep (r : Run) (c : Call) (h : (r.state.bio.pulseAbs < 65536 ∧ r.state.bio.respAbs < 65536) ∧
      r.state.status.baselineEnergy < 65536) :
      ((r.step b c).state.bio.pulseAbs < 65536 ∧ (r.step b c).state.bio.respAbs < 65536) ∧
        (r.step b c).state.status.baselineEnergy < 65536 := by
    refine ⟨levels_step b r c h.1, ?_⟩
    by_cases hc : c = .init
    · rw [hc]
      exact Nat.zero_lt_succ _
    · rw [baseline_step r hc]
      have htoward : baselineToward r.state.bio.pulseAbs r.state.status.baselineEnergy < 65536 := by
        have hlevel := h.1.1
        unfold baselineToward u16OfInt
        split_ifs <;> omega
      split
      · exact htoward
      · exact h.2
  exact (run_induction (P := fun r => (r.state.bio.pulseAbs < 65536 ∧ r.state.bio.respAbs < 65536) ∧
    r.state.status.baselineEnergy < 65536) ⟨⟨by decide, by decide⟩, by decide⟩ hkeep calls).2

end Runs

theorem trend_settles_iff (b : Build) (calls : List Call) (cs : ℕ → Call) (level : ℕ)
    (hmin : bioPulseAbsMin ≤ level) (h : HoldsLevel b (run b calls) cs level) :
    TrendSettles b (run b calls) cs ↔ Settling level (run b calls).state.status.baselineEnergy := by
  have hlevel : 8 ≤ level ∧ level < 65536 := by
    obtain ⟨n, -, hjudged⟩ := h.goesOn 0
    have hlt : (follow b (run b calls) cs n).state.bio.pulseAbs < 65536 := (levels_follow (levels_run b calls) n).1
    rw [h.level n hjudged] at hlt
    exact ⟨hmin, hlt⟩
  rw [trendSettles_iff h hlevel (baseline_lt_run b calls)]
  exact trendAgainst_resting hlevel.1

section Held

variable {b : Build} {s : State}

theorem gate_again {s' : State} (hsig : signals s' = signals s) (hcalm : s'.status.motion = .calm)
    (hgate : (motionGate b (processPrologue s)).1 = false) : (motionGate b (processPrologue s')).1 = false := by
  have hprologue : signals (processPrologue s') = signals (processPrologue s) := by
    rw [signals_processPrologue, signals_processPrologue, hsig]
  have hmotion : (processPrologue s').motion = (processPrologue s).motion := congrArg Signals.motion hprologue
  have hadapt : (processPrologue s').adapt = (processPrologue s).adapt := congrArg Signals.adapt hprologue
  have hstatus : (processPrologue s').status.motion = .calm :=
    (congrArg Guards.motion (guards_processPrologue s')).trans hcalm
  generalize processPrologue s' = p' at hmotion hadapt hstatus ⊢
  generalize processPrologue s = p at hmotion hadapt hgate
  have hrms : gateRms p' = gateRms p := by
    rw [gateRms, gateRms, latestStep, latestStep, haveAccel, haveAccel, hmotion]
  have hthresh : motionThresh b p' = motionThresh b p := by
    rw [motionThresh, motionThresh, adaptRunning, adaptRunning, hadapt]
  have hhave : haveAccel p' = haveAccel p := by
    rw [haveAccel, haveAccel, hmotion]
  unfold motionGate at hgate ⊢
  rw [hrms, hthresh, hhave, hstatus]
  by_cases hmoves : haveAccel p ∧ gateRms p ≥ motionThresh b p
  · rw [if_pos hmoves] at hgate
    exact absurd hgate.symm Bool.false_ne_true
  · rw [if_neg hmoves, if_neg (by decide)]

theorem judges_again (hjudges : judges b s = true) :
    judges b (vitalsProcess b s) = true ∧ (vitalsProcess b s).bio = s.bio := by
  have hsig := signals_vitalsProcess b s
  unfold judges looksAtBands at hjudges
  simp only [Bool.and_eq_true, Bool.not_eq_true', decide_eq_true_eq] at hjudges
  obtain ⟨⟨⟨⟨hgate, hwarm⟩, hsens⟩, hpresent⟩, hclean⟩ := hjudges
  obtain ⟨hcalm, hcount⟩ := calmWindows_of_calm hgate
  generalize vitalsProcess b s = s' at *
  have hbio : s'.bio = s.bio := congrArg Signals.bio hsig
  have hring : s'.sens = s.sens := congrArg Signals.sens hsig
  have hmotion : s'.motion = s.motion := congrArg Signals.motion hsig
  have hhave : haveAccel s' = haveAccel s := by
    rw [haveAccel, haveAccel, hmotion]
  have habs : sensAbs s' = sensAbs s := by
    rw [sensAbs, hring, sensAbs]
  have hwarm' : calmWindowsMin ≤ incSat 0xff s'.calmWindows := by
    rw [hcount]
    unfold incSat at hwarm ⊢
    simp only [calmWindowsMin] at hwarm ⊢
    split_ifs at * <;> omega
  refine ⟨?_, hbio⟩
  unfold judges looksAtBands
  rw [gate_again hsig hcalm hgate, decide_eq_true hwarm', hring, hhave, hsens, hbio, habs, hpresent, hclean]
  rfl

theorem follow_process (r : Run) (hjudges : judges b r.state = true) (n : ℕ) :
    judges b (follow b r (fun _ => .process) n).state = true ∧
      (follow b r (fun _ => .process) n).state.bio = r.state.bio := by
  induction n with
  | zero => exact ⟨hjudges, rfl⟩
  | succ n ih =>
    obtain ⟨hagain, hbio⟩ := judges_again ih.1
    exact ⟨hagain, hbio.trans ih.2⟩

theorem holdsLevel_process (r : Run) (hjudges : judges b r.state = true) :
    HoldsLevel b r (fun _ => .process) r.state.bio.pulseAbs where
  noRestart _ := Call.noConfusion
  level n _ := by rw [(follow_process r hjudges n).2]
  goesOn n := ⟨n, le_rfl, (follow_process r hjudges n).1⟩

end Held

def bandCalls (first last : UInt16) : List Call :=
  [.accel 0 0 1000, .accel 0 0 1000, .sens 0 0, .sens 0 0, .sens 0 0, .sens first 0, .process, .process, .process,
    .sens last 0]

theorem trend_settles_after_rise :
    let r := run defaultBuild (bandCalls 3000 3000)
    r.state.bio.pulseAbs = 274 ∧ r.state.status.baselineEnergy = 130 ∧
      TrendSettles defaultBuild r (fun _ => .process) := by
  intro r
  have hjudges : judges defaultBuild r.state = true := by decide +kernel
  have hlevel : r.state.bio.pulseAbs = 274 := by decide +kernel
  have hbase : r.state.status.baselineEnergy = 130 := by decide +kernel
  have hmin : bioPulseAbsMin ≤ r.state.bio.pulseAbs := by
    rw [hlevel]
    decide
  refine ⟨hlevel, hbase, (trend_settles_iff defaultBuild (bandCalls 3000 3000) _ _ hmin (holdsLevel_process r hjudges)).mpr ?_⟩
  rw [hlevel, hbase]
  exact Or.inr (by decide)

/-- The level doubles to 16, the baseline stays at 8 and the level is reported as rising for good. -/
theorem trend_rises_forever :
    let r := run defaultBuild (bandCalls 200 180)
    bioPulseAbsMin ≤ r.state.bio.pulseAbs ∧
      HoldsLevel defaultBuild r (fun _ => .process) r.state.bio.pulseAbs ∧
      ¬ TrendSettles defaultBuild r (fun _ => .process) := by
  intro r
  have hjudges : judges defaultBuild r.state = true := by decide +kernel
  have hlevel : r.state.bio.pulseAbs = 16 := by decide +kernel
  have hbase : r.state.status.baselineEnergy = 8 := by decide
  have hholds := holdsLevel_process r hjudges
  refine ⟨hlevel.symm ▸ by decide, hholds, ?_⟩
  rw [trendSettles_iff hholds (by omega) (by omega), hlevel, hbase]
  decide

end SmartHelmet.Vitals
