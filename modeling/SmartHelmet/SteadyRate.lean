import SmartHelmet.HrChangeRuns

namespace SmartHelmet.Vitals

open Config MachineArith

def learnGap (g : ℤ) : ℤ := g - (g * 64).tdiv 256

def rateRun (b : Build) (s : State) (rs : List Reading) : State := rs.foldl (hrStep b) s

/-- The first valid window reads `b0`, every later one `bpm`. -/
def Steady (b0 bpm : ℕ) (rs : List Reading) : Prop :=
  ∀ before r after, rs = before ++ r :: after → r.valid = true →
    r.bpm = if before.any Reading.valid then bpm else b0

/-- The call sets `hr_change` to the flag, whatever it was. -/
def Raises (b : Build) (s : State) (r : Reading) (flag : TrendFlag) : Prop :=
  ∀ change, (hrStep b { s with status := { s.status with hrChange := change } } r).status.hrChange = flag

def NoFlag (b : Build) (s : State) (rs : List Reading) : Prop :=
  ∀ before r after, rs = before ++ r :: after →
    ¬ Raises b (rateRun b s before) r .rising ∧ ¬ Raises b (rateRun b s before) r .falling

def Settles (b0 bpm : ℕ) : Prop :=
  bpmDiff bpm b0 ≤ 17 ∨
  (bpmDiff bpm b0 ≤ 22 ∧ (if b0 < bpm then 84 ≤ bpm else 76 ≤ bpm)) ∨
  (if b0 < bpm then 105 ≤ bpm else 95 ≤ bpm)

section Gap

theorem learnGap_zero : learnGap 0 = 0 := rfl

theorem learned_gap {g : ℤ} (hlo : -25 ≤ g) (hhi : g ≤ 25) :
    (17 < g → g ≤ 22 → learnGap^[7] g = 4) ∧ (22 < g → learnGap^[7] g = 5) ∧
      (g < -17 → -22 ≤ g → learnGap^[7] g = -4) ∧ (g < -22 → learnGap^[7] g = -5) ∧
      (-17 ≤ g → g ≤ 17 → -3 ≤ learnGap^[7] g ∧ learnGap^[7] g ≤ 3) := by
  have htable : ∀ n ∈ List.range 51, let g : ℤ := (n : ℤ) - 25
      (17 < g → g ≤ 22 → learnGap^[7] g = 4) ∧ (22 < g → learnGap^[7] g = 5) ∧
      (g < -17 → -22 ≤ g → learnGap^[7] g = -4) ∧ (g < -22 → learnGap^[7] g = -5) ∧
      (-17 ≤ g → g ≤ 17 → -3 ≤ learnGap^[7] g ∧ learnGap^[7] g ≤ 3) := by decide
  have hg := htable (g + 25).toNat (List.mem_range.mpr (by omega))
  have hcast : (((g + 25).toNat : ℕ) : ℤ) - 25 = g := by omega
  dsimp only at hg
  rwa [hcast] at hg

theorem hrSlack_eq (base : ℕ) : hrSlack base = max 3 ((base : ℤ) * 5 / 100) := by
  have hdiv : ((base : ℤ) * hrCusumSlackPct).tdiv 100 = (base : ℤ) * 5 / 100 :=
    Int.tdiv_eq_ediv_of_nonneg (Int.mul_nonneg (Int.natCast_nonneg base) (by decide))
  unfold hrSlack
  dsimp only
  rw [hdiv]
  simp only [hrCusumSlackBpm]
  split_ifs <;> omega

theorem settles_iff {b0 bpm base : ℕ} (hdelta : bpmDiff bpm b0 ≤ 25)
    (hbase : (base : ℤ) = bpm - learnGap^[7] ((bpm : ℤ) - b0)) :
    Settles b0 bpm ↔ |(bpm : ℤ) - base| ≤ hrSlack base := by
  rw [bpmDiff_eq] at hdelta
  obtain ⟨h4, h5, h4', h5', h3⟩ := learned_gap (g := (bpm : ℤ) - b0) (by omega) (by omega)
  rw [hrSlack_eq, abs_le]
  unfold Settles
  rw [bpmDiff_eq]
  generalize learnGap^[7] ((bpm : ℤ) - b0) = gap at *
  split_ifs with hlt
  · omega
  · omega

end Gap

section Windows

variable {t : HrTrack} (change : TrendFlag) {bpm : ℕ}

theorem trackValid_first (hbase : t.baseBpm = 0) (hn : t.baseN = 0) (hbpm : bpm ≤ 180) :
    (trackValid t change bpm).1 = ⟨bpm, 1, 0, 0, 0⟩ := by
  have hmove : u16OfInt ((bpm : ℤ) + ((bpm - bpm : ℤ) * 64).tdiv 256) = bpm := by
    rw [sub_self, zero_mul, Int.zero_tdiv, add_zero, u16OfInt]
    omega
  unfold trackValid
  dsimp only
  rw [if_pos hbase, hn, if_pos (by decide), hmove]

theorem trackValid_gap (hrange : 40 ≤ t.baseBpm ∧ t.baseBpm ≤ 180) (hn : t.baseN < hrBaselineMinWin)
    (hbpm : 40 ≤ bpm ∧ bpm ≤ 180) :
    ((trackValid t change bpm).1.baseBpm : ℤ) = bpm - learnGap ((bpm : ℤ) - t.baseBpm) := by
  have hstep := OnePole.step_between (a := 64) (by norm_num) (by norm_num) (bpm : ℤ) t.baseBpm
  have hbase : (trackValid t change bpm).1.baseBpm =
      u16OfInt (t.baseBpm + (((bpm : ℤ) - t.baseBpm) * 64).tdiv 256) := by
    unfold trackValid
    dsimp only
    rw [if_neg (show ¬ t.baseBpm = 0 by omega), if_pos hn]
  rw [hbase]
  unfold OnePole.step at hstep
  rw [u16OfInt_of_lt (by omega) (by omega), learnGap]
  omega

theorem follow_stops {g : ℤ} (hlo : -21 ≤ g) (hhi : g ≤ 21) : (g * hrBaselineAlphaQ8).tdiv 256 = 0 := by
  have htable : ∀ n ∈ List.range 43, (((n : ℤ) - 21) * hrBaselineAlphaQ8).tdiv 256 = 0 := by decide
  have hg := htable (g + 21).toNat (List.mem_range.mpr (by omega))
  have hcast : (((g + 21).toNat : ℕ) : ℤ) - 21 = g := by omega
  rwa [hcast] at hg

end Windows

structure GapKept (bpm : ℕ) (g : ℤ) (t : HrTrack) : Prop where
  started : 1 ≤ t.baseN
  learned : t.baseN ≤ hrBaselineMinWin
  range : 40 ≤ t.baseBpm ∧ t.baseBpm ≤ 180
  gap : (t.baseBpm : ℤ) = bpm - learnGap^[t.baseN - 1] g
  up : t.cusumUp = 0
  dn : t.cusumDn = 0

section Learning

variable {bpm : ℕ} {g : ℤ} {t : HrTrack}

theorem GapKept.learn (h : GapKept bpm g t) (hn : t.baseN < hrBaselineMinWin) (hbpm : 40 ≤ bpm ∧ bpm ≤ 180)
    (change : TrendFlag) : GapKept bpm g (trackValid t change bpm).1 := by
  obtain ⟨hnext, hup, hdn, -⟩ := trackValid_learns change bpm hn
  obtain ⟨hlo, hhi, -⟩ := trackValid_base t change hbpm (Or.inr h.range)
  refine ⟨by omega, by rw [hnext]; exact hn, ⟨hlo, hhi⟩, ?_, hup, hdn⟩
  have hstarted := h.started
  have hgap : (bpm : ℤ) - t.baseBpm = learnGap^[t.baseN - 1] g := by
    rw [h.gap]
    omega
  have hiter : t.baseN + 1 - 1 = (t.baseN - 1) + 1 := by omega
  rw [trackValid_gap change h.range hn hbpm, hgap, hnext, hiter, Function.iterate_succ_apply']

theorem GapKept.first (hbase : t.baseBpm = 0) (hn : t.baseN = 0) {b0 : ℕ} (hb0 : 40 ≤ b0 ∧ b0 ≤ 180)
    (change : TrendFlag) : GapKept bpm ((bpm : ℤ) - b0) (trackValid t change b0).1 := by
  rw [trackValid_first change hbase hn hb0.2]
  refine ⟨le_rfl, (by decide : 1 ≤ hrBaselineMinWin), hb0, ?_, rfl, rfl⟩
  change (b0 : ℤ) = bpm - ((bpm : ℤ) - b0)
  omega

theorem GapKept.quiet (h : GapKept bpm g t) (hn : t.baseN = hrBaselineMinWin) (hg : |g| ≤ 25)
    (hslack : |(bpm : ℤ) - t.baseBpm| ≤ hrSlack t.baseBpm) (change : TrendFlag) :
    GapKept bpm g (trackValid t change bpm).1 ∧ (trackValid t change bpm).2.1 = .stable := by
  rw [abs_le] at hslack hg
  have hbase := h.range
  have hgap : (bpm : ℤ) - t.baseBpm = learnGap^[7] g := by
    have hkept := h.gap
    rw [hn] at hkept
    have hseven : hrBaselineMinWin - 1 = 7 := rfl
    rw [hkept, hseven]
    omega
  obtain ⟨h4, h5, h4', h5', h3⟩ := learned_gap hg.1 hg.2
  have hsmall : -5 ≤ (bpm : ℤ) - t.baseBpm ∧ (bpm : ℤ) - t.baseBpm ≤ 5 := by
    rw [hgap]
    omega
  have hup : cusumStep t.cusumUp (deviation t bpm).rise = 0 := by
    have hrise : (deviation t bpm).rise ≤ 0 := sub_nonpos.mpr hslack.2
    rw [h.up, cusumStep_eq (by omega), Cusum.step]
    omega
  have hdn : cusumStep t.cusumDn (deviation t bpm).fall = 0 := by
    have hfall : (deviation t bpm).fall = -((bpm : ℤ) - t.baseBpm) - hrSlack t.baseBpm := rfl
    rw [h.dn, cusumStep_eq (by omega), Cusum.step]
    omega
  have hstop : u16OfInt (t.baseBpm + ((deviation t bpm).dev * hrBaselineAlphaQ8).tdiv 256) = t.baseBpm := by
    have hdev : (deviation t bpm).dev = (bpm : ℤ) - t.baseBpm := rfl
    rw [hdev, follow_stops (by omega) (by omega), add_zero, u16OfInt]
    omega
  have hcases := trackValid_tracks change bpm hn.ge (show t.baseBpm ≠ 0 by omega)
  dsimp only at hcases
  rw [hup, hdn, hstop] at hcases
  rcases hcases with ⟨hle, -, -⟩ | ⟨-, hle, -, -⟩ | ⟨-, -, htrack, hflag⟩
  · exact absurd hrCusumLimit_pos (not_lt.mpr hle)
  · exact absurd hrCusumLimit_pos (not_lt.mpr hle)
  · rw [htrack]
    exact ⟨⟨h.started, h.learned, hbase, h.gap, rfl, rfl⟩, hflag⟩

end Learning

def RateKept (b0 bpm : ℕ) (seen : Bool) (t : HrTrack) : Prop :=
  t.baseBpm = 0 ∧ t.baseN = 0 ∨
    seen = true ∧ ∃ g, (g = (bpm : ℤ) - b0 ∨ g = 0) ∧ GapKept bpm g t

section Steps

variable {b0 bpm : ℕ} {seen : Bool} {t : HrTrack} (hb0 : 40 ≤ b0 ∧ b0 ≤ 180) (hbpm : 40 ≤ bpm ∧ bpm ≤ 180)
  (hdelta : bpmDiff bpm b0 ≤ 25)

theorem RateKept.invalid (h : RateKept b0 bpm seen t) (change : TrendFlag) :
    RateKept b0 bpm seen (trackInvalid t change).1 := by
  rcases trackInvalid_cases (t := t) change with ⟨-, ht, -⟩ | ⟨-, ht, -⟩
  · rw [ht]
    exact Or.inl ⟨rfl, rfl⟩
  · rw [ht]
    rcases h with hnone | ⟨hseen, g, hg, hkept⟩
    · exact Or.inl hnone
    · exact Or.inr ⟨hseen, g, hg, hkept.started, hkept.learned, hkept.range, hkept.gap, hkept.up, hkept.dn⟩

include hb0 hbpm hdelta

theorem RateKept.valid (hsettles : Settles b0 bpm) (h : RateKept b0 bpm seen t) (change : TrendFlag) :
    RateKept b0 bpm true (trackValid t change (if seen then bpm else b0)).1 ∧
      ((trackValid t change (if seen then bpm else b0)).2.1 = change ∨
        (trackValid t change (if seen then bpm else b0)).2.1 = .stable) := by
  rcases h with ⟨hbase, hn⟩ | ⟨hseen, g, hg, hkept⟩
  · have hflag (rate : ℕ) : (trackValid t change rate).2.1 = change :=
      (trackValid_learns change rate (hn ▸ by decide)).2.2.2
    cases seen with
    | false => exact ⟨Or.inr ⟨rfl, _, Or.inl rfl, GapKept.first hbase hn hb0 change⟩, Or.inl (hflag b0)⟩
    | true =>
      refine ⟨Or.inr ⟨rfl, 0, Or.inr rfl, ?_⟩, Or.inl (hflag bpm)⟩
      have hfirst : GapKept bpm ((bpm : ℤ) - bpm) (trackValid t change bpm).1 :=
        GapKept.first hbase hn hbpm change
      rwa [sub_self] at hfirst
  · rw [hseen, if_pos rfl]
    by_cases hlearn : t.baseN < hrBaselineMinWin
    · exact ⟨Or.inr ⟨rfl, g, hg, hkept.learn hlearn hbpm change⟩,
        Or.inl (trackValid_learns change bpm hlearn).2.2.2⟩
    · have hn : t.baseN = hrBaselineMinWin := le_antisymm hkept.learned (not_lt.mp hlearn)
      have hgap := hkept.gap
      rw [hn] at hgap
      change (t.baseBpm : ℤ) = bpm - learnGap^[7] g at hgap
      have hbound : |g| ≤ 25 := by
        rw [bpmDiff_eq] at hdelta
        rw [abs_le]
        omega
      have hslack : |(bpm : ℤ) - t.baseBpm| ≤ hrSlack t.baseBpm := by
        rcases hg with rfl | rfl
        · exact (settles_iff hdelta hgap).mp hsettles
        · have hzero : learnGap^[7] 0 = 0 := Function.iterate_fixed learnGap_zero 7
          have hge := hrSlack_ge t.baseBpm
          rw [hzero, sub_zero] at hgap
          rw [hgap, sub_self, abs_zero]
          omega
      obtain ⟨hkept', hstable⟩ := hkept.quiet hn hbound hslack change
      exact ⟨Or.inr ⟨rfl, g, hg, hkept'⟩, Or.inr hstable⟩

theorem rateKept_run (hsettles : Settles b0 bpm) (b : Build) {s : State}
    (hbase : s.hrTrack.baseBpm = 0) (hn : s.hrTrack.baseN = 0) {rs : List Reading} (hrs : Steady b0 bpm rs) :
    RateKept b0 bpm (rs.any Reading.valid) (rateRun b s rs).hrTrack := by
  induction rs using List.reverseRecOn with
  | nil => exact Or.inl ⟨hbase, hn⟩
  | append_singleton rs r ih =>
    have hprefix : Steady b0 bpm rs := by
      intro before r' after hrs' hr'
      exact hrs before r' (after ++ [r]) (by rw [hrs', List.append_assoc, List.cons_append]) hr'
    have hkept := ih hprefix
    have hlast : r.valid = true → r.bpm = if rs.any Reading.valid then bpm else b0 := hrs rs r [] rfl
    rw [rateRun, List.foldl_append, List.foldl_cons, List.foldl_nil, List.any_append, List.any_cons, List.any_nil,
      Bool.or_false]
    change RateKept _ _ _ (hrStep b (rateRun b s rs) r).hrTrack
    cases hr : r.valid with
    | false =>
      rw [(hrStep_invalid b _ hr).1, Bool.or_false]
      exact hkept.invalid _
    | true =>
      rw [(hrStep_valid b _ hr).1, Bool.or_true, hlast hr]
      exact (hkept.valid hb0 hbpm hdelta hsettles _).1

theorem noFlag_of_settles (hsettles : Settles b0 bpm) (b : Build) {s : State}
    (hbase : s.hrTrack.baseBpm = 0) (hn : s.hrTrack.baseN = 0) {rs : List Reading} (hrs : Steady b0 bpm rs) :
    NoFlag b s rs := by
  intro before r after hsplit
  have hprefix : Steady b0 bpm before := by
    intro first r' rest hbefore hr'
    exact hrs first r' (rest ++ r :: after) (by rw [hsplit, hbefore, List.append_assoc, List.cons_append]) hr'
  have hkept := rateKept_run hb0 hbpm hdelta hsettles b hbase hn hprefix
  generalize rateRun b s before = now at hkept ⊢
  have hquiet : (hrStep b { now with status := { now.status with hrChange := .unknown } } r).status.hrChange ≠ .rising ∧
      (hrStep b { now with status := { now.status with hrChange := .unknown } } r).status.hrChange ≠ .falling := by
    cases hr : r.valid with
    | false =>
      rw [(hrStep_invalid b _ hr).2]
      rcases trackInvalid_cases (t := now.hrTrack) .unknown with ⟨-, -, hc⟩ | ⟨-, -, hc⟩
      · rw [hc]
        decide
      · rw [hc]
        decide
    | true =>
      rw [(hrStep_valid b _ hr).2, hrs before r after hsplit hr]
      rcases (hkept.valid hb0 hbpm hdelta hsettles .unknown).2 with hc | hc
      · rw [hc]
        decide
      · rw [hc]
        decide
  exact ⟨fun hraise => hquiet.1 (hraise .unknown), fun hraise => hquiet.2 (hraise .unknown)⟩

end Steps

section Creep

def reading (bpm : ℕ) (h : 40 ≤ bpm ∧ bpm ≤ 180) : Reading := ⟨true, bpm, fun _ => h⟩

def steadyRun (b0 bpm : ℕ) (hb0 : 40 ≤ b0 ∧ b0 ≤ 180) (hbpm : 40 ≤ bpm ∧ bpm ≤ 180) (n : ℕ) : List Reading :=
  reading b0 hb0 :: List.replicate n (reading bpm hbpm)

variable {b0 bpm : ℕ} (hb0 : 40 ≤ b0 ∧ b0 ≤ 180) (hbpm : 40 ≤ bpm ∧ bpm ≤ 180) (b : Build) {s : State}

theorem steady_steadyRun (n : ℕ) : Steady b0 bpm (steadyRun b0 bpm hb0 hbpm n) := by
  intro before r after hsplit hr
  cases before with
  | nil =>
    rw [List.nil_append, steadyRun, List.cons.injEq] at hsplit
    rw [← hsplit.1]
    rfl
  | cons first before =>
    rw [List.cons_append, steadyRun, List.cons.injEq] at hsplit
    obtain ⟨hfirst, hrest⟩ := hsplit
    have hmem : r ∈ List.replicate n (reading bpm hbpm) := by
      rw [hrest]
      exact List.mem_append_right _ List.mem_cons_self
    rw [List.eq_of_mem_replicate hmem, ← hfirst]
    rfl

theorem rateRun_succ (n : ℕ) :
    rateRun b s (steadyRun b0 bpm hb0 hbpm (n + 1)) =
      hrStep b (rateRun b s (steadyRun b0 bpm hb0 hbpm n)) (reading bpm hbpm) := by
  have hsnoc : steadyRun b0 bpm hb0 hbpm (n + 1) = steadyRun b0 bpm hb0 hbpm n ++ [reading bpm hbpm] := by
    rw [steadyRun, List.replicate_succ', steadyRun, List.cons_append]
  rw [hsnoc, rateRun, List.foldl_append, List.foldl_cons, List.foldl_nil]
  rfl

variable (hbase : s.hrTrack.baseBpm = 0) (hn : s.hrTrack.baseN = 0)

include hbase hn

theorem learned_after {n : ℕ} (hle : n ≤ 7) :
    GapKept bpm ((bpm : ℤ) - b0) (rateRun b s (steadyRun b0 bpm hb0 hbpm n)).hrTrack ∧
      (rateRun b s (steadyRun b0 bpm hb0 hbpm n)).hrTrack.baseN = n + 1 := by
  induction n with
  | zero =>
    have hfirst : (rateRun b s (steadyRun b0 bpm hb0 hbpm 0)).hrTrack = (trackValid s.hrTrack s.status.hrChange b0).1 :=
      (hrStep_valid (r := reading b0 hb0) b s rfl).1
    rw [hfirst]
    refine ⟨GapKept.first hbase hn hb0 _, ?_⟩
    rw [trackValid_first _ hbase hn hb0.2]
  | succ n ih =>
    obtain ⟨hkept, hcount⟩ := ih (by omega)
    have hlearn : (rateRun b s (steadyRun b0 bpm hb0 hbpm n)).hrTrack.baseN < hrBaselineMinWin := by
      rw [hcount]
      exact Nat.lt_of_succ_le (show n + 2 ≤ 8 by omega)
    rw [rateRun_succ, (hrStep_valid (r := reading bpm hbpm) b _ rfl).1]
    refine ⟨hkept.learn hlearn hbpm _, ?_⟩
    rw [(trackValid_learns _ _ hlearn).1, hcount]

omit hbase hn in
theorem NoFlag.init {rs : List Reading} {r : Reading} (h : NoFlag b s (rs ++ [r])) : NoFlag b s rs := by
  intro before r' after hsplit
  exact h before r' (after ++ [r]) (by rw [hsplit, List.append_assoc, List.cons_append])

omit hbase hn in
theorem tracked_of_not_raises {r : Reading} (hr : r.valid = true) (hn : hrBaselineMinWin ≤ s.hrTrack.baseN)
    (hbase : s.hrTrack.baseBpm ≠ 0) (hrise : ¬ Raises b s r .rising) (hfall : ¬ Raises b s r .falling) :
    let d := deviation s.hrTrack r.bpm
    let up := cusumStep s.hrTrack.cusumUp d.rise
    let dn := cusumStep s.hrTrack.cusumDn d.fall
    up < hrCusumLimit ∧ dn < hrCusumLimit ∧ (hrStep b s r).hrTrack =
      ⟨u16OfInt (s.hrTrack.baseBpm + (d.dev * hrBaselineAlphaQ8).tdiv 256), s.hrTrack.baseN, 0, up, dn⟩ := by
  intro d up dn
  have hup : up < hrCusumLimit := by
    by_contra hge
    apply hrise
    intro change
    rw [(hrStep_valid b _ hr).2]
    rcases trackValid_tracks change r.bpm hn hbase with ⟨-, -, hflag⟩ | ⟨hlt, -⟩ | ⟨hlt, -⟩
    · exact hflag
    · exact absurd hlt hge
    · exact absurd hlt hge
  have hdn : dn < hrCusumLimit := by
    by_contra hge
    apply hfall
    intro change
    rw [(hrStep_valid b _ hr).2]
    rcases trackValid_tracks change r.bpm hn hbase with ⟨hle, -⟩ | ⟨-, -, -, hflag⟩ | ⟨-, hlt, -⟩
    · exact absurd hup (not_lt.mpr hle)
    · exact hflag
    · exact absurd hlt hge
  refine ⟨hup, hdn, ?_⟩
  rw [(hrStep_valid b s hr).1]
  rcases trackValid_tracks s.status.hrChange r.bpm hn hbase with ⟨hle, -⟩ | ⟨-, hle, -⟩ | ⟨-, -, htrack, -⟩
  · exact absurd hup (not_lt.mpr hle)
  · exact absurd hdn (not_lt.mpr hle)
  · exact htrack

omit hbase hn in
theorem le_cusumStep {acc d : ℤ} (h : acc + d ≤ 0xffff) : acc + d ≤ cusumStep acc d ∧ 0 ≤ cusumStep acc d := by
  rw [cusumStep_eq h, Cusum.step]
  omega

theorem gathers_without_flag (hdelta : bpmDiff bpm b0 ≤ 25) {k : ℕ}
    (hquiet : NoFlag b s (steadyRun b0 bpm hb0 hbpm (7 + k))) :
    let t := (rateRun b s (steadyRun b0 bpm hb0 hbpm (7 + k))).hrTrack
    let t₀ := (rateRun b s (steadyRun b0 bpm hb0 hbpm 7)).hrTrack
    t.baseN = 8 ∧ t.baseBpm = t₀.baseBpm ∧
      (k * (deviation t₀ bpm).rise ≤ t.cusumUp ∧ 0 ≤ t.cusumUp ∧ t.cusumUp < hrCusumLimit) ∧
      (k * (deviation t₀ bpm).fall ≤ t.cusumDn ∧ 0 ≤ t.cusumDn ∧ t.cusumDn < hrCusumLimit) := by
  obtain ⟨hlearned, hcount⟩ := learned_after hb0 hbpm b hbase hn (n := 7) le_rfl
  induction k with
  | zero =>
    intro t t₀
    refine ⟨hcount, rfl, ⟨?_, ?_, ?_⟩, ⟨?_, ?_, ?_⟩⟩
    · rw [Nat.cast_zero, zero_mul]
      exact hlearned.up.ge
    · exact hlearned.up.ge
    · exact hlearned.up.trans_lt hrCusumLimit_pos
    · rw [Nat.cast_zero, zero_mul]
      exact hlearned.dn.ge
    · exact hlearned.dn.ge
    · exact hlearned.dn.trans_lt hrCusumLimit_pos
  | succ k ih =>
    have hsnoc : steadyRun b0 bpm hb0 hbpm (7 + (k + 1)) = steadyRun b0 bpm hb0 hbpm (7 + k) ++ [reading bpm hbpm] := by
      rw [steadyRun, ← Nat.add_assoc, List.replicate_succ', steadyRun, List.cons_append]
    rw [hsnoc] at hquiet
    have hlast := hquiet _ (reading bpm hbpm) [] rfl
    obtain ⟨hn8, hsame, ⟨hup, hup0, huplt⟩, ⟨hdn, hdn0, hdnlt⟩⟩ := ih hquiet.init
    intro t t₀
    have ht : t = (hrStep b (rateRun b s (steadyRun b0 bpm hb0 hbpm (7 + k))) (reading bpm hbpm)).hrTrack :=
      congrArg State.hrTrack (rateRun_succ hb0 hbpm b (7 + k))
    change (rateRun b s (steadyRun b0 bpm hb0 hbpm (7 + k))).hrTrack.baseBpm = t₀.baseBpm at hsame
    change k * (deviation t₀ bpm).rise ≤ _ at hup
    change k * (deviation t₀ bpm).fall ≤ _ at hdn
    have hrange : 40 ≤ t₀.baseBpm ∧ t₀.baseBpm ≤ 180 := hlearned.range
    have hgap : (t₀.baseBpm : ℤ) = bpm - learnGap^[7] ((bpm : ℤ) - b0) := by
      have hkept := hlearned.gap
      rwa [hcount] at hkept
    rw [bpmDiff_eq] at hdelta
    obtain ⟨h4, h5, h4', h5', h3⟩ := learned_gap (g := (bpm : ℤ) - b0) (by omega) (by omega)
    generalize rateRun b s (steadyRun b0 bpm hb0 hbpm (7 + k)) = now at *
    have hdeviation : deviation now.hrTrack bpm = deviation t₀ bpm := by
      rw [deviation, hsame]
      rfl
    have hslack := hrSlack_ge t₀.baseBpm
    have hrise : (deviation t₀ bpm).rise = (bpm : ℤ) - t₀.baseBpm - hrSlack t₀.baseBpm := rfl
    have hfall : (deviation t₀ bpm).fall = -((bpm : ℤ) - t₀.baseBpm) - hrSlack t₀.baseBpm := rfl
    have hlimit : hrCusumLimit = 24 := rfl
    obtain ⟨huplt', hdnlt', htrack⟩ := tracked_of_not_raises b (r := reading bpm hbpm) rfl (show 8 ≤ _ by omega)
      (by omega) hlast.1 hlast.2
    change cusumStep now.hrTrack.cusumUp (deviation now.hrTrack bpm).rise < _ at huplt'
    change cusumStep now.hrTrack.cusumDn (deviation now.hrTrack bpm).fall < _ at hdnlt'
    rw [hdeviation] at huplt' hdnlt'
    have hstepUp := le_cusumStep (show now.hrTrack.cusumUp + (deviation t₀ bpm).rise ≤ 0xffff by omega)
    have hstepDn := le_cusumStep (show now.hrTrack.cusumDn + (deviation t₀ bpm).fall ≤ 0xffff by omega)
    have hstop : u16OfInt (now.hrTrack.baseBpm + ((deviation t₀ bpm).dev * hrBaselineAlphaQ8).tdiv 256) = t₀.baseBpm := by
      have hdev : (deviation t₀ bpm).dev = (bpm : ℤ) - t₀.baseBpm := rfl
      rw [hdev, follow_stops (by omega) (by omega), add_zero, hsame, u16OfInt]
      omega
    change _ = HrTrack.mk (u16OfInt (now.hrTrack.baseBpm + ((deviation now.hrTrack bpm).dev * _).tdiv 256)) _ 0
      (cusumStep _ (deviation now.hrTrack bpm).rise) (cusumStep _ (deviation now.hrTrack bpm).fall) at htrack
    rw [hdeviation, hstop] at htrack
    rw [ht, htrack]
    refine ⟨hn8, rfl, ⟨?_, hstepUp.2, huplt'⟩, ⟨?_, hstepDn.2, hdnlt'⟩⟩
    · push_cast
      linarith [hstepUp.1]
    · push_cast
      linarith [hstepDn.1]

theorem settles_of_noFlag (hdelta : bpmDiff bpm b0 ≤ 25)
    (hquiet : NoFlag b s (steadyRun b0 bpm hb0 hbpm (7 + 24))) : Settles b0 bpm := by
  obtain ⟨hlearned, hcount⟩ := learned_after hb0 hbpm b hbase hn (n := 7) le_rfl
  obtain ⟨-, -, ⟨hup, -, huplt⟩, ⟨hdn, -, hdnlt⟩⟩ := gathers_without_flag hb0 hbpm b hbase hn hdelta hquiet
  have hgap := hlearned.gap
  rw [hcount] at hgap
  apply (settles_iff hdelta hgap).mpr
  generalize (rateRun b s (steadyRun b0 bpm hb0 hbpm 7)).hrTrack = t₀ at *
  generalize (rateRun b s (steadyRun b0 bpm hb0 hbpm (7 + 24))).hrTrack = t at *
  have hrise : (deviation t₀ bpm).rise = (bpm : ℤ) - t₀.baseBpm - hrSlack t₀.baseBpm := rfl
  have hfall : (deviation t₀ bpm).fall = -((bpm : ℤ) - t₀.baseBpm) - hrSlack t₀.baseBpm := rfl
  have hlimit : hrCusumLimit = 24 := rfl
  rw [hrise] at hup
  rw [hfall] at hdn
  rw [abs_le]
  push_cast at hup hdn
  omega

end Creep

theorem steady_rate_unflagged_iff (b : Build) (s : State) (hbase : s.hrTrack.baseBpm = 0) (hn : s.hrTrack.baseN = 0)
    {b0 bpm : ℕ} (hb0 : 40 ≤ b0 ∧ b0 ≤ 180) (hbpm : 40 ≤ bpm ∧ bpm ≤ 180) (hdelta : bpmDiff bpm b0 ≤ 25) :
    (∀ rs, Steady b0 bpm rs → NoFlag b s rs) ↔ Settles b0 bpm := by
  constructor
  · intro hquiet
    exact settles_of_noFlag hb0 hbpm b hbase hn hdelta (hquiet _ (steady_steadyRun hb0 hbpm _))
  · intro hsettles rs hrs
    exact noFlag_of_settles hb0 hbpm hdelta hsettles b hbase hn hrs

theorem steady_rate_unflagged_seventy :
    Settles 60 70 ∧ ∀ rs, Steady 60 70 rs → NoFlag defaultBuild boot rs := by
  have hsettles : Settles 60 70 := Or.inl (by decide)
  exact ⟨hsettles,
    (steady_rate_unflagged_iff defaultBuild boot rfl rfl (by decide) (by decide) (by decide)).mpr hsettles⟩

/-- A first window at 40 and then a constant 65: the baseline is learned as 60, and the rest is
taken for a rise. -/
theorem steady_rate_flagged :
    Steady 40 65 (steadyRun 40 65 (by decide) (by decide) 31) ∧
      ¬ NoFlag defaultBuild boot (steadyRun 40 65 (by decide) (by decide) 31) := by
  refine ⟨steady_steadyRun _ _ 31, fun hquiet => ?_⟩
  have hsettles := settles_of_noFlag (by decide) (by decide) defaultBuild (s := boot) rfl rfl (by decide) hquiet
  unfold Settles at hsettles
  exact absurd hsettles (by decide)

end SmartHelmet.Vitals
