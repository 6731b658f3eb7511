import SmartHelmet.History
import SmartHelmet.VitalsRuns

namespace SmartHelmet.Vitals

open Config MachineArith

inductive Beat where
  | sample (t : UInt32)
  | drop
  | window

def noteBeat (r : Run) (c : Call) (beats : List Beat) : List Beat :=
  match c with
  | .init => []
  | .sens _ t => .sample t :: beats
  | .dropped => .drop :: beats
  | _ => if processes r c then .window :: beats else beats

def beatsSinceInit (b : Build) (calls : List Call) : List Beat :=
  History.after (Run.step b) noteBeat Run.boot [] calls

def pushes : List Beat → ℕ
  | [] => 0
  | .sample _ :: beats => pushes beats + 1
  | .drop :: beats => pushes beats
  | .window :: _ => 0

def gapTo (t : UInt32) : Option UInt32 → List ℕ
  | some t' => [(t - t').toNat]
  | none => []

/-- The last sample, unless a drop was reported after it. -/
def previous : List Beat → Option UInt32
  | [] => none
  | .sample t :: _ => some t
  | .drop :: _ => none
  | .window :: beats => previous beats

/-- The gaps between consecutive stamped samples without a drop between them, for the samples of
the open window. -/
def gaps : List Beat → List ℕ
  | [] => []
  | .sample t :: beats => (if t = 0 then [] else gapTo t ((previous beats).filter (· ≠ 0))) ++ gaps beats
  | .drop :: beats => gaps beats
  | .window :: _ => []

/-- The sample that the code measures from: one without a stamp is passed over. -/
def lastStamp : List Beat → Option UInt32
  | [] => none
  | .sample t :: beats => if t = 0 then lastStamp beats else some t
  | .drop :: _ => none
  | .window :: beats => lastStamp beats

def stampGaps : List Beat → List ℕ
  | [] => []
  | .sample t :: beats => (if t = 0 then [] else gapTo t (lastStamp beats)) ++ stampGaps beats
  | .drop :: beats => stampGaps beats
  | .window :: _ => []

def inGapRange (gap : ℕ) : Bool := decide (10000 ≤ gap ∧ gap ≤ 160000)

def clockDrift (gap : ℕ) : ℕ := ((gap : ℤ) - 40000).natAbs

def measured (beats : List Beat) : List ℕ := (stampGaps beats).filter inGapRange

structure TimeKept (ts : TimeBase) (beats : List Beat) : Prop where
  prev : lastStamp beats = if ts.prevValid then some (UInt32.ofNat ts.prevUs) else none
  n : ts.n = (measured beats).length
  sum : ts.sumUs = (measured beats).sum
  jit : ts.jitSumUs = ((measured beats).map clockDrift).sum

section Gaps

theorem length_stampGaps (beats : List Beat) : (stampGaps beats).length ≤ pushes beats := by
  induction beats with
  | nil => exact le_rfl
  | cons beat beats ih =>
    cases beat with
    | sample t =>
      have hone : (if t = 0 then [] else gapTo t (lastStamp beats)).length ≤ 1 := by
        split_ifs
        · exact Nat.zero_le 1
        · cases lastStamp beats <;> simp [gapTo]
      rw [stampGaps, pushes, List.length_append]
      omega
    | drop => exact ih
    | window => exact le_rfl

theorem length_measured (beats : List Beat) : (measured beats).length ≤ pushes beats :=
  (List.length_filter_le _ _).trans (length_stampGaps beats)

theorem inGapRange_of_mem {beats : List Beat} {gap : ℕ} (h : gap ∈ measured beats) : 10000 ≤ gap ∧ gap ≤ 160000 :=
  of_decide_eq_true (List.mem_filter.mp h).2

theorem sum_measured (beats : List Beat) : 10000 * (measured beats).length ≤ (measured beats).sum ∧
    (measured beats).sum ≤ 160000 * (measured beats).length := by
  constructor
  · have hle := List.card_nsmul_le_sum (measured beats) 10000 (fun gap hgap => (inGapRange_of_mem hgap).1)
    rwa [smul_eq_mul, mul_comm] at hle
  · have hle := List.sum_le_card_nsmul (measured beats) 160000 (fun gap hgap => (inGapRange_of_mem hgap).2)
    rwa [smul_eq_mul, mul_comm] at hle

theorem sum_drift (beats : List Beat) : ((measured beats).map clockDrift).sum ≤ 120000 * (measured beats).length := by
  have hle := List.sum_le_card_nsmul ((measured beats).map clockDrift) 120000 (fun d hd => by
    obtain ⟨gap, hgap, rfl⟩ := List.mem_map.mp hd
    have := inGapRange_of_mem hgap
    unfold clockDrift
    omega)
  rwa [List.length_map, smul_eq_mul, mul_comm] at hle

theorem stampGaps_eq_gaps {beats : List Beat} (h : ∀ t, .sample t ∈ beats → t ≠ 0) : stampGaps beats = gaps beats := by
  have hprev {beats : List Beat} (h : ∀ t, .sample t ∈ beats → t ≠ 0) :
      lastStamp beats = (previous beats).filter (· ≠ 0) := by
    induction beats with
    | nil => rfl
    | cons beat beats ih =>
      have hrest := fun t ht => h t (List.mem_cons_of_mem beat ht)
      cases beat with
      | sample t =>
        have ht : t ≠ 0 := h t List.mem_cons_self
        rw [lastStamp, if_neg ht, previous, Option.filter_some, if_pos (decide_eq_true ht)]
      | drop => rfl
      | window => exact ih hrest
  induction beats with
  | nil => rfl
  | cons beat beats ih =>
    have hrest := fun t ht => h t (List.mem_cons_of_mem beat ht)
    cases beat with
    | sample t => rw [stampGaps, gaps, ih hrest, hprev hrest]
    | drop => exact ih hrest
    | window => rfl

end Gaps

section Steps

variable {ts : TimeBase} {beats : List Beat}

theorem TimeKept.skip (h : TimeKept ts beats) {t : UInt32} {ts' : TimeBase}
    (hprev : lastStamp (.sample t :: beats) = if ts'.prevValid then some (UInt32.ofNat ts'.prevUs) else none)
    (hgap : measured (.sample t :: beats) = measured beats) (hn : ts'.n = ts.n) (hsum : ts'.sumUs = ts.sumUs)
    (hjit : ts'.jitSumUs = ts.jitSumUs) : TimeKept ts' (.sample t :: beats) := by
  refine ⟨hprev, ?_, ?_, ?_⟩
  · rw [hgap, hn, h.n]
  · rw [hgap, hsum, h.sum]
  · rw [hgap, hjit, h.jit]

theorem TimeKept.sample (h : TimeKept ts beats) {t : UInt32} (hpushes : pushes beats < motionWin) :
    TimeKept (noteTimestamp ts t) (.sample t :: beats) := by
  have hwin : motionWin = 25 := rfl
  have hlen := length_measured beats
  have hsum := (sum_measured beats).2
  have hjit := sum_drift beats
  unfold noteTimestamp
  by_cases ht : t = 0
  · rw [if_pos ht]
    refine h.skip (by rw [lastStamp, if_pos ht]; exact h.prev) ?_ rfl rfl rfl
    rw [measured, stampGaps, if_pos ht]
    rfl
  · have hnewest : lastStamp (.sample t :: beats) = some (UInt32.ofNat t.toNat) := by
      rw [lastStamp, if_neg ht, UInt32.ofNat_toNat]
    have hgaps : measured (.sample t :: beats) = (gapTo t (lastStamp beats)).filter inGapRange ++ measured beats := by
      rw [measured, stampGaps, if_neg ht, List.filter_append]
      rfl
    rw [if_neg ht]
    simp only [fsHz, Nat.reduceDiv, Nat.reduceMul, ge_iff_le]
    generalize hdt : (t - UInt32.ofNat ts.prevUs).toNat = dt
    by_cases hcond : ts.prevValid = true ∧ 10000 ≤ dt ∧ dt ≤ 160000
    · obtain ⟨hvalid, hlo, hhi⟩ := hcond
      have hlast : lastStamp beats = some (UInt32.ofNat ts.prevUs) := by rw [h.prev, if_pos hvalid]
      have hin : inGapRange dt = true := decide_eq_true ⟨hlo, hhi⟩
      have hmeasured : measured (.sample t :: beats) = dt :: measured beats := by
        rw [hgaps, hlast, gapTo, hdt, List.filter_cons, if_pos hin]
        rfl
      have hdrift : clockDrift dt = if 40000 < dt then dt - 40000 else 40000 - dt := by
        unfold clockDrift
        split_ifs <;> omega
      have hsmall : clockDrift dt ≤ 120000 := by
        rw [hdrift]
        split_ifs <;> omega
      rw [if_pos ⟨hvalid, hlo, hhi⟩]
      refine ⟨by rw [hnewest]; rfl, ?_, ?_, ?_⟩
      · rw [hmeasured, List.length_cons, ← h.n]
        exact if_pos (by rw [h.n]; omega)
      · have hlt : ts.sumUs + dt < 4294967296 := by
          rw [h.sum]
          omega
        rw [hmeasured, List.sum_cons, ← h.sum]
        exact (Nat.mod_eq_of_lt hlt).trans (Nat.add_comm _ _)
      · have hlt : ts.jitSumUs + clockDrift dt < 4294967296 := by
          rw [h.jit]
          omega
        rw [hmeasured, List.map_cons, List.sum_cons, ← h.jit, hdrift]
        rw [hdrift] at hlt
        exact (Nat.mod_eq_of_lt hlt).trans (Nat.add_comm _ _)
    · rw [if_neg hcond]
      refine h.skip (by rw [hnewest]; rfl) ?_ rfl rfl rfl
      rw [hgaps, h.prev]
      by_cases hvalid : ts.prevValid = true
      · have hout : ¬inGapRange dt = true := fun hin => hcond ⟨hvalid, of_decide_eq_true hin⟩
        rw [if_pos hvalid, gapTo, hdt, List.filter_cons, if_neg hout]
        rfl
      · rw [if_neg hvalid]
        rfl

theorem TimeKept.drop (h : TimeKept ts beats) : TimeKept { ts with prevValid := false } (.drop :: beats) :=
  ⟨rfl, h.n, h.sum, h.jit⟩

theorem TimeKept.window (h : TimeKept ts beats) {ts' : TimeBase} (hvalid : ts'.prevValid = ts.prevValid)
    (hprev : ts'.prevUs = ts.prevUs) (hcleared : ts'.n = 0 ∧ ts'.sumUs = 0 ∧ ts'.jitSumUs = 0) :
    TimeKept ts' (.window :: beats) := by
  refine ⟨?_, hcleared.1, hcleared.2.1, hcleared.2.2⟩
  rw [lastStamp, hvalid, hprev]
  exact h.prev

theorem shUpdateTimebase_ts (s : State) : (shUpdateTimebase s).ts.n = 0 ∧ (shUpdateTimebase s).ts.sumUs = 0 ∧
    (shUpdateTimebase s).ts.jitSumUs = 0 := by
  unfold shUpdateTimebase
  dsimp only
  split_ifs <;> exact ⟨rfl, rfl, rfl⟩

theorem timebase_vitalsProcess (b : Build) (s : State) :
    (vitalsProcess b s).ts = (shUpdateTimebase s).ts ∧ (vitalsProcess b s).fsQ8 = (shUpdateTimebase s).fsQ8 := by
  have hmotion (t : State) : (noteMotionWindow t).ts = t.ts ∧ (noteMotionWindow t).fsQ8 = t.fsQ8 := by
    unfold noteMotionWindow
    split_ifs <;> exact ⟨rfl, rfl⟩
  have haside := aside_vitalsProcess b s
  have hnote := hmotion (shUpdateResp (shUpdateTimebase s))
  exact ⟨(congrArg Aside.ts haside).trans hnote.1, (congrArg Aside.fsQ8 haside).trans hnote.2⟩

theorem timeKept_step (b : Build) {r : Run} (h : TimeKept r.state.ts beats) (c : Call)
    (hpaced : pushes (noteBeat r c beats) ≤ motionWin) : TimeKept (r.step b c).state.ts (noteBeat r c beats) := by
  have hwindow (s : State) (hs : s.ts = r.state.ts) : TimeKept (r.process b s).state.ts (.window :: beats) := by
    have hsig := signals_vitalsProcess b s
    have hvalid : (vitalsProcess b s).ts.prevValid = s.ts.prevValid := congrArg Signals.tsPrevValid hsig
    have hprev : (vitalsProcess b s).ts.prevUs = s.ts.prevUs := congrArg Signals.tsPrevUs hsig
    rw [hs] at hvalid hprev
    refine h.window hvalid hprev ?_
    have hts := (timebase_vitalsProcess b s).1
    rw [Run.process, hts]
    exact shUpdateTimebase_ts s
  cases c with
  | init => exact ⟨rfl, rfl, rfl, rfl⟩
  | sens mv t =>
    have hts : (vitalsPushSensInMvAt b r.state mv t).ts = noteTimestamp r.state.ts t := by
      unfold vitalsPushSensInMvAt noteSensEdge
      dsimp only
      split_ifs <;> rfl
    simp only [Run.step, hts]
    exact h.sample (Nat.lt_of_succ_le hpaced)
  | dropped => exact h.drop
  | onSensSample =>
    unfold Run.step noteBeat
    by_cases hfull : incSat 0xff r.state.sensSinceProcess ≥ motionWin
    · rw [if_pos hfull, if_pos (show processes r .onSensSample = true from decide_eq_true hfull)]
      exact hwindow _ rfl
    · rw [if_neg hfull, if_neg (show ¬processes r .onSensSample = true from fun h => hfull (of_decide_eq_true h))]
      exact h
  | process => exact hwindow _ rfl
  | _ => exact h

end Steps

section Runs

/-- No window has more pushes than `SmartHelmet_VitalsOnSensSample` waits for. -/
def Paced (b : Build) (calls : List Call) : Prop :=
  ∀ before, before <+: calls → pushes (beatsSinceInit b before) ≤ motionWin

theorem beatsSinceInit_concat (b : Build) (calls : List Call) (c : Call) :
    beatsSinceInit b (calls ++ [c]) = noteBeat (run b calls) c (beatsSinceInit b calls) :=
  History.after_concat (Run.step b) noteBeat Run.boot [] calls c

theorem timeKept_run {b : Build} {calls : List Call} (hpaced : Paced b calls) :
    TimeKept (run b calls).state.ts (beatsSinceInit b calls) := by
  induction calls using List.reverseRecOn with
  | nil => exact ⟨rfl, rfl, rfl, rfl⟩
  | append_singleton calls c ih =>
    have hbefore : Paced b calls := fun before h => hpaced before (h.trans (List.prefix_append _ _))
    have hpushes := hpaced _ List.prefix_rfl
    rw [beatsSinceInit_concat] at hpushes ⊢
    rw [run_concat]
    exact timeKept_step b (ih hbefore) c hpushes

theorem stamped_beats {b : Build} {calls : List Call} (h : ∀ mv t, .sens mv t ∈ calls → t ≠ 0) :
    ∀ t, .sample t ∈ beatsSinceInit b calls → t ≠ 0 := by
  induction calls using List.reverseRecOn with
  | nil => exact fun t ht => absurd ht List.not_mem_nil
  | append_singleton calls c ih =>
    have hrest := ih (fun mv t ht => h mv t (List.mem_append_left _ ht))
    rw [beatsSinceInit_concat]
    intro t ht
    cases c with
    | init => exact absurd ht List.not_mem_nil
    | sens mv t' =>
      rcases List.mem_cons.mp ht with heq | ht
      · rw [Beat.sample.inj heq]
        exact h mv t' (List.mem_append_right _ List.mem_cons_self)
      · exact hrest t ht
    | dropped =>
      rcases List.mem_cons.mp ht with heq | ht
      · exact Beat.noConfusion heq
      · exact hrest t ht
    | _ =>
      unfold noteBeat at ht
      dsimp only at ht
      split at ht
      · rcases List.mem_cons.mp ht with heq | ht
        · exact Beat.noConfusion heq
        · exact hrest t ht
      · exact hrest t ht

end Runs

section Rate

def RateFits (ts : TimeBase) : Prop :=
  ts.sumUs < 2 ^ 32 ∧ ts.jitSumUs < 2 ^ 32 ∧ ts.jitSumUs / ts.n * 100 < 2 ^ 32 ∧
    (ts.sumUs / ts.n - 40000) * 100 < 2 ^ 32 ∧ (40000 - ts.sumUs / ts.n) * 100 < 2 ^ 32

theorem rateFits_of_kept {ts : TimeBase} {beats : List Beat} (h : TimeKept ts beats)
    (hpushes : pushes beats ≤ motionWin) : RateFits ts := by
  have hwin : motionWin = 25 := rfl
  have hlen := length_measured beats
  have hsum := (sum_measured beats).2
  have hjit := sum_drift beats
  rw [← h.n] at hlen hsum hjit
  rw [← h.sum] at hsum
  rw [← h.jit] at hjit
  have hmean : ts.sumUs / ts.n ≤ 160000 := Nat.div_le_of_le_mul (by rw [Nat.mul_comm]; exact hsum)
  have hjitter : ts.jitSumUs / ts.n ≤ 120000 := Nat.div_le_of_le_mul (by rw [Nat.mul_comm]; exact hjit)
  unfold RateFits
  generalize ts.sumUs / ts.n = mean at hmean ⊢
  generalize ts.jitSumUs / ts.n = jitter at hjitter ⊢
  omega

theorem mean_range (beats : List Beat) (h : (measured beats).length ≠ 0) :
    10000 ≤ (measured beats).sum / (measured beats).length ∧ (measured beats).sum / (measured beats).length ≤ 160000 := by
  obtain ⟨hlo, hhi⟩ := sum_measured beats
  have hpos := Nat.pos_of_ne_zero h
  exact ⟨(Nat.le_div_iff_mul_le hpos).mpr hlo, Nat.div_le_of_le_mul (by rw [Nat.mul_comm]; exact hhi)⟩

theorem fsQ8_shUpdateTimebase {s : State} {beats : List Beat} (h : TimeKept s.ts beats) :
    (shUpdateTimebase s).fsQ8 = if 12 ≤ (measured beats).length then
      256000000 / ((measured beats).sum / (measured beats).length) else 6400 := by
  unfold shUpdateTimebase
  rw [h.n, h.sum]
  dsimp only
  by_cases hmany : 12 ≤ (measured beats).length
  · have hmean := mean_range beats (by omega)
    rw [if_pos (show (measured beats).length ≥ motionWin / 2 from hmany), if_pos (by omega), if_pos hmany]
    have hrate : 1000000 * 256 / ((measured beats).sum / (measured beats).length) ≤ 1000000 * 256 / 10000 :=
      Nat.div_le_div_left hmean.1 (by norm_num)
    exact Nat.min_eq_left (by omega)
  · rw [if_neg (show ¬(measured beats).length ≥ motionWin / 2 from hmany), if_neg hmany]
    rfl

theorem fsQ8_range {s : State} {beats : List Beat} (h : TimeKept s.ts beats) :
    1600 ≤ (shUpdateTimebase s).fsQ8 ∧ (shUpdateTimebase s).fsQ8 ≤ 25600 := by
  rw [fsQ8_shUpdateTimebase h]
  split_ifs with hmany
  · have hmean := mean_range beats (by omega)
    have hpos : 0 < (measured beats).sum / (measured beats).length := by omega
    exact ⟨(Nat.le_div_iff_mul_le hpos).mpr (by omega), Nat.div_le_of_le_mul (by omega)⟩
  · norm_num

theorem fsQ8_step {b : Build} {r : Run} {beats : List Beat} (h : TimeKept r.state.ts beats)
    (hfs : 1600 ≤ r.state.fsQ8 ∧ r.state.fsQ8 ≤ 25600) (c : Call) :
    1600 ≤ (r.step b c).state.fsQ8 ∧ (r.step b c).state.fsQ8 ≤ 25600 := by
  have hwindow (s : State) (hs : TimeKept s.ts beats) :
      1600 ≤ (r.process b s).state.fsQ8 ∧ (r.process b s).state.fsQ8 ≤ 25600 := by
    rw [Run.process, (timebase_vitalsProcess b s).2]
    exact fsQ8_range hs
  cases c with
  | init =>
    change 1600 ≤ fsHz * 256 ∧ fsHz * 256 ≤ 25600
    decide
  | sens mv t =>
    have hkeep : (vitalsPushSensInMvAt b r.state mv t).fsQ8 = r.state.fsQ8 := by
      unfold vitalsPushSensInMvAt noteSensEdge
      dsimp only
      split_ifs <;> rfl
    simp only [Run.step, hkeep]
    exact hfs
  | onSensSample =>
    unfold Run.step
    dsimp only
    split_ifs
    · exact hwindow _ h
    · exact hfs
  | process => exact hwindow _ h
  | _ => exact hfs

theorem fsQ8_run {b : Build} {calls : List Call} (hpaced : Paced b calls) :
    1600 ≤ (run b calls).state.fsQ8 ∧ (run b calls).state.fsQ8 ≤ 25600 := by
  induction calls using List.reverseRecOn with
  | nil =>
    change 1600 ≤ fsHz * 256 ∧ fsHz * 256 ≤ 25600
    decide
  | append_singleton calls c ih =>
    have hbefore : Paced b calls := fun before h => hpaced before (h.trans (List.prefix_append _ _))
    rw [run_concat]
    exact fsQ8_step (timeKept_run hbefore) (ih hbefore) c

end Rate

/-- The counters hold exactly the plausible gaps of the open window, and the rate stays in range. -/
theorem interval_accounting (b : Build) (calls : List Call) (hstamped : ∀ mv t, .sens mv t ∈ calls → t ≠ 0)
    (hpaced : Paced b calls) :
    let ts := (run b calls).state.ts
    let kept := (gaps (beatsSinceInit b calls)).filter (fun gap => decide (10000 ≤ gap ∧ gap ≤ 160000))
    (ts.n = kept.length ∧ ts.sumUs = kept.sum ∧ ts.jitSumUs = (kept.map (fun gap : ℕ => ((gap : ℤ) - 40000).natAbs)).sum) ∧
      RateFits ts ∧ 1600 ≤ (run b calls).state.fsQ8 ∧ (run b calls).state.fsQ8 ≤ 25600 := by
  intro ts kept
  have h := timeKept_run hpaced
  have hkept : measured (beatsSinceInit b calls) = kept := by
    rw [measured, stampGaps_eq_gaps (stamped_beats hstamped)]
    rfl
  refine ⟨?_, rateFits_of_kept h (hpaced _ List.prefix_rfl), fsQ8_run hpaced⟩
  rw [← hkept]
  exact ⟨h.n, h.sum, h.jit⟩

section Short

theorem pushes_le_length (b : Build) (calls : List Call) : pushes (beatsSinceInit b calls) ≤ calls.length := by
  induction calls using List.reverseRecOn with
  | nil => exact le_rfl
  | append_singleton calls c ih =>
    rw [beatsSinceInit_concat, List.length_append, List.length_singleton]
    cases c with
    | init => exact Nat.zero_le _
    | sens mv t => exact Nat.succ_le_succ ih
    | dropped => exact ih.trans (Nat.le_succ _)
    | _ =>
      unfold noteBeat
      dsimp only
      split
      · exact Nat.zero_le _
      · exact ih.trans (Nat.le_succ _)

theorem paced_of_length {b : Build} {calls : List Call} (h : calls.length ≤ motionWin) : Paced b calls :=
  fun before hbefore => (pushes_le_length b before).trans (hbefore.length_le.trans h)

end Short

theorem interval_accounting_across_wrap :
    (run defaultBuild [.sens 1650 4294950000, .sens 1650 22704, .sens 1650 900000]).state.ts.n = 1 ∧
      (run defaultBuild [.sens 1650 4294950000, .sens 1650 22704, .sens 1650 900000]).state.ts.sumUs = 40000 := by
  obtain ⟨⟨hn, hsum, -⟩, -⟩ := interval_accounting defaultBuild
    [.sens 1650 4294950000, .sens 1650 22704, .sens 1650 900000] (by
      intro mv t ht
      simp only [List.mem_cons, Call.sens.injEq, List.not_mem_nil, or_false] at ht
      rcases ht with ⟨-, rfl⟩ | ⟨-, rfl⟩ | ⟨-, rfl⟩ <;> decide)
    (paced_of_length (by decide))
  exact ⟨hn.trans (by decide), hsum.trans (by decide)⟩

section Gate

def accepts (kept : List ℕ) : Prop :=
  let mean := kept.sum / kept.length
  let jitter := (kept.map clockDrift).sum / kept.length
  (if mean > 40000 then (mean - 40000) * 100 / 40000 else (40000 - mean) * 100 / 40000) ≤ vitalsFsTolPct ∧
    min (jitter * 100 / mean) 255 ≤ vitalsJitterPct

def WithinTolerance (all : List ℕ) : Prop :=
  |(all.sum : ℤ) - 40000 * all.length| * 100 < (vitalsFsTolPct + 1) * (40000 * all.length)

def rateOf (all : List ℕ) : ℕ := 256000000 / (all.sum / all.length)

def MeasuresRate (s : State) (all : List ℕ) : Prop :=
  (shUpdateTimebase s).ts.ok = true → WithinTolerance all ∧ (shUpdateTimebase s).fsQ8 = rateOf all

/-- No gap was passed over, or it made no difference: too few are left and all of them average
40 ms, or the ones left are refused, or they show the rate of all of them. -/
def RateSeen (all kept : List ℕ) : Prop :=
  kept = all ∨
    if kept.length < 12 then 39994 * all.length ≤ all.sum ∧ all.sum < 40001 * all.length
    else ¬accepts kept ∨ WithinTolerance all ∧ rateOf kept = rateOf all

theorem ok_shUpdateTimebase {s : State} {beats : List Beat} (h : TimeKept s.ts beats)
    (hpushes : pushes beats ≤ motionWin) :
    (shUpdateTimebase s).ts.ok = true ↔ (12 ≤ (measured beats).length → accepts (measured beats)) := by
  obtain ⟨-, -, hjit, hover, hunder⟩ := rateFits_of_kept h hpushes
  have hexact {n : ℕ} (hn : n < 2 ^ 32) : u32 n = n := Nat.mod_eq_of_lt hn
  unfold shUpdateTimebase
  dsimp only
  by_cases hmany : 12 ≤ (measured beats).length
  · have hmean := mean_range beats (by omega)
    rw [← h.n, ← h.sum] at hmean
    have hne : s.ts.sumUs / s.ts.n ≠ 0 := by omega
    rw [if_pos (show s.ts.n ≥ motionWin / 2 by rw [h.n]; exact hmany), if_pos hne]
    simp only [fsHz, Nat.reduceDiv, hexact hjit, hexact hover, hexact hunder]
    rw [h.n, h.sum, h.jit]
    change decide _ = true ↔ _
    rw [decide_eq_true_eq]
    exact ⟨fun haccept _ => haccept, fun haccept => haccept hmany⟩
  · rw [if_neg (show ¬s.ts.n ≥ motionWin / 2 by rw [h.n]; exact hmany)]
    exact ⟨fun _ hlen => absurd hlen hmany, fun _ => rfl⟩

theorem within_of_accepts {kept : List ℕ} (hpos : 0 < kept.length) (h : accepts kept) : WithinTolerance kept := by
  have hmean := h.1
  have hlow : kept.sum / kept.length * kept.length ≤ kept.sum := Nat.div_mul_le_self _ _
  have hhigh : kept.sum < (kept.sum / kept.length + 1) * kept.length := by
    rw [Nat.add_mul, one_mul]
    exact Nat.lt_div_mul_add hpos
  generalize kept.sum / kept.length = mean at hmean hlow hhigh
  have hrange : 29601 ≤ mean ∧ mean ≤ 50399 := by
    simp only [vitalsFsTolPct] at hmean
    split_ifs at hmean <;> omega
  have hlow' : 29601 * kept.length ≤ kept.sum := (Nat.mul_le_mul_right _ hrange.1).trans hlow
  have hhigh' : kept.sum < 50400 * kept.length :=
    hhigh.trans_le (Nat.mul_le_mul_right _ (by omega))
  simp only [WithinTolerance, vitalsFsTolPct]
  rw [abs_eq_max_neg]
  omega

theorem nominal_iff {all : List ℕ} (hpos : 0 < all.length) :
    (WithinTolerance all ∧ 6400 = rateOf all) ↔ 39994 * all.length ≤ all.sum ∧ all.sum < 40001 * all.length := by
  have hrate : 6400 = rateOf all ↔ 39994 ≤ all.sum / all.length ∧ all.sum / all.length < 40001 := by
    unfold rateOf
    generalize all.sum / all.length = mean
    by_cases hzero : mean = 0
    · subst hzero
      simp
    · rw [eq_comm, Nat.div_eq_iff (Nat.pos_of_ne_zero hzero)]
      omega
  rw [hrate, Nat.le_div_iff_mul_le hpos, Nat.div_lt_iff_lt_mul hpos]
  constructor
  · exact fun h => h.2
  · intro h
    refine ⟨?_, h⟩
    simp only [WithinTolerance, vitalsFsTolPct]
    rw [abs_eq_max_neg]
    omega

end Gate

/-- The gate is right about a window exactly when no gap was passed over or it made no difference. -/
theorem timebase_gate_iff (b : Build) (calls : List Call) (hpaced : Paced b calls)
    (hmany : motionWin / 2 ≤ (gaps (beatsSinceInit b calls)).length) :
    MeasuresRate (run b calls).state (gaps (beatsSinceInit b calls)) ↔
      RateSeen (gaps (beatsSinceInit b calls)) (measured (beatsSinceInit b calls)) := by
  have h := timeKept_run hpaced
  have hok := ok_shUpdateTimebase h (hpaced _ List.prefix_rfl)
  have hfs := fsQ8_shUpdateTimebase h
  generalize gaps (beatsSinceInit b calls) = all at hmany ⊢
  generalize measured (beatsSinceInit b calls) = kept at hok hfs ⊢
  have hlen : 12 ≤ all.length := hmany
  unfold MeasuresRate RateSeen
  rw [hok, hfs]
  by_cases hfew : kept.length < 12
  · rw [if_pos hfew, if_neg (not_le.mpr hfew), nominal_iff (by omega)]
    constructor
    · exact fun hall => Or.inr (hall (fun hle => absurd hle (not_le.mpr hfew)))
    · rintro (rfl | hall) -
      · exact absurd hlen (not_le.mpr hfew)
      · exact hall
  · have hle : 12 ≤ kept.length := not_lt.mp hfew
    rw [if_neg hfew, if_pos hle]
    constructor
    · intro hall
      by_cases haccept : accepts kept
      · exact Or.inr (Or.inr (hall (fun _ => haccept)))
      · exact Or.inr (Or.inl haccept)
    · rintro (rfl | hrefused | hsame) haccept
      · exact ⟨within_of_accepts (by omega) (haccept hle), rfl⟩
      · exact absurd (haccept hle) hrefused
      · exact hsame

def evenSamples (gap : ℕ) : List Call := (List.range 14).map (fun i => .sens 1650 (UInt32.ofNat (gap * (i + 1))))

theorem timebase_gate_even :
    MeasuresRate (run defaultBuild (evenSamples 44000)).state (gaps (beatsSinceInit defaultBuild (evenSamples 44000))) :=
  (timebase_gate_iff defaultBuild (evenSamples 44000) (paced_of_length (by decide)) (by decide)).mpr
    (Or.inl (by decide))

/-- A clock five times too slow is trusted at the nominal rate. -/
theorem timebase_trusts_slow_clock :
    motionWin / 2 ≤ (gaps (beatsSinceInit defaultBuild (evenSamples 200000))).length ∧
      ¬MeasuresRate (run defaultBuild (evenSamples 200000)).state
        (gaps (beatsSinceInit defaultBuild (evenSamples 200000))) := by
  refine ⟨by decide, fun h => ?_⟩
  have hrate := (h (by decide)).2
  exact absurd hrate (by decide)

end SmartHelmet.Vitals
