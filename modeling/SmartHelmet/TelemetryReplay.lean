import SmartHelmet.ColumnRanges
import SmartHelmet.TrendSettles

namespace SmartHelmet.Vitals

open Config MachineArith RingBuffer DecimalText

/-- The documented columns of a window, as it published them. -/
def publishedRow (winSeq : UInt32) (st : Status) (sensAbs : ℕ) (active : Bool) : List ℤ :=
  csvRow winSeq (csvColumns st st.bandEnergy st.baselineEnergy sensAbs st.motionRmsMg active)

/-- The window is not a calm one that leaves the baseline unlearned. -/
def showsBaseline (b : Build) (s : State) : Bool :=
  (motionGate b (processPrologue s)).1 || decide (s.status.baselineEnergy ≠ 0) || judges b s

def reportedBaseline (b : Build) (s : State) : ℕ :=
  if (motionGate b (processPrologue s)).1 then (vitalsProcess b s).status.baselineEnergy
  else localBaseline b (gated b s)

theorem i32_range (x : ℤ) : -2147483648 ≤ i32 x ∧ i32 x < 2147483648 := by
  have hlo := Int.le_bmod (x := x) (m := 4294967296) (by norm_num)
  have hhi := Int.bmod_lt (x := x) (m := 4294967296) (by norm_num)
  unfold i32
  omega

theorem i32_eq_self {x : ℤ} (hlo : -2147483648 ≤ x) (hhi : x < 2147483648) : i32 x = x :=
  Int.bmod_eq_of_le (by omega) (by omega)

theorem i32_u32_ge {n : UInt32} (h : ¬ n.toNat < 2 ^ 31) : i32 n.toNat < 0 := by
  have hlt := n.toNat_lt
  have he : i32 n.toNat = n.toNat - 4294967296 := by
    rw [i32, ← Int.sub_bmod_right, Int.bmod_eq_of_le (by omega) (by omega), Nat.cast_ofNat]
  omega

theorem i32_u32_iff (n : UInt32) : i32 n.toNat = n.toNat ↔ n.toNat < 2 ^ 31 := by
  constructor
  · intro h
    by_contra hge
    have := i32_u32_ge hge
    omega
  · intro h
    exact i32_eq_self (by omega) (by omega)

theorem readNat_i32_iff (n : UInt32) : readNat (signed (i32 n.toNat)) = some n.toNat ↔ n.toNat < 2 ^ 31 := by
  by_cases h : n.toNat < 2 ^ 31
  · rw [(i32_u32_iff n).mpr h, readNat_signed (by omega), Int.toNat_natCast]
    exact iff_of_true rfl h
  · rw [readNat_signed_neg (i32_u32_ge h)]
    exact iff_of_false (Option.some_ne_none _).symm h

theorem i32_u16 (n : UInt16) : i32 n.toNat = n.toNat := by
  have := n.toNat_lt
  exact i32_eq_self (by omega) (by omega)

theorem length_signed_i32 (x : ℤ) : (signed (i32 x)).length ≤ 11 := by
  have hr := i32_range x
  have h := length_signed_le (v := i32 x) (k := 10) (by norm_num) (by omega)
  split_ifs at h <;> omega

theorem dump_line (tel : Telemetry) (hsink : tel.sink = true) (mv : UInt16) (timeUs : UInt32) :
    (dumpSens tel mv timeUs).2 = some (rowText comma
      (((dumpRow tel.dumpSeq mv timeUs).map (fun v : ℕ => i32 v)).map signed)) := by
  rw [dumpSens, if_neg (not_not.mpr hsink)]
  refine telemetry_line (mt List.map_eq_nil_iff.mp (List.cons_ne_nil _ _)) (fun v hv => ?_) ?_ tel hsink
  · obtain ⟨n, _, rfl⟩ := List.mem_map.mp hv
    exact i32_range n
  · refine (length_rowText_le comma (.cons (length_signed_i32 _) (.cons (length_signed_i32 _)
      (.cons (length_signed_i32 _) .nil)))).trans_lt (by decide)

theorem dump_read_iff (dumpSeq : UInt32) (mv : UInt16) (timeUs : UInt32) :
    readRow readNat comma (rowText comma (((dumpRow dumpSeq mv timeUs).map (fun v : ℕ => i32 v)).map signed)) =
        some (dumpRow dumpSeq mv timeUs) ↔ dumpSeq.toNat < 2 ^ 31 ∧ timeUs.toNat < 2 ^ 31 := by
  have hmv : readNat (signed (i32 mv.toNat)) = some mv.toNat := by
    rw [i32_u16, readNat_signed (by omega), Int.toNat_natCast]
  have hne : (dumpRow dumpSeq mv timeUs).map (fun v : ℕ => i32 v) ≠ [] := List.cons_ne_nil _ _
  rw [readRow, splitOn_signed (by decide) (by decide) hne, mapM_eq_some_iff, ← readNat_i32_iff dumpSeq,
    ← readNat_i32_iff timeUs]
  simp only [dumpRow, List.map_cons, List.map_nil, List.forall₂_cons, List.forall₂_nil_left_iff, hmv,
    true_and, and_true]

theorem natWidth {n : ℕ} (h : n < 65536) : (signed (i32 n)).length ≤ 5 := by
  rw [i32_eq_self (by omega) (by omega)]
  have hw := length_signed_le (v := n) (k := 5) (by norm_num) (by omega)
  rwa [if_neg (by omega)] at hw

theorem flagWidth (b : Bool) : (signed (i32 (flag b))).length ≤ 5 := by
  cases b <;> decide

theorem hrReasonWidth (r : HrReason) : (signed (i32 (hrReasonCode r))).length ≤ 5 := by
  cases r <;> decide

theorem trendWidth (t : TrendFlag) : (signed (i32 (trendCode t))).length ≤ 5 := by
  cases t <;> decide

theorem deltaWidth {v : ℤ} (h : -32768 ≤ v ∧ v < 32768) : (signed (i32 v)).length ≤ 6 := by
  rw [i32_eq_self (by omega) (by omega)]
  have hw := length_signed_le (v := v) (k := 5) (by norm_num) (by omega)
  split_ifs at hw <;> omega

section Csv

variable {st : Status} (hst : st.Fits) {energy baseline sa rms : ℕ} (he : energy < 65536)
  (hb : baseline < 65536) (ha : sa < 65536) (hr : rms < 65536)
include hst he hb ha hr

theorem csv_widths (winSeq : UInt32) (active : Bool) :
    List.Forall₂ (fun f w => f.length ≤ w)
      (((csvRow winSeq (csvColumns st energy baseline sa rms active)).map i32).map signed)
      (11 :: (List.replicate 8 5 ++ 6 :: List.replicate 14 5)) := by
  refine .cons (length_signed_i32 _) ?_
  refine .cons (flagWidth _) (.cons (flagWidth _) (.cons (hrReasonWidth _) ?_))
  refine .cons (natWidth hst.hrBpm) (.cons (natWidth hst.hrBpmPeak) (.cons (natWidth hst.hrBpmFft) ?_))
  refine .cons (natWidth hst.hrBpmAc) (.cons (natWidth hst.hrBaselineBpm) (.cons (deltaWidth hst.hrDeltaBpm) ?_))
  refine .cons (natWidth hst.hrCusumUp) (.cons (natWidth hst.hrCusumDn) (.cons (trendWidth _) ?_))
  refine .cons (natWidth hst.respBpm) (.cons (natWidth hst.respQ8) (.cons (natWidth hst.fsX100) ?_))
  have hjit := hst.fsJitterPct
  have hdrop := hst.sensDropped
  have hrem := hst.adaptRemovedPct
  refine .cons (natWidth (by omega)) (.cons (natWidth (by omega)) (.cons (natWidth he) ?_))
  refine .cons (natWidth hb) (.cons (natWidth ha) (.cons (natWidth hr) ?_))
  exact .cons (natWidth (by omega)) (.cons (natWidth hst.sensMv) .nil)

theorem csvColumns_fit (active : Bool) :
    (csvColumns st energy baseline sa rms active).map i32 = csvColumns st energy baseline sa rms active := by
  have hnat {n : ℕ} (h : n < 65536) : i32 n = n := i32_eq_self (by omega) (by omega)
  have hflag (b : Bool) : i32 (flag b) = flag b := by cases b <;> decide
  have hreason (r : HrReason) : i32 (hrReasonCode r) = hrReasonCode r := by cases r <;> decide
  have htrend (t : TrendFlag) : i32 (trendCode t) = trendCode t := by cases t <;> decide
  have hdelta : i32 st.hrDeltaBpm = st.hrDeltaBpm := by
    have := hst.hrDeltaBpm
    exact i32_eq_self (by omega) (by omega)
  have hjit := hst.fsJitterPct
  have hdrop := hst.sensDropped
  have hrem := hst.adaptRemovedPct
  simp only [csvColumns, List.map_cons, List.map_nil, hflag, hreason, htrend, hdelta, hnat hst.hrBpm,
    hnat hst.hrBpmPeak, hnat hst.hrBpmFft, hnat hst.hrBpmAc, hnat hst.hrBaselineBpm, hnat hst.hrCusumUp,
    hnat hst.hrCusumDn, hnat hst.respBpm, hnat hst.respQ8, hnat hst.fsX100,
    hnat (n := st.fsJitterPct) (by omega), hnat (n := st.sensDropped) (by omega), hnat he, hnat hb, hnat ha,
    hnat hr, hnat (n := st.adaptRemovedPct) (by omega), hnat hst.sensMv]

theorem csv_line (tel : Telemetry) (hsink : tel.sink = true) (active : Bool) :
    (shTelemCsvWindow tel st energy baseline sa rms active).2 =
      some (rowText comma (((csvRow tel.winSeq (csvColumns st energy baseline sa rms active)).map i32).map
        signed)) := by
  rw [shTelemCsvWindow, if_neg (not_not.mpr hsink)]
  refine telemetry_line (mt List.map_eq_nil_iff.mp (List.cons_ne_nil _ _)) (fun v hv => ?_) ?_ tel hsink
  · obtain ⟨x, _, rfl⟩ := List.mem_map.mp hv
    exact i32_range x
  · exact (length_rowText_le comma (csv_widths hst he hb ha hr tel.winSeq active)).trans_lt (by decide)

end Csv

theorem rms_shFuseHr (s : State) (bpmPeak bpmFft bpmAc peaks fftMag : ℕ) (allow : Bool) (pre : HrReason) :
    (shFuseHr s bpmPeak bpmFft bpmAc peaks fftMag allow pre).status.motionRmsMg = s.status.motionRmsMg := by
  obtain ⟨_, _, _, _, _, _, hr⟩ := shFuseHr_shape s bpmPeak bpmFft bpmAc peaks fftMag allow pre
  rw [hr]
  rfl

theorem rms_processSettled (s : State) (energy sa : ℕ) :
    (processSettled s energy sa).status.motionRmsMg = s.status.motionRmsMg := by
  unfold processSettled
  dsimp only
  split
  · exact rms_shFuseHr (settleTrend s sa) _ _ _ _ _ _ _
  · exact rms_shFuseHr { settleTrend s sa with fft := _ } _ _ _ _ _ _ _

theorem rms_processPulse (b : Build) (s : State) :
    (processPulse b s).status.motionRmsMg = s.status.motionRmsMg := by
  have harm : (armHoldoff (openCalm b s)).status.motionRmsMg = s.status.motionRmsMg := by
    rw [(armHoldoff_keeps _).2.2]
    rfl
  unfold processPulse
  dsimp only
  split
  · exact (rms_shFuseHr _ _ _ _ _ _ _ _).trans harm
  · exact (rms_processSettled _ _ _).trans harm

theorem rms_vitalsProcess (b : Build) (s : State) :
    (vitalsProcess b s).status.motionRmsMg = gateRms (gated b s) := by
  have hnote (p : State) : (noteMotionWindow p).status.motionRmsMg = gateRms (noteMotionWindow p) := by
    unfold noteMotionWindow
    split_ifs with h
    · exact (if_pos h).symm
    · exact (if_neg h).symm
  have hgated : (gated b s).status.motionRmsMg = gateRms (gated b s) := hnote (shUpdateResp (shUpdateTimebase s))
  rcases vitalsProcess_cases b s with ⟨_, hp⟩ | ⟨_, hp⟩
  · rw [hp, ← hgated]
    rfl
  · obtain ⟨t, change, dev, pct, hc⟩ := processCalm_eq b (gated b s)
    have hclose (p : State) : (closeCalm p t change dev pct).status.motionRmsMg = p.status.motionRmsMg := rfl
    rw [hp, hc, hclose, rms_processPulse, hgated]

theorem energy_calm {b : Build} {s : State} (hcalm : (motionGate b (processPrologue s)).1 = false) :
    (vitalsProcess b s).status.bandEnergy = bandEnergy b (gated b s) := by
  rcases vitalsProcess_cases b s with ⟨hactive, _⟩ | ⟨_, hp⟩
  · rw [hcalm] at hactive
    exact absurd hactive Bool.false_ne_true
  · obtain ⟨t, change, dev, pct, hc⟩ := processCalm_eq b (gated b s)
    have hclose (p : State) : (closeCalm p t change dev pct).status.bandEnergy = p.status.bandEnergy := rfl
    rw [hp, hc, hclose, (processPulse_guards b (gated b s)).2.2.1]

theorem localBaseline_eq {b : Build} {s : State} (hcalm : (motionGate b (processPrologue s)).1 = false) :
    localBaseline b (gated b s) =
      if judges b s then (vitalsProcess b s).status.baselineEnergy
      else if s.status.baselineEnergy ≠ 0 then s.status.baselineEnergy else 1 := by
  obtain ⟨hbio, hring, -, -, hbase⟩ := opened_keeps b s
  have hgated : (gated b s).status.baselineEnergy = s.status.baselineEnergy :=
    congrArg Guards.baselineEnergy (guards_processPrologue s)
  have habs : sensAbs (armHoldoff (openCalm b (gated b s))) = sensAbs s := by
    rw [sensAbs, hring, sensAbs]
  unfold localBaseline
  dsimp only
  rw [hbio, habs, hbase, hgated]
  cases hlooks : looksAtBands b s with
  | false =>
    rw [if_pos ((warm_iff_not_looking hcalm).mpr hlooks), judges, hlooks]
    rfl
  | true =>
    have hlooking : ¬ looksAtBands b s = false := by rw [hlooks]; exact Bool.noConfusion
    rw [if_neg (mt (warm_iff_not_looking hcalm).mp hlooking), judges, hlooks, (trend_window hlooks).2,
      Bool.true_and]
    rfl

theorem reportedBaseline_iff (b : Build) (s : State) :
    reportedBaseline b s = (vitalsProcess b s).status.baselineEnergy ↔ showsBaseline b s = true := by
  unfold reportedBaseline showsBaseline
  cases hgate : (motionGate b (processPrologue s)).1 with
  | true => simp
  | false =>
    simp only [Bool.false_eq_true, ↓reduceIte, Bool.false_or, localBaseline_eq hgate, Bool.or_eq_true,
      decide_eq_true_eq]
    cases hj : judges b s with
    | true => simp
    | false =>
      simp only [Bool.false_eq_true, ↓reduceIte, or_false, window_not_judged hj]
      split_ifs with hb
      · exact iff_of_true rfl hb
      · exact iff_of_false (by omega) hb

theorem reportedBaseline_lt {b : Build} {s : State} (h : Fits s) : reportedBaseline b s < 65536 := by
  have hold := h.status.baselineEnergy
  have hnew := (fits_vitalsProcess b h).status.baselineEnergy
  unfold reportedBaseline
  cases hgate : (motionGate b (processPrologue s)).1 with
  | true => exact hnew
  | false =>
    rw [if_neg Bool.false_ne_true, localBaseline_eq hgate]
    split_ifs
    · exact hnew
    · exact hold
    · exact Nat.one_lt_succ_succ _

theorem sensAbs_lt (s : State) : sensAbs s < 65536 := by
  unfold sensAbs shMeanAbsI16
  split_ifs
  · exact Nat.zero_lt_succ _
  · exact u16_lt _

def reportedColumns (b : Build) (s : State) : List ℤ :=
  let st := (vitalsProcess b s).status
  csvColumns st st.bandEnergy (reportedBaseline b s) (sensAbs s) st.motionRmsMg
    (motionGate b (processPrologue s)).1

theorem shVitalsReport_eq (b : Build) (s : State) (tel : Telemetry) :
    let st := (vitalsProcess b s).status
    shVitalsReport b s tel = shTelemCsvWindow tel st st.bandEnergy (reportedBaseline b s) (sensAbs s)
      st.motionRmsMg (motionGate b (processPrologue s)).1 := by
  intro st
  have habs : sensAbs (gated b s) = sensAbs s := by
    have hsens : (gated b s).sens = s.sens := congrArg Signals.sens (signals_gated b s)
    rw [sensAbs, hsens, sensAbs]
  unfold shVitalsReport reportedBaseline
  dsimp only
  rw [habs, ← rms_vitalsProcess]
  cases hgate : (motionGate b (processPrologue s)).1 with
  | true => rfl
  | false =>
    rw [← energy_calm hgate]
    rfl

theorem report_line {b : Build} {s : State} (h : Fits s) (tel : Telemetry) (hsink : tel.sink = true) :
    (shVitalsReport b s tel).2 =
        some (rowText comma (((csvRow tel.winSeq (reportedColumns b s)).map i32).map signed)) ∧
      (rowText comma (((csvRow tel.winSeq (reportedColumns b s)).map i32).map signed)).length + 1 <
        telemetryLineMax := by
  have hst := (fits_vitalsProcess b h).status
  have hb := reportedBaseline_lt (b := b) h
  have ha := sensAbs_lt s
  rw [shVitalsReport_eq]
  refine ⟨csv_line hst hst.bandEnergy hb ha hst.motionRmsMg tel hsink _, ?_⟩
  have hlen := length_rowText_le comma (csv_widths hst hst.bandEnergy hb ha hst.motionRmsMg tel.winSeq
    (motionGate b (processPrologue s)).1)
  exact (Nat.succ_le_succ hlen).trans_lt (by decide)

theorem report_read_iff {b : Build} {s : State} (h : Fits s) (winSeq : UInt32) :
    readRow readInt comma (rowText comma (((csvRow winSeq (reportedColumns b s)).map i32).map signed)) =
        some (publishedRow winSeq (vitalsProcess b s).status (sensAbs s)
          (motionGate b (processPrologue s)).1) ↔
      winSeq.toNat < 2 ^ 31 ∧ showsBaseline b s = true := by
  have hst := (fits_vitalsProcess b h).status
  have hb := reportedBaseline_lt (b := b) h
  have ha := sensAbs_lt s
  have hcolumns : (reportedColumns b s).map i32 = reportedColumns b s :=
    csvColumns_fit hst hst.bandEnergy hb ha hst.motionRmsMg _
  have hne : (csvRow winSeq (reportedColumns b s)).map i32 ≠ [] := List.cons_ne_nil _ _
  rw [readRow_signed (by decide) (by decide) hne, Option.some_inj, csvRow, List.map_cons, hcolumns,
    publishedRow, csvRow, List.cons.injEq, i32_u32_iff, ← reportedBaseline_iff]
  simp only [reportedColumns, csvColumns, List.cons.injEq, Nat.cast_inj, true_and, and_true]

theorem telemetry_replayed_iff (b : Build) (calls : List Call) (winSeq dumpSeq : UInt32) :
    let r := run b calls
    let tel : Telemetry := ⟨true, winSeq, dumpSeq⟩
    (∀ mv timeUs, ∃ line, (telemCall b r.state tel (.sens mv timeUs)).2 = some line ∧
      (readRow readNat comma line = some [dumpSeq.toNat, mv.toNat, timeUs.toNat] ↔
        dumpSeq.toNat < 2 ^ 31 ∧ timeUs.toNat < 2 ^ 31)) ∧
    ∀ c, processes r c = true →
      let s := windowState r.state c
      ∃ line, (telemCall b r.state tel c).2 = some line ∧
        line = rowText comma (((csvRow winSeq (reportedColumns b s)).map i32).map signed) ∧
        line.length + 1 < telemetryLineMax ∧ (line.splitOn comma).length = 24 ∧
        (readRow readInt comma line = some (publishedRow winSeq (r.step b c).state.status (sensAbs s)
            (motionGate b (processPrologue s)).1) ↔
          winSeq.toNat < 2 ^ 31 ∧ showsBaseline b s = true) := by
  intro r tel
  refine ⟨fun mv timeUs => ⟨_, dump_line tel rfl mv timeUs, dump_read_iff dumpSeq mv timeUs⟩, ?_⟩
  intro c hc s
  have hfits : Fits s := by
    have hrun := fits_run b calls
    cases c with
    | onSensSample => exact { hrun with }
    | _ => exact hrun
  obtain ⟨hline, hlen⟩ := report_line (b := b) hfits tel rfl
  have hread := report_read_iff (b := b) hfits winSeq
  have hne : (csvRow winSeq (reportedColumns b s)).map i32 ≠ [] := List.cons_ne_nil _ _
  have hsplit : ((rowText comma (((csvRow winSeq (reportedColumns b s)).map i32).map signed)).splitOn
      comma).length = 24 := by
    rw [splitOn_signed (by decide) (by decide) hne]
    rfl
  cases c with
  | process => exact ⟨_, hline, rfl, hlen, hsplit, hread⟩
  | onSensSample =>
    have hwin : incSat 0xff r.state.sensSinceProcess ≥ motionWin := of_decide_eq_true hc
    have hcall : (telemCall b r.state tel .onSensSample).2 = (shVitalsReport b s tel).2 := by
      rw [telemCall, if_pos hwin]
      rfl
    have hstep : (r.step b .onSensSample).state = vitalsProcess b s := by
      rw [Run.step, if_pos hwin]
      rfl
    rw [hcall, hstep]
    exact ⟨_, hline, rfl, hlen, hsplit, hread⟩
  | _ => exact absurd hc Bool.false_ne_true

/-- The clock passes `2 ^ 31` microseconds after 36 minutes; the first window has no baseline. -/
theorem telemetry_not_replayed :
    let tel : Telemetry := ⟨true, 0, 0⟩
    let line := (telemCall defaultBuild boot tel (.sens 1650 2147483648)).2
    let window := (telemCall defaultBuild boot tel .process).2
    line = some (rowText comma [decimal 0, decimal 1650, minus :: decimal 2147483648]) ∧
      line.bind (readRow readNat comma) ≠ some [0, 1650, 2147483648] ∧
      window.bind (readRow readInt comma) ≠ some (publishedRow 0 (vitalsProcess defaultBuild boot).status 0 false) := by
  decide +kernel

end SmartHelmet.Vitals
