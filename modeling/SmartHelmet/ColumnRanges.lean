import SmartHelmet.Telemetry

namespace SmartHelmet.Vitals

open Config MachineArith RingBuffer

structure Status.Fits (st : Status) : Prop where
  hrBpm : st.hrBpm < 65536
  hrBpmPeak : st.hrBpmPeak < 65536
  hrBpmFft : st.hrBpmFft < 65536
  hrBpmAc : st.hrBpmAc < 65536
  hrBaselineBpm : st.hrBaselineBpm < 65536
  hrDeltaBpm : -32768 ≤ st.hrDeltaBpm ∧ st.hrDeltaBpm < 32768
  hrCusumUp : st.hrCusumUp < 65536
  hrCusumDn : st.hrCusumDn < 65536
  respBpm : st.respBpm < 65536
  respQ8 : st.respQ8 < 65536
  fsX100 : st.fsX100 < 65536
  fsJitterPct : st.fsJitterPct < 256
  sensDropped : st.sensDropped < 256
  bandEnergy : st.bandEnergy < 65536
  baselineEnergy : st.baselineEnergy < 65536
  motionRmsMg : st.motionRmsMg < 65536
  adaptRemovedPct : st.adaptRemovedPct < 256
  sensMv : st.sensMv < 65536

structure Fits (s : State) : Prop where
  status : s.status.Fits
  sensDropped : s.sensDropped < 256
  baseBpm : s.hrTrack.baseBpm < 65536
  pulseAbs : s.bio.pulseAbs < 65536

theorem incSat_lt (n : ℕ) (h : n < 256) : incSat 0xff n < 256 := by
  unfold incSat
  split_ifs <;> omega

theorem fits_boot : Fits boot where
  status := by constructor <;> decide
  sensDropped := by decide
  baseBpm := by decide
  pulseAbs := by decide

theorem fits_shUpdateTimebase {s : State} (h : Fits s) : Fits (shUpdateTimebase s) := by
  unfold shUpdateTimebase
  dsimp only
  split_ifs
  · exact { h with status := { h.status with
      fsX100 := by dsimp only; omega, fsJitterPct := by dsimp only; omega } }
  · exact { h with status := { h.status with
      fsX100 := by dsimp only; omega, fsJitterPct := by dsimp only; omega } }
  · exact { h with }
  · exact { h with status := { h.status with
      fsX100 := Nat.zero_lt_succ _, fsJitterPct := Nat.zero_lt_succ _ } }

def Pair16 (p : ℕ × ℕ) : Prop := p.1 < 65536 ∧ p.2 < 65536

theorem shRespBpm_lt (r : Resp) (fsQ8 : ℕ) : Pair16 (shRespBpm r fsQ8) := by
  have hzero : Pair16 (0, 0) := ⟨Nat.zero_lt_succ _, Nat.zero_lt_succ _⟩
  have hsat (q : ℕ) : (if q > 0xffff then 0xffff else q) < 65536 := by split_ifs <;> omega
  unfold shRespBpm
  dsimp only
  refine iteInduction (fun _ => hzero) (fun _ => ?_)
  refine iteInduction (fun _ => hzero) (fun _ => ?_)
  refine iteInduction (fun _ => hzero) (fun _ => ?_)
  refine iteInduction (fun _ => hzero) (fun _ => ?_)
  refine iteInduction (fun _ => hzero) (fun _ => ?_)
  refine iteInduction (fun _ => hzero) (fun _ => ?_)
  refine iteInduction (fun _ => ⟨Nat.zero_lt_succ _, hsat _⟩) (fun _ => ?_)
  exact iteInduction (fun _ => ⟨Nat.zero_lt_succ _, hsat _⟩) (fun _ => ⟨u16_lt _, hsat _⟩)

theorem fits_shUpdateResp {s : State} (h : Fits s) : Fits (shUpdateResp s) := by
  obtain ⟨hbpm, hq8⟩ := shRespBpm_lt s.resp s.fsQ8
  exact { h with status := { h.status with respBpm := hbpm, respQ8 := hq8 } }

theorem latestStep_lt (s : State) : latestStep s < 65536 := by
  unfold latestStep axisStep
  exact max_lt (max_lt (u16OfInt_lt _) (u16OfInt_lt _)) (u16OfInt_lt _)

theorem fits_noteMotionWindow {s : State} (h : Fits s) : Fits (noteMotionWindow s) := by
  unfold noteMotionWindow
  split_ifs
  · exact { h with status := { h.status with motionRmsMg := latestStep_lt s } }
  · exact { h with status := { h.status with motionRmsMg := Nat.zero_lt_succ _ } }

theorem fits_processPrologue {s : State} (h : Fits s) : Fits (processPrologue s) := by
  have hm := fits_noteMotionWindow (fits_shUpdateResp (fits_shUpdateTimebase h))
  exact { hm with
    status := { hm.status with sensDropped := hm.sensDropped }
    sensDropped := Nat.zero_lt_succ _ }

theorem fits_gated {s : State} (b : Build) (h : Fits s) : Fits (gated b s) :=
  { fits_processPrologue h with }

theorem fits_processActive {s : State} (h : Fits s) : Fits (processActive s) :=
  { h with status := { h.status with
      hrBpm := Nat.zero_lt_succ _
      hrBpmPeak := Nat.zero_lt_succ _
      hrBpmFft := Nat.zero_lt_succ _
      hrBpmAc := Nat.zero_lt_succ _ } }

theorem fusePair_lt {bpmPeak bpmFft : ℕ} (hp : bpmPeak < 65536) (hf : bpmFft < 65536) (peaks : ℕ)
    (why : HrReason) : (fusePair bpmPeak bpmFft peaks why).1 < 65536 := by
  unfold fusePair
  dsimp only
  split_ifs
  · exact u16_lt _
  · exact u16_lt _
  · exact hp
  · exact hf
  · exact hp
  · norm_num

theorem hrBpm_shFuseHr (s : State) (bpmPeak bpmFft bpmAc peaks fftMag : ℕ) (allow : Bool) (pre : HrReason) :
    (shFuseHr s bpmPeak bpmFft bpmAc peaks fftMag allow pre).status.hrBpm =
      (fusePair bpmPeak bpmFft peaks pre).1 := by
  rcases shFuseHr_cases s bpmPeak bpmFft bpmAc peaks fftMag allow pre with
    ⟨_, _, _, hr⟩ | ⟨_, _, _, hr⟩ | ⟨_, _, hr⟩ | ⟨_, _, hr⟩
  all_goals
    rw [hr]
    rfl

theorem fits_shFuseHr {s : State} (h : Fits s) {bpmPeak bpmFft bpmAc : ℕ} (hp : bpmPeak < 65536)
    (hf : bpmFft < 65536) (ha : bpmAc < 65536) (peaks fftMag : ℕ) (allow : Bool) (pre : HrReason) :
    Fits (shFuseHr s bpmPeak bpmFft bpmAc peaks fftMag allow pre) := by
  have hbpm := fusePair_lt hp hf peaks pre
  rw [← hrBpm_shFuseHr s bpmPeak bpmFft bpmAc peaks fftMag allow pre] at hbpm
  obtain ⟨_, _, _, _, _, _, hr⟩ := shFuseHr_shape s bpmPeak bpmFft bpmAc peaks fftMag allow pre
  rw [hr] at hbpm ⊢
  exact { h with status := { h.status with hrBpm := hbpm, hrBpmPeak := hp, hrBpmFft := hf, hrBpmAc := ha } }

theorem bioTrend_baseline_lt {bio : Bio} {baseline : ℕ} (hp : bio.pulseAbs < 65536)
    (hb : baseline < 65536) (sa : ℕ) : (bioTrend bio baseline sa).2.2 < 65536 := by
  unfold bioTrend
  dsimp only
  split_ifs <;> first | exact hb | exact hp | exact u16OfInt_lt _ | exact Nat.one_lt_succ_succ _

theorem fits_settleTrend {s : State} (h : Fits s) (sa : ℕ) : Fits (settleTrend s sa) :=
  { h with status := { h.status with
      baselineEnergy := bioTrend_baseline_lt h.pulseAbs h.status.baselineEnergy sa } }

theorem fits_estimateHr {s : State} (h : Fits s) (allow : Bool) (pre : HrReason) :
    Fits (estimateHr s allow pre) := by
  have hp : (shPeakBpm s.fsQ8 (shCopySensOrdered s s.sens.count)).1 < 65536 := by
    have := shPeakBpm_range s.fsQ8 (shCopySensOrdered s s.sens.count)
    omega
  have hf : (shFftBpm s.fft s.fsQ8 (shCopySensOrdered s s.sens.count)).2.1 < 65536 := by
    have := shFftBpm_range s.fft s.fsQ8 (shCopySensOrdered s s.sens.count)
    omega
  have hs : Fits { s with fft := (shFftBpm s.fft s.fsQ8 (shCopySensOrdered s s.sens.count)).1 } :=
    { h with }
  exact fits_shFuseHr hs hp hf (Nat.zero_lt_succ _) _ _ _ _

theorem fits_processSettled {s : State} (h : Fits s) (energy sa : ℕ) : Fits (processSettled s energy sa) := by
  have ht := fits_settleTrend h sa
  unfold processSettled
  dsimp only
  split
  · exact fits_shFuseHr ht (Nat.zero_lt_succ _) (Nat.zero_lt_succ _) (Nat.zero_lt_succ _) _ _ _ _
  · exact fits_estimateHr ht _ _

theorem fits_processPulse {s : State} (b : Build) (h : Fits s) : Fits (processPulse b s) := by
  have hopen : Fits (openCalm b s) := { h with status := { h.status with bandEnergy := u16_lt _ } }
  have harm : Fits (armHoldoff (openCalm b s)) := by
    unfold armHoldoff
    split
    · exact { hopen with }
    · exact hopen
  unfold processPulse
  dsimp only
  split
  · have hwarm : Fits (shHrDisturb { armHoldoff (openCalm b s) with
        status := { (armHoldoff (openCalm b s)).status with trend := .unknown, valid := false } }
        hrDisturbHoldoffWin) := { harm with status := { harm.status with } }
    exact fits_shFuseHr hwarm (Nat.zero_lt_succ _) (Nat.zero_lt_succ _) (Nat.zero_lt_succ _) _ _ _ _
  · exact fits_processSettled harm _ _

theorem fits_publishTrack {s : State} (h : Fits s) {t : HrTrack} (ht : t.baseBpm < 65536)
    (change : TrendFlag) (dev : ℤ) : Fits (publishTrack s t change dev) :=
  { h with
    baseBpm := ht
    status := { h.status with
      hrBaselineBpm := ht
      hrDeltaBpm := i16_range dev
      hrCusumUp := u16OfInt_lt _
      hrCusumDn := u16OfInt_lt _ } }

theorem trackInvalid_lt {t : HrTrack} (h : t.baseBpm < 65536) (change : TrendFlag) :
    (trackInvalid t change).1.baseBpm < 65536 := by
  unfold trackInvalid
  dsimp only
  split_ifs
  · exact Nat.zero_lt_succ _
  · exact h

theorem trackValid_lt (t : HrTrack) (change : TrendFlag) {bpm : ℕ} (h : bpm < 65536) :
    (trackValid t change bpm).1.baseBpm < 65536 := by
  unfold trackValid
  dsimp only
  split_ifs <;> first | exact h | exact u16OfInt_lt _

theorem fits_shUpdateHrChange {s : State} (b : Build) (h : Fits s) : Fits (shUpdateHrChange b s) := by
  have hremoved : adaptRemoved s.adapt s.status.adaptRemovedPct < 256 := by
    have := h.status.adaptRemovedPct
    unfold adaptRemoved
    split_ifs <;> omega
  have htrack (t : State) (ht : Fits t) : Fits (if ¬ t.status.hrValid ∨ t.status.hrBpm = 0 then
      publishTrack t (trackInvalid t.hrTrack t.status.hrChange).1
        (trackInvalid t.hrTrack t.status.hrChange).2 0
      else publishTrack t (trackValid t.hrTrack t.status.hrChange t.status.hrBpm).1
        (trackValid t.hrTrack t.status.hrChange t.status.hrBpm).2.1
        (trackValid t.hrTrack t.status.hrChange t.status.hrBpm).2.2) := by
    split
    · exact fits_publishTrack ht (trackInvalid_lt ht.baseBpm _) _ _
    · exact fits_publishTrack ht (trackValid_lt _ _ ht.status.hrBpm) _ _
  unfold shUpdateHrChange
  cases b.hrMotionAdapt with
  | true => exact htrack _ { h with status := { h.status with adaptRemovedPct := hremoved } }
  | false => exact htrack s h

theorem fits_vitalsProcess {s : State} (b : Build) (h : Fits s) : Fits (vitalsProcess b s) := by
  have hg := fits_gated b h
  rcases vitalsProcess_cases b s with ⟨_, hp⟩ | ⟨_, hp⟩
  · rw [hp]
    exact fits_processActive hg
  · have hc := fits_shUpdateHrChange b (fits_processPulse b hg)
    rw [hp]
    exact { hc with status := { hc.status with } }

theorem fits_push {s : State} (b : Build) (h : Fits s) (mv : UInt16) (timeUs : UInt32) :
    Fits (vitalsPushSensInMvAt b s mv timeUs) := by
  unfold vitalsPushSensInMvAt noteSensEdge
  dsimp only
  split_ifs <;> exact { h with
    status := { h.status with sensMv := mv.toNat_lt }
    pulseAbs := u16OfInt_lt _ }

theorem fits_step {b : Build} (r : Run) (c : Call) (h : Fits r.state) : Fits (r.step b c).state := by
  cases hp : processes r c with
  | true =>
    obtain ⟨n, hs⟩ := step_of_processes b hp
    rw [hs]
    exact fits_vitalsProcess b { h with }
  | false =>
    cases c with
    | init => exact { fits_boot with }
    | sens mv timeUs => exact fits_push b h mv timeUs
    | dropped => exact { h with sensDropped := incSat_lt _ h.sensDropped }
    | accel x y z => exact { h with }
    | pirEvent => exact { h with }
    | onSensSample =>
      rw [step_onSensSample_idle b hp]
      exact { h with }
    | process => exact absurd hp.symm Bool.false_ne_true
    | takeFall => exact { h with status := { h.status with } }

theorem fits_run (b : Build) (calls : List Call) : Fits (run b calls).state :=
  run_induction (P := fun r => Fits r.state) fits_boot (fun r c => fits_step r c) calls

end SmartHelmet.Vitals
