import SmartHelmet.PulseValidity

namespace SmartHelmet.Vitals

open Config MachineArith

def windows (marks : List Mark) : List Status :=
  marks.filterMap (fun | .window _ st => some st | .restart => none)

def invalidTail (marks : List Mark) : List Status := (windows marks).takeWhile (fun st => !st.hrValid)

/-- How many of the windows without a pulse, back to the last restart, the motion gate let through. -/
def calmInvalid : List Mark → ℕ
  | .window active st :: ms =>
    if st.hrValid then 0 else if active then calmInvalid ms else calmInvalid ms + 1
  | _ => 0

def neverValid : List Mark → Bool
  | .window _ st :: ms => !st.hrValid && neverValid ms
  | _ => true

structure Discarded (t : HrTrack) : Prop where
  base : t.baseBpm = 0
  baseN : t.baseN = 0
  cusumUp : t.cusumUp = 0
  cusumDn : t.cusumDn = 0

def BaselineAge (t : HrTrack) (change : TrendFlag) (marks : List Mark) : Prop :=
  (Discarded t ∧ change = .unknown ∧
    (neverValid marks = true ∨ hrBaselineStaleWin ≤ calmInvalid marks)) ∨
  (40 ≤ t.baseBpm ∧ t.baseBpm ≤ 180 ∧ neverValid marks = false ∧
    t.invalidRun = calmInvalid marks ∧ calmInvalid marks < hrBaselineStaleWin)

theorem u16OfInt_between {base bpm : ℕ} (a : ℤ) (ha : 0 ≤ a) (ha' : a ≤ 256)
    (hbase : 40 ≤ base ∧ base ≤ 180) (hbpm : 40 ≤ bpm ∧ bpm ≤ 180) :
    40 ≤ u16OfInt (base + (((bpm : ℤ) - base) * a).tdiv 256) ∧
      u16OfInt (base + (((bpm : ℤ) - base) * a).tdiv 256) ≤ 180 := by
  have hstep := OnePole.step_between ha ha' (bpm : ℤ) base
  unfold OnePole.step at hstep
  unfold u16OfInt
  omega

theorem trackValid_base (t : HrTrack) (change : TrendFlag) {bpm : ℕ} (hbpm : 40 ≤ bpm ∧ bpm ≤ 180)
    (ht : t.baseBpm = 0 ∨ 40 ≤ t.baseBpm ∧ t.baseBpm ≤ 180) :
    40 ≤ (trackValid t change bpm).1.baseBpm ∧ (trackValid t change bpm).1.baseBpm ≤ 180 ∧
      (trackValid t change bpm).1.invalidRun = 0 := by
  have hbase : 40 ≤ (if t.baseBpm = 0 then bpm else t.baseBpm) ∧
      (if t.baseBpm = 0 then bpm else t.baseBpm) ≤ 180 := by
    split_ifs with h0
    · exact hbpm
    · exact ht.resolve_left h0
  have hlearn := u16OfInt_between 64 (by norm_num) (by norm_num) hbase hbpm
  have htrack := u16OfInt_between hrBaselineAlphaQ8 (by decide) (by decide) hbase hbpm
  unfold trackValid
  dsimp only
  split_ifs at hlearn htrack ⊢
  all_goals first
    | exact ⟨hlearn.1, hlearn.2, rfl⟩
    | exact ⟨htrack.1, htrack.2, rfl⟩
    | exact ⟨hbpm.1, hbpm.2, rfl⟩

theorem trackValid_learning (t : HrTrack) (change : TrendFlag) (bpm : ℕ) (h : t.baseN = 0) :
    (trackValid t change bpm).2.1 = change ∧ (trackValid t change bpm).1.baseN = 1 := by
  unfold trackValid
  dsimp only
  rw [if_pos (by rw [h]; decide)]
  exact ⟨rfl, by rw [h]⟩

theorem shUpdateHrChange_track (b : Build) (p : State) :
    (p.status.hrValid = false → (shUpdateHrChange b p).hrTrack = (trackInvalid p.hrTrack p.status.hrChange).1 ∧
      (shUpdateHrChange b p).status.hrChange = (trackInvalid p.hrTrack p.status.hrChange).2) ∧
    (p.status.hrValid = true → p.status.hrBpm ≠ 0 →
      (shUpdateHrChange b p).hrTrack = (trackValid p.hrTrack p.status.hrChange p.status.hrBpm).1 ∧
      (shUpdateHrChange b p).status.hrChange =
        (trackValid p.hrTrack p.status.hrChange p.status.hrBpm).2.1) := by
  unfold shUpdateHrChange
  dsimp only
  refine ⟨fun hv => ?_, fun hv hb => ?_⟩
  · cases b.hrMotionAdapt <;> simp [hv, publishTrack]
  · cases b.hrMotionAdapt <;> simp [hv, hb, publishTrack]

theorem vitalsProcess_track (b : Build) (s : State) :
    let w := vitalsProcess b s
    let active := (motionGate b (processPrologue s)).1
    (active = true ∧ w.status.hrValid = false ∧ w.hrTrack = s.hrTrack ∧
      w.status.hrChange = s.status.hrChange) ∨
    (active = false ∧ w.status.hrValid = false ∧
      w.hrTrack = (trackInvalid s.hrTrack s.status.hrChange).1 ∧
      w.status.hrChange = (trackInvalid s.hrTrack s.status.hrChange).2) ∨
    (active = false ∧ w.status.hrValid = true ∧ (40 ≤ w.status.hrBpm ∧ w.status.hrBpm ≤ 180) ∧
      w.hrTrack = (trackValid s.hrTrack s.status.hrChange w.status.hrBpm).1 ∧
      w.status.hrChange = (trackValid s.hrTrack s.status.hrChange w.status.hrBpm).2.1) := by
  intro w active
  have hg := guards_processPrologue s
  have htrack : (gated b s).hrTrack = s.hrTrack := congrArg Guards.hrTrack hg
  have hchange : (gated b s).status.hrChange = s.status.hrChange := congrArg Guards.hrChange hg
  rcases vitalsProcess_cases b s with ⟨hm, h⟩ | ⟨hm, h⟩
  · left
    simp only [w, h]
    generalize gated b s = g at htrack hchange
    exact ⟨hm, rfl, htrack, hchange⟩
  · right
    obtain ⟨_, _, _, ht, hc⟩ := processPulse_guards b (gated b s)
    have hvalid := @processPulse_valid b (gated b s)
    have hupdate := shUpdateHrChange_track b (processPulse b (gated b s))
    obtain ⟨t, change, dev, pct, he⟩ := shUpdateHrChange_eq b (processPulse b (gated b s))
    rw [ht, hc, htrack, hchange] at hupdate
    simp only [w, h, processCalm]
    generalize processPulse b (gated b s) = p at hvalid hupdate he ⊢
    rw [he] at hupdate ⊢
    cases hv : p.status.hrValid with
    | false => exact Or.inl ⟨hm, hv, hupdate.1 hv⟩
    | true =>
      obtain ⟨_, _, _, _, _, _, hp, hf, _, hb⟩ := hvalid hv
      have hrange : 40 ≤ p.status.hrBpm ∧ p.status.hrBpm ≤ 180 := by omega
      exact Or.inr ⟨hm, hv, hrange, hupdate.2 hv (by omega)⟩

theorem baselineAge_window (b : Build) {s : State} {marks : List Mark}
    (h : BaselineAge s.hrTrack s.status.hrChange marks) :
    BaselineAge (vitalsProcess b s).hrTrack (vitalsProcess b s).status.hrChange
      (.window (motionGate b (processPrologue s)).1 (vitalsProcess b s).status :: marks) := by
  have hbase : s.hrTrack.baseBpm = 0 ∨ 40 ≤ s.hrTrack.baseBpm ∧ s.hrTrack.baseBpm ≤ 180 := by
    rcases h with ⟨hd, _⟩ | ⟨hlo, hhi, _⟩
    · exact Or.inl hd.base
    · exact Or.inr ⟨hlo, hhi⟩
  have hwin := vitalsProcess_track b s
  generalize vitalsProcess b s = w at hwin ⊢
  generalize (motionGate b (processPrologue s)).1 = active at hwin ⊢
  rcases hwin with ⟨hm, hv, ht, hc⟩ | ⟨hm, hv, ht, hc⟩ | ⟨hm, hv, hbpm, ht, hc⟩
  · rw [ht, hc]
    simpa [BaselineAge, neverValid, calmInvalid, hv, hm] using h
  · rw [ht, hc]
    simp only [BaselineAge, neverValid, calmInvalid, hv, hm, Bool.not_false, Bool.true_and,
      Bool.false_eq_true, ↓reduceIte]
    unfold trackInvalid
    dsimp only
    split_ifs with hrun
    · left
      refine ⟨⟨rfl, rfl, rfl, rfl⟩, rfl, ?_⟩
      rcases h with ⟨_, _, hnever | hold⟩ | ⟨_, _, _, hinv, hlt⟩
      · exact Or.inl hnever
      · exact Or.inr (by omega)
      · right
        rw [hinv] at hrun
        simp only [hrBaselineStaleWin, incSat] at hrun hlt ⊢
        split_ifs at hrun <;> omega
    · rcases h with ⟨hd, hu, hage⟩ | ⟨hlo, hhi, hnever, hinv, hlt⟩
      · exact Or.inl ⟨⟨hd.base, hd.baseN, hd.cusumUp, hd.cusumDn⟩, hu, hage.imp_right (by omega)⟩
      · right
        rw [hinv] at hrun ⊢
        have hinc : incSat 65535 (calmInvalid marks) = calmInvalid marks + 1 := by
          simp only [hrBaselineStaleWin] at hlt
          exact if_pos (by omega)
        rw [hinc] at hrun ⊢
        exact ⟨hlo, hhi, hnever, rfl, not_le.mp hrun⟩
  · right
    obtain ⟨hlo, hhi, hinv⟩ := trackValid_base s.hrTrack s.status.hrChange hbpm hbase
    rw [ht]
    simp only [neverValid, calmInvalid, hv, Bool.not_true, Bool.false_and, ↓reduceIte]
    exact ⟨hlo, hhi, trivial, hinv, by decide⟩

theorem baselineAge_step (b : Build) (r : Run) (c : Call)
    (h : BaselineAge r.state.hrTrack r.state.status.hrChange r.marks) :
    BaselineAge (r.step b c).state.hrTrack (r.step b c).state.status.hrChange (r.step b c).marks := by
  cases hp : processes r c with
  | true =>
    obtain ⟨n, hs⟩ := step_of_processes b hp
    rw [hs]
    exact baselineAge_window b h
  | false =>
    cases c with
    | init => exact Or.inl ⟨⟨rfl, rfl, rfl, rfl⟩, rfl, Or.inl rfl⟩
    | sens mv t =>
      have hk : (vitalsPushSensInMvAt b r.state mv t).hrTrack = r.state.hrTrack ∧
          (vitalsPushSensInMvAt b r.state mv t).status.hrChange = r.state.status.hrChange := by
        unfold vitalsPushSensInMvAt noteSensEdge
        dsimp only
        split_ifs <;> exact ⟨rfl, rfl⟩
      simp only [Run.step, hk]
      exact h
    | onSensSample =>
      rw [step_onSensSample_idle b hp]
      exact h
    | process => exact absurd hp.symm Bool.false_ne_true
    | accel x y z => exact h
    | dropped => exact h
    | pirEvent => exact h
    | takeFall => exact h

theorem baselineAge_run (b : Build) (calls : List Call) :
    BaselineAge (run b calls).state.hrTrack (run b calls).state.status.hrChange (run b calls).marks :=
  run_induction (P := fun r => BaselineAge r.state.hrTrack r.state.status.hrChange r.marks)
    (Or.inl ⟨⟨rfl, rfl, rfl, rfl⟩, rfl, Or.inl rfl⟩) (baselineAge_step b) calls

structure LearnsAnew (b : Build) (calls : List Call) : Prop where
  discarded : Discarded (run b calls).state.hrTrack
  next : ∀ more c active st, (run b (calls ++ more)).marks = (run b calls).marks →
    (run b (calls ++ more ++ [c])).marks = .window active st :: (run b calls).marks → st.hrValid = true →
    (run b (calls ++ more ++ [c])).state.hrTrack.baseN = 1 ∧ st.hrChange ≠ .rising ∧ st.hrChange ≠ .falling

theorem baselineAge_discarded {t : HrTrack} {change : TrendFlag} {marks : List Mark}
    (h : BaselineAge t change marks)
    (hold : neverValid marks = true ∨ hrBaselineStaleWin ≤ calmInvalid marks) :
    Discarded t ∧ change = .unknown := by
  rcases h with ⟨hd, hu, _⟩ | ⟨_, _, hnever, _, hlt⟩
  · exact ⟨hd, hu⟩
  · rcases hold with hn | hge
    · rw [hnever] at hn
      exact absurd hn Bool.false_ne_true
    · exact absurd hge (not_le.mpr hlt)

theorem window_after_discard (b : Build) (s : State) (hd : Discarded s.hrTrack)
    (hu : s.status.hrChange = .unknown) (hv : (vitalsProcess b s).status.hrValid = true) :
    (vitalsProcess b s).hrTrack.baseN = 1 ∧ (vitalsProcess b s).status.hrChange = .unknown := by
  rcases vitalsProcess_track b s with ⟨_, hf, _⟩ | ⟨_, hf, _⟩ | ⟨_, _, _, ht, hc⟩
  · rw [hf] at hv
    exact absurd hv Bool.false_ne_true
  · rw [hf] at hv
    exact absurd hv Bool.false_ne_true
  · obtain ⟨hkeep, hone⟩ := trackValid_learning s.hrTrack s.status.hrChange
      (vitalsProcess b s).status.hrBpm hd.baseN
    rw [ht, hc]
    exact ⟨hone, hkeep.trans hu⟩

theorem stale_baseline_iff (b : Build) (calls : List Call) :
    let marks := (run b calls).marks
    (hrBaselineStaleWin ≤ (invalidTail marks).length → LearnsAnew b calls) ↔
      (hrBaselineStaleWin ≤ (invalidTail marks).length →
        neverValid marks = true ∨ hrBaselineStaleWin ≤ calmInvalid marks) := by
  intro marks
  refine imp_congr_right (fun _ => ⟨fun h => ?_, fun hold => ?_⟩)
  · rcases baselineAge_run b calls with ⟨_, _, hage⟩ | ⟨hlo, _⟩
    · exact hage
    · have := h.discarded.base
      omega
  · refine ⟨(baselineAge_discarded (baselineAge_run b calls) hold).1, ?_⟩
    intro more c active st hmore hwin hv
    have hage := baselineAge_run b (calls ++ more)
    rw [hmore] at hage
    obtain ⟨hd, hu⟩ := baselineAge_discarded hage hold
    rw [run_concat] at hwin ⊢
    rw [← hmore] at hwin
    obtain ⟨n, hs⟩ := step_of_processes b (processes_of_window hwin)
    rw [hs] at hwin ⊢
    obtain ⟨rfl, rfl⟩ := Mark.window.inj (List.cons.inj hwin).1
    obtain ⟨hone, hunknown⟩ :=
      window_after_discard b { (run b (calls ++ more)).state with sensSinceProcess := n } hd hu hv
    refine ⟨hone, ?_, ?_⟩ <;> rw [hunknown] <;> decide

theorem stale_baseline_kept_in_motion :
    ¬ ∀ calls : List Call, hrBaselineStaleWin ≤ (invalidTail (run defaultBuild calls).marks).length →
      LearnsAnew defaultBuild calls := by
  intro h
  have hrun : hrBaselineStaleWin ≤ (invalidTail (run defaultBuild (pulseCalls ++ [.process] ++
      .accel 100 0 1000 :: List.replicate 15 .process)).marks).length ∧
      (run defaultBuild (pulseCalls ++ [.process] ++
        .accel 100 0 1000 :: List.replicate 15 .process)).state.hrTrack.baseBpm ≠ 0 := by
    decide +kernel
  exact hrun.2 (h _ hrun.1).discarded.base

end SmartHelmet.Vitals
