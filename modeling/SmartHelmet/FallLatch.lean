import SmartHelmet.MagnitudeWindow
import SmartHelmet.VitalsRuns

namespace SmartHelmet.Vitals

open Config MachineArith RingBuffer

def noteSlot (held : List AccelSlot) : Call → List AccelSlot
  | .init => []
  | .accel x y z => held ++ [⟨accelMag x y z, x.toInt, y.toInt, z.toInt⟩]
  | _ => held

def slotsSinceInit (calls : List Call) : List AccelSlot := calls.foldl noteSlot []

def magsSinceInit (calls : List Call) : List ℕ := (slotsSinceInit calls).map AccelSlot.mag

def pushedMags : List Call → List ℕ
  | [] => []
  | .accel x y z :: calls => accelMag x y z :: pushedMags calls
  | _ :: calls => pushedMags calls

structure QuietSamples (mags : List ℕ) : Prop where
  impact : ∀ m ∈ mags, m < fallImpactMg
  freefall : ∀ m ∈ mags, ¬ (0 < m ∧ m ≤ fallFreefallMg)
  rms : shRmsDevU16 mags < fallRmsMg
  swing : ∀ m ∈ mags, ∀ n ∈ mags, m < n + fallSwingMg

def nextWindow (calls : List Call) : List ℕ := Ring.recent motionWin (magsSinceInit calls)

def windowFalls (calls : List Call) : Bool :=
  decide (2 ≤ (magsSinceInit calls).length) && fallWindow (nextWindow calls)

theorem slotsSinceInit_concat (calls : List Call) (c : Call) :
    slotsSinceInit (calls ++ [c]) = noteSlot (slotsSinceInit calls) c := by
  simp only [slotsSinceInit, List.foldl_append, List.foldl_cons, List.foldl_nil]

theorem pushedMags_append (xs ys : List Call) : pushedMags (xs ++ ys) = pushedMags xs ++ pushedMags ys := by
  induction xs with
  | nil => rfl
  | cons c xs ih => cases c <;> simp only [List.cons_append, pushedMags, ih]

theorem magsSinceInit_suffix (xs ys : List Call) :
    magsSinceInit (xs ++ ys) <:+ magsSinceInit xs ++ pushedMags ys := by
  induction ys using List.reverseRecOn with
  | nil => rw [List.append_nil, pushedMags, List.append_nil]
  | append_singleton ys c ih =>
    rw [← List.append_assoc, magsSinceInit, slotsSinceInit_concat, pushedMags_append,
      ← List.append_assoc]
    cases c with
    | init => exact List.nil_suffix
    | accel x y z =>
      simp only [noteSlot, pushedMags, List.map_append, List.map_cons, List.map_nil]
      exact (List.suffix_append_inj_of_length_eq rfl).mpr ⟨ih, rfl⟩
    | _ =>
      simp only [noteSlot, pushedMags, List.append_nil]
      exact ih

theorem motion_step (b : Build) (r : Run) (c : Call) (held : List AccelSlot)
    (h : r.state.motion.Holds held) : (r.step b c).state.motion.Holds (noteSlot held c) := by
  have hwin (s : State) (hs : s.motion = r.state.motion) : (r.process b s).state.motion.Holds held := by
    have hm : (vitalsProcess b s).motion = s.motion :=
      congrArg Signals.motion (signals_vitalsProcess b s)
    simp only [Run.process, hm, hs]
    exact h
  cases c with
  | init => exact Ring.holds_zeroed _ _
  | sens mv t =>
    have hk : (vitalsPushSensInMvAt b r.state mv t).motion = r.state.motion := by
      unfold vitalsPushSensInMvAt noteSensEdge
      dsimp only
      split_ifs <;> rfl
    simp only [Run.step, noteSlot, hk]
    exact h
  | accel x y z => exact h.push _
  | onSensSample =>
    unfold Run.step
    dsimp only
    split_ifs
    · exact hwin _ rfl
    · exact h
  | process => exact hwin _ rfl
  | dropped => exact h
  | pirEvent => exact h
  | takeFall => exact h

theorem motion_run (b : Build) (calls : List Call) :
    (run b calls).state.motion.Holds (slotsSinceInit calls) := by
  induction calls using List.reverseRecOn with
  | nil => exact Ring.holds_zeroed _ _
  | append_singleton calls c ih =>
    rw [run_concat, slotsSinceInit_concat]
    exact motion_step b _ c _ ih

theorem fallPending_vitalsProcess (b : Build) (s : State) :
    (vitalsProcess b s).fallPending = (s.fallPending || (haveAccel s && fallWindow (magnitudes s))) := by
  have htime : (shUpdateTimebase s).fallPending = s.fallPending := by
    unfold shUpdateTimebase
    dsimp only
    split_ifs <;> rfl
  have hmotion : (shUpdateResp (shUpdateTimebase s)).motion = s.motion :=
    congrArg Signals.motion (signals_shUpdateTimebase s)
  have hgate : (gated b s).fallPending =
      (s.fallPending || (haveAccel s && fallWindow (magnitudes s))) := by
    have hprologue : (gated b s).fallPending =
        (noteMotionWindow (shUpdateResp (shUpdateTimebase s))).fallPending := rfl
    have hpending : (shUpdateResp (shUpdateTimebase s)).fallPending = s.fallPending := htime
    rw [hprologue]
    simp only [noteMotionWindow, haveAccel, magnitudes, hmotion]
    split_ifs with hacc
    · simp only [hacc, Bool.true_and, hpending]
    · simp only [hacc, hpending, Bool.false_and, Bool.or_false]
  exact (congrArg Aside.fallPending (aside_vitalsProcess b s)).trans hgate

theorem windowFalls_run (b : Build) (calls : List Call) :
    (haveAccel (run b calls).state && fallWindow (magnitudes (run b calls).state)) = windowFalls calls := by
  have hholds := motion_run b calls
  have hperm : (magnitudes (run b calls).state).Perm (nextWindow calls) := by
    have hmap : nextWindow calls = (Ring.recent motionWin (slotsSinceInit calls)).map AccelSlot.mag := by
      simp only [nextWindow, magsSinceInit, Ring.recent, List.map_drop, List.length_map]
    rw [hmap]
    exact hholds.live_perm.map AccelSlot.mag
  have hcount : haveAccel (run b calls).state = decide (2 ≤ (magsSinceInit calls).length) := by
    have hc := hholds.count_eq
    simp only [haveAccel, magsSinceInit, List.length_map]
    have hwin : motionWin = 25 := rfl
    apply decide_eq_decide.mpr
    omega
  rw [hcount, fallWindow_perm hperm]
  rfl

def clears : Call → Bool
  | .init => true
  | .takeFall => true
  | _ => false

def trips (b : Build) (calls : List Call) (c : Call) : Bool :=
  (pushedMags [c]).any shNoteFallMag || (processes (run b calls) c && windowFalls calls)

theorem fallPending_step (b : Build) (r : Run) (c : Call) :
    (r.step b c).state.fallPending = (!clears c && (r.state.fallPending ||
      ((pushedMags [c]).any shNoteFallMag ||
        (processes r c && (haveAccel r.state && fallWindow (magnitudes r.state)))))) := by
  cases hp : processes r c with
  | true =>
    obtain ⟨n, hs⟩ := step_of_processes b hp
    have hquiet : (pushedMags [c]).any shNoteFallMag = false ∧ clears c = false := by
      cases c <;> first | exact ⟨rfl, rfl⟩ | exact absurd hp Bool.false_ne_true
    have hsame : (haveAccel { r.state with sensSinceProcess := n } &&
        fallWindow (magnitudes { r.state with sensSinceProcess := n })) =
        (haveAccel r.state && fallWindow (magnitudes r.state)) := rfl
    rw [hs, hquiet.1, hquiet.2]
    simp only [Run.process, fallPending_vitalsProcess, hsame, Bool.true_and, Bool.false_or, Bool.not_false]
  | false =>
    rw [Bool.false_and, Bool.or_false]
    cases c with
    | sens mv t =>
      have hk : (vitalsPushSensInMvAt b r.state mv t).fallPending = r.state.fallPending := by
        unfold vitalsPushSensInMvAt noteSensEdge
        dsimp only
        split_ifs <;> rfl
      simpa [clears, pushedMags, Run.step] using hk
    | accel x y z => simp [clears, pushedMags, Run.step, vitalsPushAccel]
    | onSensSample =>
      rw [step_onSensSample_idle b hp]
      simp [clears, pushedMags]
    | process => exact absurd hp.symm Bool.false_ne_true
    | init => rfl
    | takeFall => rfl
    | dropped => simp [clears, pushedMags, Run.step, vitalsNoteSensDropped]
    | pirEvent => simp [clears, pushedMags, Run.step, vitalsPirEvent]

theorem fallPending_concat (b : Build) (calls : List Call) (c : Call) :
    (run b (calls ++ [c])).state.fallPending =
      (!clears c && ((run b calls).state.fallPending || trips b calls c)) := by
  rw [run_concat, fallPending_step, windowFalls_run, trips]

theorem fallPending_run (b : Build) (pre mid : List Call) (hpre : (run b pre).state.fallPending = false) :
    (run b (pre ++ mid)).state.fallPending = true ↔
      ∃ mid₁ c mid₂, mid = mid₁ ++ c :: mid₂ ∧ (∀ d ∈ c :: mid₂, clears d = false) ∧
        trips b (pre ++ mid₁) c = true := by
  induction mid using List.reverseRecOn with
  | nil =>
    rw [List.append_nil, hpre]
    simp
  | append_singleton mid d ih =>
    rw [← List.append_assoc, fallPending_concat, Bool.and_eq_true, Bool.or_eq_true, ih,
      Bool.not_eq_true']
    constructor
    · rintro ⟨hd, ⟨mid₁, c, mid₂, rfl, hkeep, htrip⟩ | htrip⟩
      · refine ⟨mid₁, c, mid₂ ++ [d], by simp, ?_, htrip⟩
        intro e he
        rw [← List.cons_append, List.mem_append, List.mem_singleton] at he
        rcases he with he | rfl
        · exact hkeep e he
        · exact hd
      · exact ⟨mid, d, [], rfl, by simpa using hd, htrip⟩
    · rintro ⟨mid₁, c, mid₂, he, hkeep, htrip⟩
      rcases List.eq_nil_or_concat mid₂ with rfl | ⟨mid₃, e, rfl⟩
      · obtain ⟨rfl, hde⟩ := List.append_inj' he rfl
        obtain rfl : d = c := List.singleton_inj.mp hde
        exact ⟨hkeep d List.mem_cons_self, Or.inr htrip⟩
      · rw [List.concat_eq_append, ← List.cons_append, ← List.append_assoc] at he
        obtain ⟨rfl, hde⟩ := List.append_inj' he rfl
        obtain rfl : d = e := List.singleton_inj.mp hde
        rw [List.concat_eq_append] at hkeep
        refine ⟨hkeep d (by simp), Or.inl ⟨mid₁, c, mid₃, rfl, ?_, htrip⟩⟩
        intro f hf
        apply hkeep f
        rw [← List.cons_append]
        exact List.mem_append_left _ hf

theorem QuietSamples.note {mags : List ℕ} (h : QuietSamples mags) :
    ∀ m ∈ mags, shNoteFallMag m = false := by
  intro m hm
  have himpact := h.impact m hm
  have hfree := h.freefall m hm
  simp only [shNoteFallMag, fallImpactMg, fallFreefallMg] at himpact hfree ⊢
  apply decide_eq_false
  omega

theorem QuietSamples.window {mags win : List ℕ} (h : QuietSamples mags) (hsub : win ⊆ mags)
    (hlen : win.length ≤ motionWin) (hne : win ≠ []) : fallWindow win = false := by
  obtain ⟨hmin, _⟩ := magMin_spec hne
  obtain ⟨hpeak, _⟩ := magPeak_spec hne
  have hrms : shRmsDevU16 win < fallRmsMg :=
    shRmsDevU16_lt_of_swing hlen (fun x hx => h.impact x (hsub hx))
      (fun x hx y hy => h.swing x (hsub hx) y (hsub hy))
  have hpk := h.impact _ (hsub hpeak)
  have hmn := h.freefall _ (hsub hmin)
  have hswing := h.swing _ (hsub hpeak) _ (hsub hmin)
  unfold fallWindow shNoteFallWindow
  apply decide_eq_false
  simp only [fallRmsMg, fallImpactMg, fallFreefallMg, fallSwingMg, u16] at *
  split_ifs <;> omega

/-- The window still reaches samples pushed before the calls `mid`. -/
def reachesBack (pre mid : List Call) : Bool :=
  decide ((pushedMags mid).length < (nextWindow (pre ++ mid)).length)

theorem windowFalls_fresh {pre mid : List Call} {mags : List ℕ} (h : QuietSamples mags)
    (hsub : pushedMags mid ⊆ mags) (hback : reachesBack pre mid = false) :
    windowFalls (pre ++ mid) = false := by
  have hlen : (nextWindow (pre ++ mid)).length ≤ (pushedMags mid).length :=
    not_lt.mp (of_decide_eq_false hback)
  have hsuffix : nextWindow (pre ++ mid) <:+ magsSinceInit pre ++ pushedMags mid :=
    (List.drop_suffix _ _).trans (magsSinceInit_suffix pre mid)
  have hnew : nextWindow (pre ++ mid) <:+ pushedMags mid :=
    List.suffix_of_suffix_length_le hsuffix (List.suffix_append _ _) hlen
  unfold windowFalls
  by_cases htwo : 2 ≤ (magsSinceInit (pre ++ mid)).length
  · have hcap : (nextWindow (pre ++ mid)).length = min (magsSinceInit (pre ++ mid)).length motionWin :=
      Ring.recent_length _
    have hwin : motionWin = 25 := rfl
    have hne : nextWindow (pre ++ mid) ≠ [] := by
      apply List.ne_nil_of_length_pos
      omega
    rw [h.window (fun x hx => hsub (hnew.subset hx)) (by omega) hne, Bool.and_false]
  · rw [decide_eq_false htwo, Bool.false_and]

theorem trips_of_quiet {b : Build} {pre mid : List Call} {c : Call} {mags : List ℕ} (h : QuietSamples mags)
    (hsub : pushedMags (mid ++ [c]) ⊆ mags) (htrip : trips b (pre ++ mid) c = true) :
    processes (run b (pre ++ mid)) c = true ∧ reachesBack pre mid = true ∧ windowFalls (pre ++ mid) = true := by
  rw [pushedMags_append, List.append_subset] at hsub
  have hsample : (pushedMags [c]).any shNoteFallMag = false := by
    rw [List.any_eq_false]
    intro m hm
    rw [h.note m (hsub.2 hm)]
    exact Bool.false_ne_true
  rw [trips, hsample, Bool.false_or, Bool.and_eq_true] at htrip
  obtain ⟨hproc, hfalls⟩ := htrip
  refine ⟨hproc, ?_, hfalls⟩
  by_contra hback
  rw [windowFalls_fresh h hsub.1 (Bool.eq_false_iff.mpr hback)] at hfalls
  exact absurd hfalls Bool.false_ne_true

theorem takeFall_once_iff (b : Build) (pre mid : List Call) (hmid : .takeFall ∉ mid)
    (hquiet : QuietSamples (pushedMags mid)) :
    (vitalsTakeFall (run b (pre ++ .takeFall :: mid)).state).2 = false ↔
      ∀ mid₁ c mid₂, mid = mid₁ ++ c :: mid₂ → .init ∉ mid₂ →
        processes (run b (pre ++ .takeFall :: mid₁)) c = true →
        reachesBack (pre ++ [.takeFall]) mid₁ = true →
        windowFalls (pre ++ .takeFall :: mid₁) = false := by
  have happ (xs : List Call) : pre ++ .takeFall :: xs = (pre ++ [.takeFall]) ++ xs := by simp
  have hstart : (run b (pre ++ [.takeFall])).state.fallPending = false := by
    rw [run_concat]
    rfl
  have hlatch := fallPending_run b (pre ++ [.takeFall]) mid hstart
  have htake : (vitalsTakeFall (run b (pre ++ .takeFall :: mid)).state).2 = false ↔
      ¬ (run b (pre ++ [.takeFall] ++ mid)).state.fallPending = true := by
    rw [happ, Bool.not_eq_true]
    rfl
  rw [htake, hlatch]
  constructor
  · intro hnone mid₁ c mid₂ he hinit hproc _
    by_contra hfalls
    rw [Bool.not_eq_false, happ] at hfalls
    refine hnone ⟨mid₁, c, mid₂, he, ?_, ?_⟩
    · intro d hd
      rcases List.mem_cons.mp hd with rfl | hd
      · cases d <;> first | rfl | exact absurd hproc Bool.false_ne_true
      · cases d with
        | init => exact absurd hd hinit
        | takeFall => exact absurd (by rw [he]; simp [hd]) hmid
        | _ => rfl
    · rw [happ] at hproc
      simp only [trips, hproc, hfalls, Bool.and_self, Bool.or_true]
  · rintro hcond ⟨mid₁, c, mid₂, rfl, hkeep, htrip⟩
    have hsub : pushedMags (mid₁ ++ [c]) ⊆ pushedMags (mid₁ ++ c :: mid₂) := by
      rw [List.append_cons mid₁ c mid₂, pushedMags_append _ mid₂]
      exact List.subset_append_left _ _
    obtain ⟨hproc, hback, hfalls⟩ := trips_of_quiet hquiet hsub htrip
    have hinit : .init ∉ mid₂ := fun hi =>
      absurd (hkeep .init (List.mem_cons_of_mem _ hi)) (by decide)
    have hcalm := hcond mid₁ c mid₂ rfl hinit (by rw [happ]; exact hproc) hback
    rw [happ, hfalls] at hcalm
    exact absurd hcalm (by decide)

theorem quietSamples_still : QuietSamples (pushedMags [.accel 0 0 1000, .process]) where
  impact := by decide
  freefall := by decide
  rms := by decide
  swing := by decide

theorem takeFall_once_iff_still :
    QuietSamples (pushedMags [.accel 0 0 1000, .process]) ∧
    ((vitalsTakeFall (run defaultBuild ([.init, .accel 0 0 1000] ++
        .takeFall :: [.accel 0 0 1000, .process])).state).2 = false ↔
      ∀ mid₁ c mid₂, [.accel 0 0 1000, .process] = mid₁ ++ c :: mid₂ → .init ∉ mid₂ →
        processes (run defaultBuild ([.init, .accel 0 0 1000] ++ .takeFall :: mid₁)) c = true →
        reachesBack ([.init, .accel 0 0 1000] ++ [.takeFall]) mid₁ = true →
        windowFalls ([.init, .accel 0 0 1000] ++ .takeFall :: mid₁) = false) :=
  ⟨quietSamples_still, takeFall_once_iff defaultBuild [.init, .accel 0 0 1000] [.accel 0 0 1000, .process]
    (by simp) quietSamples_still⟩

theorem takeFall_twice :
    ¬ ∀ (b : Build) (pre mid : List Call), .takeFall ∉ mid → QuietSamples (pushedMags mid) →
      (vitalsTakeFall (run b (pre ++ .takeFall :: mid)).state).2 = false := by
  intro h
  have := h defaultBuild [.init, .accel 0 0 2000] [.accel 0 0 1000, .process] (by simp) quietSamples_still
  exact absurd this (by decide)

end SmartHelmet.Vitals
