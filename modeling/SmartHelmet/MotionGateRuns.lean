import SmartHelmet.FallLatch
import SmartHelmet.HoldoffRuns

namespace SmartHelmet.Vitals

open Config MachineArith RingBuffer

def largestStep (p q : AccelSlot) : ℕ := max (max (p.x - q.x).natAbs (p.y - q.y).natAbs) (p.z - q.z).natAbs

/-- The two newest of the samples differ by the threshold on some axis. -/
def moves (thresh : ℕ) (held : List AccelSlot) : Bool :=
  match held.reverse with
  | p :: q :: _ => decide (thresh ≤ largestStep p q)
  | _ => false

/-- The samples since the last restart and, newest first, which windows moved. -/
structure Moved where
  slots : List AccelSlot
  windows : List Bool

def noteMoved (b : Build) (r : Run) (c : Call) (g : Moved) : Moved where
  slots := noteSlot g.slots c
  windows := match c with
    | .init => []
    | _ => if processes r c then moves (motionThresh b r.state) g.slots :: g.windows else g.windows

def movedSinceInit (b : Build) (calls : List Call) : Moved :=
  History.after (Run.step b) (noteMoved b) Run.boot ⟨[], []⟩ calls

def AccelSlot.InRange (p : AccelSlot) : Prop :=
  (-32768 ≤ p.x ∧ p.x < 32768) ∧ (-32768 ≤ p.y ∧ p.y < 32768) ∧ (-32768 ≤ p.z ∧ p.z < 32768)

/-- How gate and counter stand to the windows: an open gate counts the still ones since the last
that moved, a closed gate has seen three of them. -/
structure GateKept (s : State) (g : Moved) : Prop where
  holds : s.motion.Holds g.slots
  range : ∀ p ∈ g.slots, p.InRange
  active : s.status.motion = .active →
    s.stillRun < 3 ∧ ∃ older, g.windows = List.replicate s.stillRun false ++ true :: older
  calm : s.status.motion = .calm → true ∉ g.windows.take 3

section Window

variable {b : Build} {s : State} {g : Moved}

theorem latestStep_eq (h : GateKept s g) {p q : AccelSlot} {older : List AccelSlot}
    (hslots : g.slots.reverse = p :: q :: older) : latestStep s = largestStep p q := by
  have hback {k : ℕ} {slot : AccelSlot} (hk : 0 < k) (hk2 : k ≤ 2) (hget : g.slots.reverse[k - 1]? = some slot) :
      s.motion.back k = slot := by
    have hlen : g.slots.length = older.length + 2 := by
      rw [← List.length_reverse, hslots]
      rfl
    have heq := h.holds.back_eq hk (hk2.trans (by decide)) (by omega)
    rw [List.getElem?_reverse (by omega), show g.slots.length - 1 - (k - 1) = g.slots.length - k by omega,
      ← heq] at hget
    exact Option.some.inj hget
  have hlast : s.motion.back 1 = p := hback (by norm_num) (by norm_num) (by rw [hslots]; rfl)
  have hprev : s.motion.back 2 = q := hback (by norm_num) (by norm_num) (by rw [hslots]; rfl)
  have hmem {slot : AccelSlot} (hslot : slot ∈ g.slots.reverse) : slot.InRange :=
    h.range slot (List.mem_reverse.mp hslot)
  obtain ⟨hpx, hpy, hpz⟩ := hmem (show p ∈ g.slots.reverse by rw [hslots]; simp)
  obtain ⟨hqx, hqy, hqz⟩ := hmem (show q ∈ g.slots.reverse by rw [hslots]; simp)
  simp only [latestStep, hlast, hprev, largestStep]
  rw [axisStep_eq_natAbs hpx hqx, axisStep_eq_natAbs hpy hqy, axisStep_eq_natAbs hpz hqz]

theorem moves_iff (h : GateKept s g) (thresh : ℕ) :
    (haveAccel s = true ∧ gateRms s ≥ thresh) ↔ moves thresh g.slots = true := by
  have hcount := h.holds.count_eq
  have hwin : motionWin = 25 := rfl
  cases hrev : g.slots.reverse with
  | nil =>
    have hlen : g.slots.length = 0 := by rw [← List.length_reverse, hrev]; rfl
    have hnone : haveAccel s = false := decide_eq_false (by omega)
    simp [moves, hrev, hnone]
  | cons p rest =>
    cases rest with
    | nil =>
      have hlen : g.slots.length = 1 := by rw [← List.length_reverse, hrev]; rfl
      have hnone : haveAccel s = false := decide_eq_false (by omega)
      simp [moves, hrev, hnone]
    | cons q older =>
      have hlen : g.slots.length = older.length + 2 := by rw [← List.length_reverse, hrev]; rfl
      have htwo : haveAccel s = true := decide_eq_true (by omega)
      simp only [moves, hrev, gateRms, htwo, if_true, true_and, latestStep_eq h hrev, ge_iff_le, decide_eq_true_eq]

theorem stillRun_processPrologue (s : State) : (processPrologue s).stillRun = s.stillRun := by
  have htime : (shUpdateTimebase s).stillRun = s.stillRun := by
    unfold shUpdateTimebase
    dsimp only
    split_ifs <;> rfl
  have hmotion (t : State) : (noteMotionWindow t).stillRun = t.stillRun := by
    unfold noteMotionWindow
    split_ifs <;> rfl
  exact (hmotion (shUpdateResp (shUpdateTimebase s))).trans htime

theorem gate_eq (h : GateKept s g) : motionGate b (processPrologue s) =
    if moves (motionThresh b s) g.slots then (true, 0)
    else if s.status.motion = .active then (decide (incSat 255 s.stillRun < 3), incSat 255 s.stillRun)
    else (false, 0) := by
  have hsig := signals_processPrologue s
  have hmotion : (processPrologue s).motion = s.motion := congrArg Signals.motion hsig
  have hadapt : (processPrologue s).adapt = s.adapt := congrArg Signals.adapt hsig
  have hstatus : (processPrologue s).status.motion = s.status.motion :=
    congrArg Guards.motion (guards_processPrologue s)
  have hmoves := moves_iff h (motionThresh b s)
  have hgate : (haveAccel (processPrologue s) = true ∧
      gateRms (processPrologue s) ≥ motionThresh b (processPrologue s)) ↔ moves (motionThresh b s) g.slots = true := by
    rw [← hmoves]
    simp only [haveAccel, gateRms, latestStep, motionThresh, adaptRunning, hmotion, hadapt]
    exact Iff.rfl
  unfold motionGate
  simp only [hgate, hstatus, stillRun_processPrologue]
  rfl

theorem gate_vitalsProcess (b : Build) (s : State) :
    ((vitalsProcess b s).status.motion = .active ↔ (motionGate b (processPrologue s)).1 = true) ∧
      (vitalsProcess b s).stillRun = (motionGate b (processPrologue s)).2 := by
  refine ⟨?_, congrArg Aside.stillRun (aside_vitalsProcess b s)⟩
  rcases vitalsProcess_cases b s with ⟨hgate, h⟩ | ⟨hgate, h⟩
  · rw [h, hgate]
    exact iff_of_true rfl rfl
  · rw [(calmWindows_of_calm hgate).1, hgate]
    simp

theorem calm_of_not_active (s : State) (h : s.status.motion ≠ .active) : s.status.motion = .calm := by
  cases hm : s.status.motion with
  | calm => rfl
  | active => exact absurd hm h

theorem GateKept.window (h : GateKept s g) :
    GateKept (vitalsProcess b s) { g with windows := moves (motionThresh b s) g.slots :: g.windows } := by
  have hmotion : (vitalsProcess b s).motion = s.motion := congrArg Signals.motion (signals_vitalsProcess b s)
  obtain ⟨hactive, hstill⟩ := gate_vitalsProcess b s
  rw [gate_eq h] at hactive hstill
  refine ⟨by rw [hmotion]; exact h.holds, h.range, fun hopen => ?_, fun hcalm => ?_⟩
  · have hgate := hactive.mp hopen
    by_cases hmoves : moves (motionThresh b s) g.slots = true
    · simp only [hmoves, if_true] at hstill ⊢
      exact ⟨by omega, g.windows, by rw [hstill]; rfl⟩
    · by_cases hwas : s.status.motion = .active
      · obtain ⟨hlt, older, hwindows⟩ := h.active hwas
        have hinc : incSat 255 s.stillRun = s.stillRun + 1 := if_pos (by omega)
        simp only [hmoves, hwas, if_true, hinc, Bool.false_eq_true, if_false, decide_eq_true_eq] at hgate hstill
        refine ⟨by omega, older, ?_⟩
        rw [hstill, hwindows, List.replicate_succ, List.cons_append, Bool.eq_false_iff.mpr hmoves]
      · simp [hmoves, hwas] at hgate
  · have hshut : ¬(vitalsProcess b s).status.motion = .active := by
      rw [hcalm]
      exact MotionGate.noConfusion
    rw [hactive] at hshut
    by_cases hmoves : moves (motionThresh b s) g.slots = true
    · simp [hmoves] at hshut
    · rw [Bool.eq_false_iff.mpr hmoves]
      by_cases hwas : s.status.motion = .active
      · obtain ⟨hlt, older, hwindows⟩ := h.active hwas
        have hinc : incSat 255 s.stillRun = s.stillRun + 1 := if_pos (by omega)
        simp only [hmoves, hwas, if_true, hinc, Bool.false_eq_true, if_false, decide_eq_true_eq] at hshut
        obtain htwo : s.stillRun = 2 := by omega
        rw [hwindows, htwo]
        simp
      · have hquiet := h.calm (calm_of_not_active s hwas)
        intro hmem
        rw [List.take_succ_cons, List.mem_cons] at hmem
        rcases hmem with heq | hmem
        · exact absurd heq Bool.false_ne_true.symm
        · exact hquiet ((List.take_subset_take_left g.windows (by norm_num)) hmem)

end Window

section Runs

theorem range_noteSlot {held : List AccelSlot} (h : ∀ p ∈ held, p.InRange) (c : Call) :
    ∀ p ∈ noteSlot held c, p.InRange := by
  cases c with
  | init => exact fun p hp => absurd hp List.not_mem_nil
  | accel x y z =>
    intro p hp
    rcases List.mem_append.mp hp with hp | hp
    · exact h p hp
    · rw [List.mem_singleton.mp hp]
      exact ⟨⟨x.le_toInt, x.toInt_lt⟩, ⟨y.le_toInt, y.toInt_lt⟩, ⟨z.le_toInt, z.toInt_lt⟩⟩
  | _ => exact h

theorem GateKept.of_eq {s t : State} {g : Moved} (h : GateKept s g) {slots : List AccelSlot}
    (hslots : t.motion.Holds slots) (hrange : ∀ p ∈ slots, p.InRange) (hstatus : t.status.motion = s.status.motion)
    (hstill : t.stillRun = s.stillRun) : GateKept t { g with slots := slots } := by
  refine ⟨hslots, hrange, fun hopen => ?_, fun hcalm => ?_⟩
  · rw [hstill]
    exact h.active (hstatus ▸ hopen)
  · exact h.calm (hstatus ▸ hcalm)

theorem gateKept_step (b : Build) (r : Run) (g : Moved) (c : Call) (h : GateKept r.state g) :
    GateKept (r.step b c).state (noteMoved b r c g) := by
  have hslots := motion_step b r c g.slots h.holds
  have hrange := range_noteSlot h.range c
  cases hp : processes r c with
  | true =>
    have hkept : GateKept (processed r c) g := by
      cases c with
      | onSensSample => exact ⟨h.holds, h.range, h.active, h.calm⟩
      | _ => exact h
    have hthresh : motionThresh b (processed r c) = motionThresh b r.state := by
      cases c with
      | _ => rfl
    have hnote : noteMoved b r c g = { g with windows := moves (motionThresh b r.state) g.slots :: g.windows } := by
      cases c with
      | process => rfl
      | onSensSample =>
        simp only [noteMoved, noteSlot, hp, if_true]
      | _ => exact absurd hp Bool.false_ne_true
    rw [hnote, step_processed b hp, ← hthresh]
    exact hkept.window
  | false =>
    cases c with
    | init => exact ⟨hslots, hrange, fun hopen => MotionGate.noConfusion hopen, fun _ => List.not_mem_nil⟩
    | sens mv t =>
      have hpush : (vitalsPushSensInMvAt b r.state mv t).status.motion = r.state.status.motion ∧
          (vitalsPushSensInMvAt b r.state mv t).stillRun = r.state.stillRun := by
        unfold vitalsPushSensInMvAt noteSensEdge
        dsimp only
        split_ifs <;> exact ⟨rfl, rfl⟩
      exact h.of_eq hslots hrange hpush.1 hpush.2
    | onSensSample =>
      rw [step_onSensSample_idle b hp] at hslots ⊢
      have hnote : noteMoved b r .onSensSample g = g := by
        simp only [noteMoved, noteSlot, hp, Bool.false_eq_true, if_false]
      rw [hnote]
      exact h.of_eq hslots hrange rfl rfl
    | process => exact absurd hp.symm Bool.false_ne_true
    | _ => exact h.of_eq hslots hrange rfl rfl

theorem gateKept_run (b : Build) (calls : List Call) : GateKept (run b calls).state (movedSinceInit b calls) := by
  have hstart : GateKept Run.boot.state ⟨[], []⟩ :=
    ⟨Ring.holds_zeroed _ _, fun p hp => absurd hp List.not_mem_nil, fun hopen => MotionGate.noConfusion hopen,
      fun _ => List.not_mem_nil⟩
  exact History.invariant (P := fun r g => GateKept r.state g) (Run.step b) (noteMoved b) hstart
    (gateKept_step b) calls

/-- Motion is published as active exactly when one of the last three windows since the restart
moved. -/
theorem motion_active_iff_moved (b : Build) (calls : List Call) :
    (run b calls).state.status.motion = .active ↔ true ∈ (movedSinceInit b calls).windows.take 3 := by
  have h := gateKept_run b calls
  constructor
  · intro hopen
    obtain ⟨hlt, older, hwindows⟩ := h.active hopen
    have hcases : (run b calls).state.stillRun = 0 ∨ (run b calls).state.stillRun = 1 ∨
        (run b calls).state.stillRun = 2 := by omega
    rw [hwindows]
    rcases hcases with hn | hn | hn <;> simp [hn]
  · intro hmem
    by_contra hshut
    exact h.calm (calm_of_not_active _ hshut) hmem

end Runs

end SmartHelmet.Vitals
