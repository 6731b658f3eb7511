import SmartHelmet.History
import SmartHelmet.PulseValidity

namespace SmartHelmet.Vitals

open Config MachineArith

inductive WindowKind where
  | active | disturbed | quiet
  deriving DecidableEq

def disturbReason (b : Build) (s : State) : HrReason :=
  let t := openCalm b (gated b s)
  shHrDisturbReason t t.status.bandEnergy (sensAbs t) t.status.sensMv

def windowKind (b : Build) (s : State) : WindowKind :=
  if (motionGate b (processPrologue s)).1 then .active
  else if disturbReason b s = .ok then .quiet
  else .disturbed

def processed (r : Run) : Call → State
  | .onSensSample => { r.state with sensSinceProcess := 0 }
  | _ => r.state

def noteWindow (b : Build) (r : Run) (c : Call) (ks : List WindowKind) : List WindowKind :=
  match c with
  | .init => []
  | _ => if processes r c then windowKind b (processed r c) :: ks else ks

def windowsSinceInit (b : Build) (calls : List Call) : List WindowKind :=
  History.after (Run.step b) (noteWindow b) Run.boot [] calls

theorem windowsSinceInit_concat (b : Build) (calls : List Call) (c : Call) :
    windowsSinceInit b (calls ++ [c]) = noteWindow b (run b calls) c (windowsSinceInit b calls) :=
  History.after_concat (Run.step b) (noteWindow b) Run.boot [] calls c

theorem step_processed (b : Build) {r : Run} {c : Call} (h : processes r c = true) :
    r.step b c = r.process b (processed r c) := by
  cases c with
  | process => rfl
  | onSensSample => exact if_pos (of_decide_eq_true h)
  | _ => exact absurd h Bool.false_ne_true

theorem noteWindow_processed (b : Build) {r : Run} {c : Call} (ks : List WindowKind)
    (h : processes r c = true) : noteWindow b r c ks = windowKind b (processed r c) :: ks := by
  cases c with
  | process => rfl
  | onSensSample => exact if_pos h
  | _ => exact absurd h Bool.false_ne_true

/-- Where `hr_win_left` stands: it is at least five after a disturbance, an active window or a
warm-up window, and every settled window takes one away. -/
structure HoldoffKept (left calm : ℕ) (ks : List WindowKind) : Prop where
  calm_le : calm ≤ ks.length
  started : ks ≠ [] → 7 ≤ left + max ks.length 2
  active : ∀ i, ks[i]? = some .active → calm ≤ i ∧ 7 ≤ left + max i 2
  disturbed : ∀ i, ks[i]? = some .disturbed → 4 ≤ left + i

theorem shHrDisturb_left (s : State) (win : ℕ) :
    win ≤ (shHrDisturb s win).hrWinLeft ∧ s.hrWinLeft ≤ (shHrDisturb s win).hrWinLeft := by
  simp only [shHrDisturb]
  split_ifs <;> omega

theorem armHoldoff_left (s : State) :
    s.hrWinLeft ≤ (armHoldoff s).hrWinLeft ∧
      (shHrDisturbReason s s.status.bandEnergy (sensAbs s) s.status.sensMv ≠ .ok →
        5 ≤ (armHoldoff s).hrWinLeft) := by
  obtain ⟨harm, hkeep⟩ := shHrDisturb_left s hrDisturbHoldoffWin
  unfold armHoldoff
  split_ifs with hr
  · exact ⟨hkeep, fun _ => harm⟩
  · exact ⟨le_rfl, fun h => absurd h hr⟩

theorem processPulse_left (b : Build) (s : State) :
    let t := armHoldoff (openCalm b s)
    5 ≤ (processPulse b s).hrWinLeft ∨
      (3 ≤ (processPulse b s).calmWindows ∧ (processPulse b s).hrWinLeft = t.hrWinLeft - 1) := by
  intro t
  obtain ⟨hcalm, _⟩ := processPulse_guards b s
  have hkeep := (armHoldoff_keeps (openCalm b s)).1
  by_cases hw : t.calmWindows < calmWindowsMin ∨ (t.sens.count < bandWin / 4 ∧ ¬ haveAccel t)
  · left
    have ht : processPulse b s = processWarm t := if_pos hw
    let warm := shHrDisturb { t with status := { t.status with trend := .unknown, valid := false } }
      hrDisturbHoldoffWin
    have hwarm : (processWarm t).hrWinLeft = warm.hrWinLeft :=
      congrArg Guards.hrWinLeft (guards_shFuseHr warm 0 0 0 0 0 false .warm)
    rw [ht, hwarm]
    exact (shHrDisturb_left _ hrDisturbHoldoffWin).1
  · right
    have ht : processPulse b s = processSettled t t.status.bandEnergy (sensAbs t) := if_neg hw
    refine ⟨?_, ?_⟩
    · have hmin := not_lt.mp (not_or.mp hw).1
      change calmWindowsMin ≤ (armHoldoff (openCalm b s)).calmWindows at hmin
      rw [hkeep] at hmin
      rw [hcalm]
      exact hmin
    · rw [ht]
      exact congrArg Guards.hrWinLeft (guards_processSettled t t.status.bandEnergy (sensAbs t)).1

theorem processPulse_armed {b : Build} {s : State} (h : (processPulse b s).status.hrValid = true) :
    (armHoldoff (openCalm b s)).hrWinLeft = 0 := by
  let t := armHoldoff (openCalm b s)
  by_cases hw : t.calmWindows < calmWindowsMin ∨ (t.sens.count < bandWin / 4 ∧ ¬ haveAccel t)
  · have ht : processPulse b s = processWarm t := if_pos hw
    rw [ht] at h
    exact absurd (shFuseHr_valid h).1 Bool.false_ne_true
  · have ht : processPulse b s = processSettled t t.status.bandEnergy (sensAbs t) := if_neg hw
    rw [ht] at h
    exact (processSettled_valid h).1

theorem processActive_left (s : State) :
    (processActive s).calmWindows = 0 ∧ 5 ≤ (processActive s).hrWinLeft := by
  constructor
  · rfl
  · exact (shHrDisturb_left _ hrDisturbHoldoffWin).1

theorem processCalm_left (b : Build) (s : State) :
    (processCalm b s).calmWindows = (processPulse b s).calmWindows ∧
      (processCalm b s).hrWinLeft = (processPulse b s).hrWinLeft ∧
      (processCalm b s).status.hrValid = (processPulse b s).status.hrValid := by
  obtain ⟨t, change, dev, pct, he⟩ := processCalm_eq b s
  rw [he]
  generalize processPulse b s = p
  exact ⟨rfl, rfl, rfl⟩

theorem vitalsProcess_left (b : Build) (s : State) :
    let s' := vitalsProcess b s
    (windowKind b s = .active ∧ s'.calmWindows = 0 ∧ 5 ≤ s'.hrWinLeft ∧ s'.status.hrValid = false) ∨
    (windowKind b s ≠ .active ∧ s'.calmWindows = incSat 0xff s.calmWindows ∧
      (5 ≤ s'.hrWinLeft ∨ 3 ≤ s'.calmWindows ∧ s.hrWinLeft ≤ s'.hrWinLeft + 1 ∧
        (windowKind b s = .disturbed → 4 ≤ s'.hrWinLeft))) := by
  intro s'
  rcases vitalsProcess_cases b s with ⟨hgate, h⟩ | ⟨hgate, h⟩
  · left
    have hs : s' = processActive (gated b s) := h
    rw [hs]
    obtain ⟨hcalm, hleft⟩ := processActive_left (gated b s)
    exact ⟨if_pos hgate, hcalm, hleft, rfl⟩
  · right
    have hs : s' = processCalm b (gated b s) := h
    have hkind : windowKind b s = if disturbReason b s = .ok then .quiet else .disturbed :=
      if_neg (by rw [hgate]; exact Bool.false_ne_true)
    have hg : guards (gated b s) = guards s := guards_processPrologue s
    have hcw : (gated b s).calmWindows = s.calmWindows := congrArg Guards.calmWindows hg
    have hlw : (gated b s).hrWinLeft = s.hrWinLeft := congrArg Guards.hrWinLeft hg
    obtain ⟨hcalm, hleft, _⟩ := processCalm_left b (gated b s)
    have hpulse := (processPulse_guards b (gated b s)).1
    obtain ⟨hkeep, harm⟩ := armHoldoff_left (openCalm b (gated b s))
    change (gated b s).hrWinLeft ≤ _ at hkeep
    rw [hs]
    refine ⟨?_, ?_, ?_⟩
    · rw [hkind]
      split_ifs <;> decide
    · rw [hcalm, hpulse, hcw]
    · rw [hcalm, hleft]
      rcases processPulse_left b (gated b s) with h5 | ⟨h3, hdec⟩
      · exact Or.inl h5
      · refine Or.inr ⟨h3, ?_, ?_⟩
        · omega
        · intro hd
          rw [hkind] at hd
          have hne : disturbReason b s ≠ .ok := by
            intro hok
            rw [if_pos hok] at hd
            exact absurd hd (by decide)
          have := harm hne
          omega

theorem vitalsProcess_valid {b : Build} {s : State} (h : (vitalsProcess b s).status.hrValid = true) :
    windowKind b s = .quiet ∧ s.hrWinLeft = 0 ∧ 3 ≤ (vitalsProcess b s).calmWindows := by
  rcases vitalsProcess_cases b s with ⟨hgate, hs⟩ | ⟨hgate, hs⟩
  · rw [hs] at h
    exact absurd (show false = true from h) Bool.false_ne_true
  · obtain ⟨hcalm, _, hvalid⟩ := processCalm_left b (gated b s)
    rw [hs, hvalid] at h
    have hlw : (gated b s).hrWinLeft = s.hrWinLeft :=
      congrArg Guards.hrWinLeft (guards_processPrologue s)
    obtain ⟨hkeep, harm⟩ := armHoldoff_left (openCalm b (gated b s))
    change (gated b s).hrWinLeft ≤ _ at hkeep
    have hzero : (armHoldoff (openCalm b (gated b s))).hrWinLeft = 0 := processPulse_armed h
    refine ⟨?_, by omega, ?_⟩
    · have hok : disturbReason b s = .ok := by
        by_contra hne
        have := harm hne
        omega
      rw [windowKind, hgate, if_neg Bool.false_ne_true, if_pos hok]
    · rw [hs, hcalm]
      exact (processPulse_valid h).1

theorem HoldoffKept.nil (left : ℕ) : HoldoffKept left 0 [] where
  calm_le := le_rfl
  started h := absurd rfl h
  active i h := absurd h (by simp)
  disturbed i h := absurd h (by simp)

theorem HoldoffKept.window {b : Build} {s : State} {ks : List WindowKind}
    (h : HoldoffKept s.hrWinLeft s.calmWindows ks) :
    HoldoffKept (vitalsProcess b s).hrWinLeft (vitalsProcess b s).calmWindows (windowKind b s :: ks) := by
  obtain ⟨hle, hstart, hact, hdis⟩ := h
  have hinc : incSat 0xff s.calmWindows ≤ s.calmWindows + 1 := by
    unfold incSat
    split_ifs <;> omega
  rcases vitalsProcess_left b s with ⟨hk, hcalm, hleft, _⟩ | ⟨hk, hcalm, hleft⟩
  · -- an active window re-arms the holdoff and clears the calm count
    constructor
    · omega
    · intro _
      omega
    · intro i _
      omega
    · intro i hi
      cases i with
      | zero =>
        rw [List.getElem?_cons_zero, hk] at hi
        exact absurd hi (by simp)
      | succ i =>
        have := hdis i hi
        omega
  · rw [hcalm] at hleft ⊢
    constructor
    · rw [List.length_cons]
      omega
    · intro _
      rw [List.length_cons]
      rcases hleft with h5 | ⟨h3, hdec, _⟩
      · omega
      · have hne : ks ≠ [] := by
          rintro rfl
          rw [List.length_nil] at hle
          omega
        have := hstart hne
        have := List.length_pos_iff.mpr hne
        omega
    · intro i hi
      cases i with
      | zero =>
        rw [List.getElem?_cons_zero] at hi
        exact absurd (Option.some.inj hi) hk
      | succ i =>
        obtain ⟨hci, hli⟩ := hact i hi
        rcases hleft with h5 | ⟨h3, hdec, _⟩
        · omega
        · omega
    · intro i hi
      cases i with
      | zero =>
        rw [List.getElem?_cons_zero] at hi
        rcases hleft with h5 | ⟨_, _, h4⟩
        · omega
        · have := h4 (Option.some.inj hi)
          omega
      | succ i =>
        have := hdis i hi
        rcases hleft with h5 | ⟨_, hdec, _⟩
        · omega
        · omega

theorem holdoffKept_step (b : Build) (r : Run) (ks : List WindowKind) (c : Call)
    (h : HoldoffKept r.state.hrWinLeft r.state.calmWindows ks) :
    HoldoffKept (r.step b c).state.hrWinLeft (r.step b c).state.calmWindows
      (noteWindow b r c ks) := by
  cases hp : processes r c with
  | true =>
    rw [step_processed b hp, noteWindow_processed b ks hp]
    apply HoldoffKept.window
    have hkeep : (processed r c).hrWinLeft = r.state.hrWinLeft ∧
        (processed r c).calmWindows = r.state.calmWindows := by
      cases c with
      | _ => exact ⟨rfl, rfl⟩
    rw [hkeep.1, hkeep.2]
    exact h
  | false =>
    cases c with
    | init => exact HoldoffKept.nil _
    | sens mv t =>
      have hk : (vitalsPushSensInMvAt b r.state mv t).hrWinLeft = r.state.hrWinLeft ∧
          (vitalsPushSensInMvAt b r.state mv t).calmWindows = r.state.calmWindows := by
        unfold vitalsPushSensInMvAt noteSensEdge
        dsimp only
        split_ifs <;> exact ⟨rfl, rfl⟩
      change HoldoffKept (vitalsPushSensInMvAt b r.state mv t).hrWinLeft
        (vitalsPushSensInMvAt b r.state mv t).calmWindows ks
      rw [hk.1, hk.2]
      exact h
    | onSensSample =>
      rw [step_onSensSample_idle b hp]
      have hks : noteWindow b r .onSensSample ks = ks :=
        if_neg (by rw [hp]; exact Bool.false_ne_true)
      rw [hks]
      exact h
    | process => exact absurd hp.symm Bool.false_ne_true
    | _ => exact h

theorem holdoffKept_run (b : Build) (calls : List Call) :
    HoldoffKept (run b calls).state.hrWinLeft (run b calls).state.calmWindows
      (windowsSinceInit b calls) :=
  History.invariant (P := fun r ks => HoldoffKept r.state.hrWinLeft r.state.calmWindows ks) (Run.step b)
    (noteWindow b) (HoldoffKept.nil _) (holdoffKept_step b) calls

theorem HoldoffKept.settled {calm : ℕ} {ks : List WindowKind} (h : HoldoffKept 0 calm ks)
    (hcalm : 2 ≤ calm) :
    8 ≤ (.quiet :: ks).length ∧ .active ∉ (WindowKind.quiet :: ks).take 8 ∧
      .disturbed ∉ (WindowKind.quiet :: ks).take 5 := by
  obtain ⟨hle, hstart, hact, hdis⟩ := h
  have hne : ks ≠ [] := by
    rintro rfl
    rw [List.length_nil] at hle
    omega
  have hlen := hstart hne
  refine ⟨?_, ?_, ?_⟩
  · rw [List.length_cons]
    omega
  · intro hmem
    obtain ⟨i, hi, he⟩ := List.mem_take_iff_getElem.mp hmem
    cases i with
    | zero => exact absurd he (by simp)
    | succ i =>
      have hsome : ks[i]? = some .active := List.getElem?_eq_some_iff.mpr ⟨by grind, he⟩
      have := hact i hsome
      omega
  · intro hmem
    obtain ⟨i, hi, he⟩ := List.mem_take_iff_getElem.mp hmem
    cases i with
    | zero => exact absurd he (by simp)
    | succ i =>
      have hsome : ks[i]? = some .disturbed := List.getElem?_eq_some_iff.mpr ⟨by grind, he⟩
      have := hdis i hsome
      omega

theorem holdoff_respected (b : Build) (calls : List Call) (c : Call) :
    let ks := windowsSinceInit b (calls ++ [c])
    processes (run b calls) c = true → (run b (calls ++ [c])).state.status.hrValid = true →
      8 ≤ ks.length ∧ .active ∉ ks.take 8 ∧ .disturbed ∉ ks.take 5 := by
  intro ks hp hvalid
  have hks : ks = windowKind b (processed (run b calls) c) :: windowsSinceInit b calls := by
    rw [← noteWindow_processed b _ hp]
    exact windowsSinceInit_concat b calls c
  rw [run_concat, step_processed b hp] at hvalid
  obtain ⟨hquiet, hleft, hcalm⟩ := vitalsProcess_valid hvalid
  have hkept : HoldoffKept (processed (run b calls) c).hrWinLeft
      (processed (run b calls) c).calmWindows (windowsSinceInit b calls) := by
    cases c with
    | _ => exact holdoffKept_run b calls
  rcases vitalsProcess_left b (processed (run b calls) c) with ⟨hk, _⟩ | ⟨_, hinc, _⟩
  · rw [hquiet] at hk
    exact absurd hk (by decide)
  · rw [hks, hquiet]
    rw [hleft] at hkept
    apply hkept.settled
    rw [hinc] at hcalm
    unfold incSat at hcalm
    split_ifs at hcalm <;> omega

theorem holdoff_respected_pulse :
    8 ≤ (windowsSinceInit defaultBuild (pulseCalls ++ [.process])).length ∧
      .active ∉ (windowsSinceInit defaultBuild (pulseCalls ++ [.process])).take 8 ∧
      .disturbed ∉ (windowsSinceInit defaultBuild (pulseCalls ++ [.process])).take 5 :=
  holdoff_respected defaultBuild pulseCalls .process rfl pulseCalls_valid

end SmartHelmet.Vitals
