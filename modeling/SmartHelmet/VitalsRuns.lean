import SmartHelmet.WindowFrame

namespace SmartHelmet.Vitals

open Config MachineArith

inductive Call where
  | init
  | sens (mv : UInt16) (timeUs : UInt32)
  | dropped
  | accel (x y z : Int16)
  | pirEvent
  | onSensSample
  | process
  | takeFall

/-- What a run leaves behind: its restarts and, for each window, whether the motion gate was
active on the state before it and the status it published. -/
inductive Mark where
  | restart
  | window (active : Bool) (st : Status)

def callStep (b : Build) (s : State) : Call → State
  | .init => vitalsInit s
  | .sens mv timeUs => vitalsPushSensInMvAt b s mv timeUs
  | .dropped => vitalsNoteSensDropped s
  | .accel x y z => vitalsPushAccel b s x y z
  | .pirEvent => vitalsPirEvent s
  | .onSensSample => vitalsOnSensSample b s
  | .process => vitalsProcess b s
  | .takeFall => (vitalsTakeFall s).1

def callReply (s : State) : Call → Option Bool
  | .takeFall => some (vitalsTakeFall s).2
  | _ => none

def replies (b : Build) (s : State) : List Call → List (Status × Option Bool)
  | [] => []
  | c :: calls => ((callStep b s c).status, callReply s c) :: replies b (callStep b s c) calls

structure Run where
  state : State
  marks : List Mark

def Run.boot : Run := ⟨Vitals.boot, []⟩

def Run.process (b : Build) (r : Run) (s : State) : Run :=
  ⟨vitalsProcess b s, .window (motionGate b (processPrologue s)).1 (vitalsProcess b s).status :: r.marks⟩

def Run.step (b : Build) (r : Run) : Call → Run
  | .init => ⟨vitalsInit r.state, .restart :: r.marks⟩
  | .sens mv timeUs => { r with state := vitalsPushSensInMvAt b r.state mv timeUs }
  | .dropped => { r with state := vitalsNoteSensDropped r.state }
  | .accel x y z => { r with state := vitalsPushAccel b r.state x y z }
  | .pirEvent => { r with state := vitalsPirEvent r.state }
  | .onSensSample =>
    if incSat 0xff r.state.sensSinceProcess ≥ motionWin then
      r.process b { r.state with sensSinceProcess := 0 }
    else { r with state := { r.state with sensSinceProcess := incSat 0xff r.state.sensSinceProcess } }
  | .process => r.process b r.state
  | .takeFall => { r with state := (vitalsTakeFall r.state).1 }

def Run.steps (b : Build) (r : Run) (calls : List Call) : Run := calls.foldl (Run.step b) r

def run (b : Build) (calls : List Call) : Run := Run.boot.steps b calls

def processes (r : Run) : Call → Bool
  | .process => true
  | .onSensSample => decide (incSat 0xff r.state.sensSinceProcess ≥ motionWin)
  | _ => false

theorem run_concat (b : Build) (calls : List Call) (c : Call) :
    run b (calls ++ [c]) = (run b calls).step b c := by
  simp only [run, Run.steps, List.foldl_append, List.foldl_cons, List.foldl_nil]

theorem step_onSensSample_state (b : Build) (r : Run) :
    (r.step b .onSensSample).state = vitalsOnSensSample b r.state := by
  unfold Run.step vitalsOnSensSample
  dsimp only
  split_ifs <;> rfl

theorem step_of_processes (b : Build) {r : Run} {c : Call} (h : processes r c = true) :
    ∃ n, r.step b c = r.process b { r.state with sensSinceProcess := n } := by
  cases c with
  | process => exact ⟨r.state.sensSinceProcess, rfl⟩
  | onSensSample => exact ⟨0, if_pos (of_decide_eq_true h)⟩
  | _ => exact absurd h Bool.false_ne_true

theorem step_onSensSample_idle (b : Build) {r : Run} (h : processes r .onSensSample = false) :
    r.step b .onSensSample =
      { r with state := { r.state with sensSinceProcess := incSat 0xff r.state.sensSinceProcess } } :=
  if_neg (of_decide_eq_false h)

theorem processes_of_window {b : Build} {r : Run} {c : Call} {active : Bool} {st : Status}
    (h : (r.step b c).marks = .window active st :: r.marks) : processes r c = true := by
  cases hp : processes r c with
  | true => rfl
  | false =>
    have hne : Mark.window active st :: r.marks ≠ r.marks := List.cons_ne_self _ _
    cases c with
    | init => exact absurd (List.cons.inj h).1 (by simp)
    | onSensSample =>
      rw [step_onSensSample_idle b hp] at h
      exact absurd h.symm hne
    | process => exact hp.symm
    | _ => exact absurd h.symm hne

theorem run_induction {b : Build} {P : Run → Prop} (start : P Run.boot)
    (step : ∀ r c, P r → P (r.step b c)) (calls : List Call) : P (run b calls) := by
  unfold run Run.steps
  induction calls using List.reverseRecOn with
  | nil => exact start
  | append_singleton calls c ih => rw [List.foldl_append]; exact step _ c ih

end SmartHelmet.Vitals
