import SmartHelmet.HrFusion
import SmartHelmet.History

namespace SmartHelmet.Vitals

open Config MachineArith

/-- No caller of `shFuseHr` passes `hr_delta` as the reason found before. -/
inductive GuardCall where
  | fuse (bpmPeak bpmFft bpmAc peaks fftMag : ℕ) (allowValid : Bool) (preReason : HrReason)
      (hpre : preReason ≠ .delta)
  | disturb (holdoffWin : ℕ)

def GuardCall.isFuse : GuardCall → Bool
  | .fuse .. => true
  | .disturb _ => false

def guardStep (s : State) : GuardCall → State
  | .fuse bpmPeak bpmFft bpmAc peaks fftMag allowValid preReason _ =>
    shFuseHr s bpmPeak bpmFft bpmAc peaks fftMag allowValid preReason
  | .disturb holdoffWin => shHrDisturb s holdoffWin

def guardRun (s : State) (calls : List GuardCall) : State := calls.foldl guardStep (vitalsInit s)

def validWindow (s : State) (c : GuardCall) : Bool := c.isFuse && (guardStep s c).status.hrValid

def resyncs (s : State) (c : GuardCall) : Bool := c.isFuse && s.lastHrValidHave && !(guardStep s c).lastHrValidHave

def dropsReference (s : State) (c : GuardCall) : Bool := !c.isFuse || resyncs s c

def agrees (bpmPeak bpmFft : ℕ) : Bool :=
  let avg := (bpmPeak + bpmFft) / 2
  decide (bpmPeak ≠ 0 ∧ bpmFft ≠ 0 ∧ 0 < avg ∧ bpmDiff bpmPeak bpmFft * 100 ≤ avg * hrAgreePct)

/-- A window that cannot be valid, for a reason other than the guard, after counted rejections. -/
def failsBetween (s : State) : GuardCall → Bool
  | .fuse bpmPeak bpmFft _ _ _ allowValid _ _ => decide (s.hrDeltaRej ≠ 0) && !(allowValid && agrees bpmPeak bpmFft)
  | .disturb _ => false

/-- No window of the run fails for another reason between the rejections that are counted. -/
def RejectsTogether (s : State) (calls : List GuardCall) : Prop :=
  ∀ before c after, calls = before ++ c :: after → failsBetween (guardRun s before) c = false

def noteReason (s : State) (c : GuardCall) (rs : List HrReason) : List HrReason :=
  if c.isFuse then (guardStep s c).status.hrReason :: rs else rs

def windowReasons (s : State) (calls : List GuardCall) : List HrReason :=
  History.after guardStep noteReason (vitalsInit s) [] calls

def rejectedRun (rs : List HrReason) : ℕ := (rs.takeWhile (· = .delta)).length

section Window

variable {s : State} {bpmPeak bpmFft bpmAc peaks fftMag : ℕ} {allow : Bool} {pre : HrReason}

theorem whyOr_ne_delta {why r : HrReason} (hwhy : why ≠ .delta) (hr : r ≠ .delta) : whyOr why r ≠ .delta := by
  unfold whyOr
  split_ifs
  · exact hr
  · exact hwhy

theorem fusePair_ne_delta (bpmPeak bpmFft peaks : ℕ) (hpre : pre ≠ .delta) :
    (fusePair bpmPeak bpmFft peaks pre).2.2 ≠ .delta := by
  unfold fusePair
  dsimp only
  split_ifs
  · exact hpre
  all_goals exact whyOr_ne_delta hpre (by decide)

theorem fusePair_eq_agrees (bpmPeak bpmFft peaks : ℕ) (why : HrReason) :
    (fusePair bpmPeak bpmFft peaks why).2.1 = agrees bpmPeak bpmFft := by
  unfold fusePair agrees
  dsimp only
  split_ifs <;> simp_all

theorem noteDeltaRejected_publishEstimates :
    noteDeltaRejected (publishEstimates s bpmPeak bpmFft bpmAc peaks fftMag) =
      publishEstimates (noteDeltaRejected s) bpmPeak bpmFft bpmAc peaks fftMag := by
  have hrej : (publishEstimates s bpmPeak bpmFft bpmAc peaks fftMag).hrDeltaRej = s.hrDeltaRej := rfl
  unfold noteDeltaRejected
  dsimp only
  rw [hrej]
  by_cases hlast : incSat 0xff s.hrDeltaRej ≥ hrDeltaResyncWin
  · rw [if_pos hlast, if_pos hlast]
    rfl
  · rw [if_neg hlast, if_neg hlast]
    rfl

theorem guard_cases (hpre : pre ≠ .delta) :
    let r := shFuseHr s bpmPeak bpmFft bpmAc peaks fftMag allow pre
    (s.lastHrValidHave = true ∧ r.status.hrValid = false ∧ r.status.hrReason = .delta ∧
      r.lastHrValidHave = (noteDeltaRejected s).lastHrValidHave ∧
      r.lastHrValidBpm = (noteDeltaRejected s).lastHrValidBpm ∧
      r.hrDeltaRej = (noteDeltaRejected s).hrDeltaRej) ∨
    (r.status.hrValid = true ∧ r.status.hrReason ≠ .delta ∧ r.lastHrValidHave = true ∧
      r.lastHrValidBpm = r.status.hrBpm ∧ r.hrDeltaRej = 0 ∧
      (s.lastHrValidHave = true → |(r.status.hrBpm : ℤ) - s.lastHrValidBpm| ≤ hrMaxDeltaBpm)) ∨
    (r.status.hrValid = false ∧ r.status.hrReason ≠ .delta ∧ r.lastHrValidHave = s.lastHrValidHave ∧
      r.lastHrValidBpm = s.lastHrValidBpm ∧ r.hrDeltaRej = s.hrDeltaRej ∧
      (allow && agrees bpmPeak bpmFft) = false) := by
  intro r
  have hagrees := fusePair_eq_agrees bpmPeak bpmFft peaks pre
  have hwhy := fusePair_ne_delta bpmPeak bpmFft peaks hpre
  have hr : r = shFuseHr s bpmPeak bpmFft bpmAc peaks fftMag allow pre := rfl
  unfold shFuseHr at hr
  dsimp only at hr
  generalize fusePair bpmPeak bpmFft peaks pre = p at hagrees hwhy hr
  have hjump : deltaJump (publishEstimates s bpmPeak bpmFft bpmAc peaks fftMag) p.1 = deltaJump s p.1 := rfl
  rw [hjump] at hr
  cases allow with
  | false =>
    rw [if_pos (by decide)] at hr
    rw [hr]
    refine Or.inr (Or.inr ⟨rfl, ?_, rfl, rfl, rfl, rfl⟩)
    change (if pre ≠ .ok then pre else if s.hrWinLeft > 0 ∨ pre = .holdoff then .holdoff else p.2.2) ≠ HrReason.delta
    split_ifs
    · exact hpre
    · exact HrReason.noConfusion
    · exact hwhy
  | true =>
    rw [if_neg (by decide)] at hr
    by_cases hreject : p.2.1 = true ∧ deltaJump s p.1 = true
    · rw [if_pos hreject] at hr
      have hhave : s.lastHrValidHave = true := (Bool.and_eq_true_iff.mp hreject.2).1
      rw [hr, noteDeltaRejected_publishEstimates]
      exact Or.inl ⟨hhave, rfl, rfl, rfl, rfl, rfl⟩
    · rw [if_neg hreject] at hr
      by_cases hok : p.2.1 = true
      · have hnear : deltaJump s p.1 = false := Bool.eq_false_iff.mpr fun hj => hreject ⟨hok, hj⟩
        rw [if_pos hok] at hr
        rw [hr]
        refine Or.inr (Or.inl ⟨rfl, HrReason.noConfusion, rfl, rfl, rfl, fun hhave => ?_⟩)
        unfold deltaJump at hnear
        rw [hhave, Bool.true_and, decide_eq_false_iff_not, not_lt, ← Int.abs_eq_natAbs] at hnear
        exact hnear
      · rw [if_neg hok] at hr
        rw [hr, Bool.true_and, ← hagrees]
        exact Or.inr (Or.inr ⟨rfl, hwhy, rfl, rfl, rfl, Bool.eq_false_iff.mpr hok⟩)

end Window

theorem noteDeltaRejected_cases {s : State} (hrej : s.hrDeltaRej ≤ 2) :
    (s.hrDeltaRej = 2 ∧ (noteDeltaRejected s).lastHrValidHave = false ∧ (noteDeltaRejected s).hrDeltaRej = 0) ∨
    (s.hrDeltaRej < 2 ∧ (noteDeltaRejected s).lastHrValidHave = s.lastHrValidHave ∧
      (noteDeltaRejected s).lastHrValidBpm = s.lastHrValidBpm ∧
      (noteDeltaRejected s).hrDeltaRej = s.hrDeltaRej + 1) := by
  have hinc : incSat 0xff s.hrDeltaRej = s.hrDeltaRej + 1 := if_pos (by omega)
  unfold noteDeltaRejected
  dsimp only
  rw [hinc]
  by_cases hlast : s.hrDeltaRej + 1 ≥ hrDeltaResyncWin
  · rw [if_pos hlast]
    have hthree : s.hrDeltaRej + 1 ≥ 3 := hlast
    exact Or.inl ⟨by omega, rfl, rfl⟩
  · rw [if_neg hlast]
    have hthree : ¬ s.hrDeltaRej + 1 ≥ 3 := hlast
    exact Or.inr ⟨by omega, rfl, rfl, rfl⟩

structure GuardKept (s : State) (rs : List HrReason) : Prop where
  few : s.hrDeltaRej ≤ 2
  counted : s.lastHrValidHave = true → rejectedRun rs ≤ s.hrDeltaRej
  short : rejectedRun rs ≤ 3
  never : ¬ [.delta, .delta, .delta, .delta] <:+: rs

theorem rejectedRun_delta (rs : List HrReason) : rejectedRun (.delta :: rs) = rejectedRun rs + 1 := by
  simp [rejectedRun]

theorem rejectedRun_other {r : HrReason} (hr : r ≠ .delta) (rs : List HrReason) : rejectedRun (r :: rs) = 0 := by
  simp [rejectedRun, hr]

theorem four_le_rejectedRun (rs : List HrReason) :
    4 ≤ rejectedRun ([.delta, .delta, .delta, .delta] ++ rs) := by
  rw [List.cons_append, List.cons_append, List.cons_append, List.cons_append, rejectedRun_delta, rejectedRun_delta,
    rejectedRun_delta, rejectedRun_delta]
  omega

theorem never_cons {r : HrReason} {rs : List HrReason} (hshort : rejectedRun (r :: rs) ≤ 3)
    (hnever : ¬ [.delta, .delta, .delta, .delta] <:+: rs) : ¬ [.delta, .delta, .delta, .delta] <:+: r :: rs := by
  rintro hin
  rcases List.infix_cons_iff.mp hin with ⟨older, heq⟩ | hin
  · have hfour := four_le_rejectedRun older
    rw [heq] at hfour
    omega
  · exact hnever hin

namespace GuardKept

variable {s : State} {rs : List HrReason}

theorem start (s : State) : GuardKept (vitalsInit s) [] where
  few := Nat.zero_le _
  counted hhave := absurd hhave Bool.false_ne_true
  short := Nat.zero_le _
  never hin := by
    have hnil := List.infix_nil.mp hin
    exact absurd hnil (List.cons_ne_nil _ _)

theorem step (h : GuardKept s rs) (c : GuardCall) : GuardKept (guardStep s c) (noteReason s c rs) := by
  cases c with
  | disturb win =>
    exact ⟨Nat.zero_le _, fun hhave => absurd hhave Bool.false_ne_true, h.short, h.never⟩
  | fuse bpmPeak bpmFft bpmAc peaks fftMag allow pre hpre =>
    unfold noteReason
    rw [GuardCall.isFuse, if_pos rfl]
    have hfew := h.few
    rcases guard_cases (s := s) hpre with ⟨hhave, -, hreason, hhave', -, hrej⟩ | ⟨-, hreason, -, -, hrej, -⟩ |
      ⟨-, hreason, hhave', -, hrej, -⟩
    · have hcounted := h.counted hhave
      have hrun := rejectedRun_delta rs
      change GuardKept (shFuseHr _ _ _ _ _ _ _ _) ((shFuseHr _ _ _ _ _ _ _ _).status.hrReason :: rs)
      rw [hreason]
      rcases noteDeltaRejected_cases hfew with ⟨htwo, hnone, hzero⟩ | ⟨hlt, hsame, -, hinc⟩
      · rw [hnone] at hhave'
        rw [hzero] at hrej
        refine ⟨hrej.trans_le (Nat.zero_le _), fun hh => ?_, by omega, never_cons (by omega) h.never⟩
        exact absurd (hhave'.symm.trans hh) Bool.false_ne_true
      · rw [hinc] at hrej
        exact ⟨by omega, fun _ => by omega, by omega, never_cons (by omega) h.never⟩
    · have hrun := rejectedRun_other hreason rs
      exact ⟨hrej.trans_le (Nat.zero_le _), fun _ => hrun.trans_le (Nat.zero_le _), hrun.trans_le (Nat.zero_le _),
        never_cons (hrun.trans_le (Nat.zero_le _)) h.never⟩
    · have hrun := rejectedRun_other hreason rs
      exact ⟨hrej.trans_le hfew, fun _ => hrun.trans_le (Nat.zero_le _), hrun.trans_le (Nat.zero_le _),
        never_cons (hrun.trans_le (Nat.zero_le _)) h.never⟩

theorem run (s : State) (calls : List GuardCall) : GuardKept (guardRun s calls) (windowReasons s calls) :=
  History.invariant guardStep noteReason (start s) (fun _ _ c h => h.step c) calls

end GuardKept

section Runs

variable {s : State}

theorem guardRun_concat (s : State) (calls : List GuardCall) (c : GuardCall) :
    guardRun s (calls ++ [c]) = guardStep (guardRun s calls) c := by
  rw [guardRun, List.foldl_append, List.foldl_cons, List.foldl_nil, guardRun]

theorem windowReasons_concat (s : State) (calls : List GuardCall) (c : GuardCall) :
    windowReasons s (calls ++ [c]) = noteReason (guardRun s calls) c (windowReasons s calls) :=
  History.after_concat guardStep noteReason (vitalsInit s) [] calls c

theorem valid_keeps {now : State} {c : GuardCall} (hvalid : validWindow now c = true) :
    (guardStep now c).lastHrValidHave = true ∧ (guardStep now c).lastHrValidBpm = (guardStep now c).status.hrBpm ∧
      (now.lastHrValidHave = true → |((guardStep now c).status.hrBpm : ℤ) - now.lastHrValidBpm| ≤ hrMaxDeltaBpm) := by
  cases c with
  | disturb win => exact absurd hvalid Bool.false_ne_true
  | fuse bpmPeak bpmFft bpmAc peaks fftMag allow pre hpre =>
    have hstatus : (shFuseHr now bpmPeak bpmFft bpmAc peaks fftMag allow pre).status.hrValid = true := hvalid
    rcases guard_cases (s := now) hpre with ⟨-, hnot, -⟩ | ⟨-, -, hhave, hbpm, -, hnear⟩ | ⟨hnot, -⟩
    · exact absurd (hnot.symm.trans hstatus) Bool.false_ne_true
    · exact ⟨hhave, hbpm, hnear⟩
    · exact absurd (hnot.symm.trans hstatus) Bool.false_ne_true

theorem reference_kept {now : State} {c : GuardCall} (hfew : now.hrDeltaRej ≤ 2) (hhave : now.lastHrValidHave = true)
    (hvalid : validWindow now c = false) (hdrop : dropsReference now c = false) :
    (guardStep now c).lastHrValidHave = true ∧ (guardStep now c).lastHrValidBpm = now.lastHrValidBpm := by
  cases c with
  | disturb win => exact absurd hdrop.symm Bool.false_ne_true
  | fuse bpmPeak bpmFft bpmAc peaks fftMag allow pre hpre =>
    have hkept : (shFuseHr now bpmPeak bpmFft bpmAc peaks fftMag allow pre).lastHrValidHave = true := by
      change (!true || true && now.lastHrValidHave && !(shFuseHr _ _ _ _ _ _ _ _).lastHrValidHave) = false at hdrop
      rw [hhave] at hdrop
      simpa using hdrop
    have hstatus : (shFuseHr now bpmPeak bpmFft bpmAc peaks fftMag allow pre).status.hrValid = false := hvalid
    refine ⟨hkept, ?_⟩
    rcases guard_cases (s := now) hpre with ⟨-, -, -, hhave', hbpm', -⟩ | ⟨hyes, -⟩ | ⟨-, -, -, hbpm', -⟩
    · rcases noteDeltaRejected_cases hfew with ⟨-, hnone, -⟩ | ⟨-, -, hsame, -⟩
      · rw [hnone] at hhave'
        exact absurd (hhave'.symm.trans hkept) Bool.false_ne_true
      · exact hbpm'.trans hsame
    · exact absurd (hstatus.symm.trans hyes) Bool.false_ne_true
    · exact hbpm'

theorem reference_through (before : List GuardCall) (c : GuardCall) (hvalid : validWindow (guardRun s before) c = true)
    (mid : List GuardCall) (hquiet : ∀ m ev rest, mid = m ++ ev :: rest →
      validWindow (guardRun s (before ++ [c] ++ m)) ev = false ∧
        dropsReference (guardRun s (before ++ [c] ++ m)) ev = false) :
    (guardRun s (before ++ [c] ++ mid)).lastHrValidHave = true ∧
      (guardRun s (before ++ [c] ++ mid)).lastHrValidBpm = (guardRun s (before ++ [c])).status.hrBpm := by
  induction mid using List.reverseRecOn with
  | nil =>
    rw [List.append_nil, guardRun_concat]
    obtain ⟨hhave, hbpm, -⟩ := valid_keeps hvalid
    exact ⟨hhave, hbpm⟩
  | append_singleton mid ev ih =>
    have hlast := hquiet mid ev [] rfl
    obtain ⟨hhave, hbpm⟩ := ih fun m ev' rest heq => hquiet m ev' (rest ++ [ev]) (by rw [heq]; simp)
    have hkept := reference_kept (GuardKept.run s _).few hhave hlast.1 hlast.2
    rw [← List.append_assoc, guardRun_concat]
    exact ⟨hkept.1, hkept.2.trans hbpm⟩

theorem RejectsTogether.init {calls : List GuardCall} {c : GuardCall} (h : RejectsTogether s (calls ++ [c])) :
    RejectsTogether s calls := by
  intro before d after heq
  exact h before d (after ++ [c]) (by rw [heq]; simp)

theorem RejectsTogether.concat {calls : List GuardCall} {c : GuardCall} (h : RejectsTogether s calls)
    (hlast : failsBetween (guardRun s calls) c = false) : RejectsTogether s (calls ++ [c]) := by
  intro before d after heq
  rcases List.eq_nil_or_concat after with rfl | ⟨after, e, rfl⟩
  · obtain ⟨rfl, hd⟩ := List.append_inj' heq rfl
    rw [List.singleton_inj] at hd
    rw [← hd]
    exact hlast
  · rw [List.concat_eq_append, ← List.cons_append, ← List.append_assoc] at heq
    exact h before d after (List.append_inj' heq rfl).1

theorem counted_together {calls : List GuardCall} (htogether : RejectsTogether s calls) :
    (guardRun s calls).hrDeltaRej ≤ rejectedRun (windowReasons s calls) := by
  induction calls using List.reverseRecOn with
  | nil => exact Nat.zero_le _
  | append_singleton calls c ih =>
    have hcount := ih htogether.init
    have hlast := htogether calls c [] rfl
    have hfew := (GuardKept.run s calls).few
    rw [guardRun_concat, windowReasons_concat]
    generalize guardRun s calls = now at hcount hlast hfew
    cases c with
    | disturb win => exact Nat.zero_le _
    | fuse bpmPeak bpmFft bpmAc peaks fftMag allow pre hpre =>
      change (shFuseHr _ _ _ _ _ _ _ _).hrDeltaRej ≤
        rejectedRun ((shFuseHr _ _ _ _ _ _ _ _).status.hrReason :: windowReasons s calls)
      rcases guard_cases (s := now) hpre with ⟨-, -, hreason, -, -, hrej⟩ | ⟨-, -, -, -, hrej, -⟩ |
        ⟨-, -, -, -, hrej, hfails⟩
      · rw [hreason, hrej, rejectedRun_delta]
        rcases noteDeltaRejected_cases hfew with ⟨-, -, hzero⟩ | ⟨-, -, -, hinc⟩
        · omega
        · omega
      · exact hrej.trans_le (Nat.zero_le _)
      · change (decide (now.hrDeltaRej ≠ 0) && !(allow && agrees bpmPeak bpmFft)) = false at hlast
        rw [hfails, Bool.not_false, Bool.and_true, decide_eq_false_iff_not, not_not] at hlast
        rw [hrej, hlast]
        exact Nat.zero_le _

theorem deltas_of_rejectedRun {rs : List HrReason} {n : ℕ} (h : n ≤ rejectedRun rs) :
    List.replicate n .delta <+: rs := by
  induction n generalizing rs with
  | zero => exact List.nil_prefix
  | succ n ih =>
    cases rs with
    | nil => exact absurd h (Nat.not_succ_le_zero _)
    | cons r rs =>
      by_cases hr : r = .delta
      · rw [hr, rejectedRun_delta] at h
        rw [hr, List.replicate_succ, List.cons_prefix_cons]
        exact ⟨rfl, ih (Nat.le_of_succ_le_succ h)⟩
      · rw [rejectedRun_other hr] at h
        exact absurd h (Nat.not_succ_le_zero _)

theorem resync_counted {now : State} {c : GuardCall} (hfew : now.hrDeltaRej ≤ 2) (hresync : resyncs now c = true) :
    now.hrDeltaRej = 2 ∧ ∀ rs, noteReason now c rs = .delta :: rs := by
  unfold resyncs at hresync
  rw [Bool.and_eq_true_iff, Bool.and_eq_true_iff] at hresync
  obtain ⟨⟨hfuse, hhave⟩, hdropped⟩ := hresync
  rw [Bool.not_eq_true'] at hdropped
  cases c with
  | disturb win => exact absurd hfuse Bool.false_ne_true
  | fuse bpmPeak bpmFft bpmAc peaks fftMag allow pre hpre =>
    change (shFuseHr _ _ _ _ _ _ _ _).lastHrValidHave = false at hdropped
    rcases guard_cases (s := now) hpre with ⟨-, -, hreason, hhave', -, -⟩ | ⟨-, -, hyes, -⟩ | ⟨-, -, hsame, -⟩
    · rcases noteDeltaRejected_cases hfew with ⟨htwo, -⟩ | ⟨-, hkept, -⟩
      · refine ⟨htwo, fun rs => ?_⟩
        change (shFuseHr _ _ _ _ _ _ _ _).status.hrReason :: rs = _
        rw [hreason]
      · rw [hdropped, hkept, hhave] at hhave'
        exact absurd hhave' Bool.false_ne_true
    · exact absurd (hdropped.symm.trans hyes) Bool.false_ne_true
    · rw [hdropped, hhave] at hsame
      exact absurd hsame Bool.false_ne_true

end Runs

theorem delta_guard (s : State) (calls : List GuardCall) :
    (∀ before c mid d after, calls = before ++ [c] ++ mid ++ d :: after →
      validWindow (guardRun s before) c = true → validWindow (guardRun s (before ++ [c] ++ mid)) d = true →
      (∀ m ev rest, mid = m ++ ev :: rest → validWindow (guardRun s (before ++ [c] ++ m)) ev = false ∧
        dropsReference (guardRun s (before ++ [c] ++ m)) ev = false) →
      |((guardRun s (before ++ [c] ++ mid ++ [d])).status.hrBpm : ℤ) -
        (guardRun s (before ++ [c])).status.hrBpm| ≤ hrMaxDeltaBpm) ∧
    (¬ [.delta, .delta, .delta, .delta] <:+: windowReasons s calls) ∧
    (RejectsTogether s calls → ∀ before c after, calls = before ++ c :: after →
      resyncs (guardRun s before) c = true →
      List.replicate hrDeltaResyncWin .delta <+: windowReasons s (before ++ [c])) := by
  refine ⟨?_, (GuardKept.run s calls).never, ?_⟩
  · intro before c mid d after _ hc hd hquiet
    obtain ⟨hhave, hbpm⟩ := reference_through before c hc mid hquiet
    obtain ⟨-, -, hnear⟩ := valid_keeps hd
    have hdiff := hnear hhave
    rw [hbpm] at hdiff
    rw [guardRun_concat]
    exact hdiff
  · intro htogether before c after heq hresync
    obtain ⟨htwo, hnote⟩ := resync_counted (GuardKept.run s before).few hresync
    have hbefore : RejectsTogether s before := by
      intro b ev rest hb
      exact htogether b ev (rest ++ c :: after) (by rw [heq, hb]; simp)
    have hcount := counted_together hbefore
    rw [windowReasons_concat, hnote]
    apply deltas_of_rejectedRun
    rw [rejectedRun_delta]
    change 3 ≤ _
    omega

def agreed (bpm : ℕ) : GuardCall := .fuse bpm bpm 0 5 0 true .ok HrReason.noConfusion

theorem delta_guard_resyncs :
    let calls := [agreed 60, agreed 120, agreed 120, agreed 120]
    RejectsTogether boot calls ∧ resyncs (guardRun boot (calls.take 3)) (agreed 120) = true ∧
      List.replicate hrDeltaResyncWin .delta <+: windowReasons boot calls ∧
      (guardRun boot (calls ++ [agreed 120])).status.hrBpm = 120 := by
  intro calls
  have hnone : RejectsTogether boot [] := fun _ _ _ heq => absurd heq (by simp)
  have htogether : RejectsTogether boot calls :=
    (((hnone.concat (c := agreed 60) (by decide)).concat (by decide)).concat (by decide)).concat (by decide)
  have hresync : resyncs (guardRun boot (calls.take 3)) (agreed 120) = true := by decide
  exact ⟨htogether, hresync, (delta_guard boot calls).2.2 htogether (calls.take 3) (agreed 120) [] rfl hresync, by decide⟩

/-- Two windows without any rate lie between the three rejections, and the reference is dropped. -/
theorem delta_guard_drops_between :
    let calls := [agreed 60, agreed 120, agreed 0, agreed 120, agreed 0]
    resyncs (guardRun boot calls) (agreed 120) = true ∧
      ¬ List.replicate hrDeltaResyncWin .delta <+: windowReasons boot (calls ++ [agreed 120]) := by
  decide

end SmartHelmet.Vitals
