import SmartHelmet.MotionReports

namespace SmartHelmet.Firmware

open Config MachineArith

abbrev Sample : Type := Int16 × Int16 × Int16

def polled (h : Helmet) (e : Env) : Event → Option Sample
  | .timer .motionPoll _ => if 0 < h.pending .motionPoll then polledSample e h else none
  | _ => none

def noteSamples (h : Helmet) (ev : Env × Event) (ps : List Sample) : List Sample :=
  if startsSession h ev.2 then [] else (polled h ev.1 ev.2).toList ++ ps

def sessionSamples (w : World) (events : List (Env × Event)) : List Sample :=
  History.after (fun h ev => step w h ev.1 ev.2) noteSamples .boot [] events

def Differs (p q : Sample) : Prop :=
  motionRmsMg ≤ (q.1.toInt - p.1.toInt).natAbs ∨ motionRmsMg ≤ (q.2.1.toInt - p.2.1.toInt).natAbs ∨
    motionRmsMg ≤ (q.2.2.toInt - p.2.2.toInt).natAbs

/-- The step sets `sh_motion_since_report` only on two successive samples of the session. -/
def JudgedInSession (w : World) (before : List (Env × Event)) (ev : Env × Event) : Prop :=
  let h := runHelmet w before
  h.motionSinceReport = false → (step w h ev.1 ev.2).motionSinceReport = true →
    ∃ p ps q, sessionSamples w before = p :: ps ∧ polled h ev.1 ev.2 = some q ∧ Differs p q

/-- The first sample of a session differs from one that an earlier session left behind. -/
def JudgedAcross (w : World) (before : List (Env × Event)) (ev : Env × Event) : Prop :=
  let h := runHelmet w before
  sessionSamples w before = [] ∧ ∃ p q, h.pollPrev = some p ∧ polled h ev.1 ev.2 = some q ∧ Differs p q

theorem axisStep_eq (a b : Int16) : Vitals.axisStep a.toInt b.toInt = (a.toInt - b.toInt).natAbs :=
  Vitals.axisStep_eq_natAbs ⟨a.le_toInt, a.toInt_lt⟩ ⟨b.le_toInt, b.toInt_lt⟩

theorem sampleStep_iff (p q : Sample) : motionRmsMg ≤ sampleStep p q ↔ Differs p q := by
  unfold sampleStep Differs
  rw [axisStep_eq, axisStep_eq, axisStep_eq, le_max_iff, le_max_iff, or_assoc]

structure SamplesKept (h : Helmet) (ps : List Sample) : Prop where
  prev : ps ≠ [] → h.pollPrev = ps.head?
  since : ps = [] → h.motionSinceReport = false

structure LatchLeft (s s' : Session) : Prop where
  since : s'.since = false ∨ s'.since = s.since
  prev : s'.prev = s.prev

theorem report_leaves (s : Session) : s.report.since = false ∧ s.report.prev = s.prev := by
  unfold Session.report Session.latch
  dsimp only
  split_ifs <;> exact ⟨rfl, rfl⟩

theorem LatchLeft.refl (s : Session) : LatchLeft s s := ⟨Or.inr rfl, rfl⟩

theorem LatchLeft.reports (s : Session) (k : ℕ) : LatchLeft s (Session.report^[k] s) := by
  induction k with
  | zero => exact LatchLeft.refl s
  | succ k ih =>
    rw [Function.iterate_succ_apply']
    obtain ⟨hsince, hprev⟩ := report_leaves (Session.report^[k] s)
    exact ⟨Or.inl hsince, hprev.trans ih.prev⟩

theorem LatchLeft.of_reported {s s' : Session} (h : Reported s s') : LatchLeft s s' := by
  obtain ⟨k, hk⟩ := h
  have hleft := LatchLeft.reports s.flags k
  rw [← hk] at hleft
  exact ⟨hleft.since, hleft.prev⟩

theorem LatchLeft.off (s : Session) (b : Bool) : LatchLeft s (if b then s.off else s) := by
  cases b with
  | true => exact ⟨Or.inl rfl, rfl⟩
  | false => exact LatchLeft.refl s

theorem on_leaves (s : Session) : s.on.since = false ∧ s.on.prev = s.prev :=
  report_leaves { s with
    powered := true
    scans := 1
    senses := 1
    adcTask := true
    probeTask := true
    linkTask := true }

theorem LatchLeft.on (s : Session) (p : Prop) [Decidable p] : LatchLeft s (if p then s else s.on) := by
  split
  · exact LatchLeft.refl s
  · exact ⟨Or.inl (on_leaves s).1, (on_leaves s).2⟩

theorem latchLeft_step (w : World) {h : Helmet} {e : Env} {ev : Event} (hp : polled h e ev = none) :
    LatchLeft (session h) (session (step w h e ev)) := by
  cases hev : ev.isOther with
  | true => exact LatchLeft.of_reported (reported_step w e h hev)
  | false =>
    cases ev with
    | init =>
      have hstep : session (step w h e .init) = _ := session_init w e h
      rw [hstep]
      cases h.ready <;> cases e.i2cInit
      · exact LatchLeft.refl _
      · exact ⟨Or.inr rfl, rfl⟩
      · exact ⟨Or.inl rfl, rfl⟩
      · exact ⟨Or.inl rfl, rfl⟩
    | powerOn =>
      have hstep : session (step w h e .powerOn) = _ := session_powerOn w e h
      rw [hstep]
      exact LatchLeft.on _ _
    | powerOff =>
      have hstep : session (step w h e .powerOff) = _ := session_powerOff w h
      rw [hstep]
      exact LatchLeft.off _ _
    | close =>
      have hstep : session (step w h e .close) = _ := session_close w h
      rw [hstep]
      exact ⟨Or.inl rfl, rfl⟩
    | uiRefresh state =>
      have hstep : session (step w h e (.uiRefresh state)) = _ := session_uiRefresh w e h state
      rw [hstep]
      split
      · exact LatchLeft.on _ _
      · exact LatchLeft.off _ _
    | timer m chunks =>
      cases m with
      | motionPoll =>
        cases hpow : h.powered with
        | false =>
          rw [session_step_motionPoll_off w e h chunks hpow]
          exact ⟨Or.inr rfl, rfl⟩
        | true =>
          by_cases hn : 0 < h.pending .motionPoll
          · have hsample : polledSample e h = none := (if_pos hn).symm.trans hp
            rw [session_step_motionPoll w e h chunks hpow hn, hsample]
            exact LatchLeft.refl _
          · have hstep : step w h e (.timer .motionPoll chunks) = h := if_neg hn
            rw [hstep]
            exact LatchLeft.refl _
      | _ => exact absurd hev.symm Bool.false_ne_true
    | _ => exact absurd hev.symm Bool.false_ne_true

theorem session_step_polled (w : World) {h : Helmet} {e : Env} {ev : Event} {q : Sample}
    (hp : polled h e ev = some q) :
    session (step w h e ev) = (session h).note q (pollStep h.pollPrev q) := by
  cases ev with
  | timer m chunks =>
    cases m with
    | motionPoll =>
      have hn : 0 < h.pending .motionPoll := by
        by_contra hn
        exact absurd ((if_neg hn).symm.trans hp) (by simp)
      have hsample : polledSample e h = some q := (if_pos hn).symm.trans hp
      have hpow : h.powered = true := by
        by_contra hpow
        rw [polledSample, Bool.eq_false_iff.mpr hpow] at hsample
        exact absurd hsample (by simp)
      rw [session_step_motionPoll w e h chunks hpow hn, hsample]
    | _ => exact absurd hp (by simp [polled])
  | _ => exact absurd hp (by simp [polled])

theorem since_of_starts (w : World) {h : Helmet} {e : Env} {ev : Event} (hs : startsSession h ev = true) :
    (step w h e ev).motionSinceReport = false := by
  have hon (hready : h.ready = true) (hpow : h.powered = false)
      (hstep : session (step w h e ev) = if ¬ h.ready ∨ h.powered then session h else (session h).on) :
      (step w h e ev).motionSinceReport = false := by
    rw [if_neg (by simp [hready, hpow])] at hstep
    exact (congrArg Session.since hstep).trans (on_leaves _).1
  cases ev with
  | powerOn =>
    simp only [startsSession, Bool.and_eq_true, Bool.not_eq_true'] at hs
    exact hon hs.1 hs.2 (session_powerOn w e h)
  | uiRefresh state =>
    simp only [startsSession, Bool.and_eq_true, Bool.not_eq_true'] at hs
    apply hon hs.1.2 hs.2
    exact (session_uiRefresh w e h state).trans (if_pos hs.1.1)
  | _ => exact absurd hs Bool.false_ne_true

theorem samplesKept_step (w : World) (h : Helmet) (ps : List Sample) (ev : Env × Event)
    (hk : SamplesKept h ps) : SamplesKept (step w h ev.1 ev.2) (noteSamples h ev ps) := by
  obtain ⟨e, ev⟩ := ev
  unfold noteSamples
  dsimp only
  split
  · next hs => exact ⟨fun hne => absurd rfl hne, fun _ => since_of_starts w hs⟩
  · cases hp : polled h e ev with
    | none =>
      have hleft := latchLeft_step w hp
      constructor
      · intro hne
        exact hleft.prev.trans (hk.prev hne)
      · intro hnil
        rcases hleft.since with hsince | hsince
        · exact hsince
        · exact hsince.trans (hk.since hnil)
    | some q =>
      have hstep := session_step_polled w hp
      constructor
      · intro _
        exact congrArg Session.prev hstep
      · intro hnil
        exact absurd hnil (by simp)

theorem samplesKept_run (w : World) (events : List (Env × Event)) :
    SamplesKept (runHelmet w events) (sessionSamples w events) := by
  apply History.invariant
  · exact ⟨fun hne => absurd rfl hne, fun _ => rfl⟩
  · exact samplesKept_step w

theorem since_polled (w : World) {h : Helmet} {e : Env} {ev : Event} {q : Sample}
    (hp : polled h e ev = some q) : (step w h e ev).motionSinceReport =
      (h.motionSinceReport || decide (motionRmsMg ≤ pollStep h.pollPrev q)) :=
  congrArg Session.since (session_step_polled w hp)

theorem polled_of_latched (w : World) {h : Helmet} {e : Env} {ev : Event} (hold : h.motionSinceReport = false)
    (hnew : (step w h e ev).motionSinceReport = true) :
    ∃ p q, h.pollPrev = some p ∧ polled h e ev = some q ∧ Differs p q := by
  cases hp : polled h e ev with
  | none =>
    have hleft : (step w h e ev).motionSinceReport = false ∨ (step w h e ev).motionSinceReport = _ :=
      (latchLeft_step w hp).since
    rw [hnew] at hleft
    rcases hleft with hfalse | hsame
    · exact absurd hfalse.symm Bool.false_ne_true
    · exact absurd (hold.symm.trans hsame.symm) Bool.false_ne_true
  | some q =>
    rw [since_polled w hp, hold, Bool.false_or] at hnew
    have hstep := of_decide_eq_true hnew
    cases hprev : h.pollPrev with
    | none =>
      rw [hprev] at hstep
      exact absurd hstep (by simp [pollStep])
    | some p =>
      rw [hprev] at hstep
      exact ⟨p, q, rfl, rfl, (sampleStep_iff p q).mp hstep⟩

theorem judgedInSession_iff (w : World) (before : List (Env × Event)) (ev : Env × Event) :
    JudgedInSession w before ev ↔ ¬ JudgedAcross w before ev := by
  have hk := samplesKept_run w before
  constructor
  · rintro hjudged ⟨hnil, p, q, hprev, hp, hdiff⟩
    have hold := hk.since hnil
    have hnew : (step w (runHelmet w before) ev.1 ev.2).motionSinceReport = true := by
      rw [since_polled w hp, hprev]
      exact Bool.or_eq_true_iff.mpr (Or.inr (decide_eq_true ((sampleStep_iff p q).mpr hdiff)))
    obtain ⟨p', ps, _, hps, _, _⟩ := hjudged hold hnew
    rw [hnil] at hps
    exact absurd hps (by simp)
  · intro hacross hold hnew
    obtain ⟨p, q, hprev, hp, hdiff⟩ := polled_of_latched w hold hnew
    cases hps : sessionSamples w before with
    | nil => exact absurd ⟨hps, p, q, hprev, hp, hdiff⟩ hacross
    | cons p' ps =>
      have hhead := hk.prev (by rw [hps]; simp)
      rw [hps, hprev] at hhead
      obtain rfl : p = p' := Option.some.inj hhead
      exact ⟨p, ps, q, rfl, hp, hdiff⟩

/-- Motion is judged within one session in a run exactly when no session of it starts with a
sample far from the one that the last session left. -/
theorem motion_judged_in_session (w : World) (events : List (Env × Event)) :
    (∀ before ev after, events = before ++ ev :: after → JudgedInSession w before ev) ↔
      ∀ before ev after, events = before ++ ev :: after → ¬ JudgedAcross w before ev := by
  constructor
  · intro hjudged before ev after hsplit
    exact (judgedInSession_iff w before ev).mp (hjudged before ev after hsplit)
  · intro hacross before ev after hsplit
    exact (judgedInSession_iff w before ev).mpr (hacross before ev after hsplit)

def uprightEnv : Env := { plainEnv with lis3dhPoll := some ⟨0, 0, 0, 0, 0, 0⟩ }

def turnedRun : List (Env × Event) := poweredRun ++ [(shakenEnv, .timer .motionPoll []),
  (plainEnv, .powerOff), (plainEnv, .powerOn)]

theorem motion_judged_across_sessions :
    ¬ JudgedInSession plainWorld turnedRun (uprightEnv, .timer .motionPoll []) := by
  intro hjudged
  obtain ⟨p, ps, q, hps, _, _⟩ := hjudged (by decide) (by decide)
  have hnil : sessionSamples plainWorld turnedRun = [] := by decide
  rw [hnil] at hps
  exact absurd hps (by simp)

end SmartHelmet.Firmware
