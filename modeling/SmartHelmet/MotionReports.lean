import SmartHelmet.History
import SmartHelmet.SessionSteps

namespace SmartHelmet.Firmware

open Config MachineArith

/-- What concerns the motion field: a poll that latched, a report and the field it carried,
the end of a session. -/
inductive MotionMark where
  | latch
  | report (moving : Bool)
  | off
  deriving DecidableEq

/-- Whether a poll latched in the interval that lies `n` reports back, in this session. -/
def latchIn : ℕ → List MotionMark → Bool
  | _, [] => false
  | _, .off :: _ => false
  | 0, .latch :: _ => true
  | n + 1, .latch :: ms => latchIn (n + 1) ms
  | 0, .report _ :: _ => false
  | n + 1, .report _ :: ms => latchIn n ms

def pollLatches (h : Helmet) (e : Env) : Bool :=
  match polledSample e h with
  | some q => decide (pollStep h.pollPrev q ≥ motionRmsMg)
  | none => false

def Event.endsSession (h : Helmet) : Event → Bool
  | .powerOff | .close => true
  | .uiRefresh state => !uiStateIsOn state
  | .init => h.ready
  | _ => false

def eventMarks (h : Helmet) (e : Env) : Event → List MotionMark
  | .timer .motionPoll _ => if 0 < h.pending .motionPoll ∧ pollLatches h e then [.latch] else []
  | ev => if ev.endsSession h then [.off] else []

def reportedFields (h : Helmet) : List Bool := h.log.filterMap Obs.moving?

def newFields (h h' : Helmet) : List Bool :=
  (reportedFields h').take ((reportedFields h').length - (reportedFields h).length)

def noteMarks (w : World) (h : Helmet) (ev : Env × Event) (ms : List MotionMark) : List MotionMark :=
  (newFields h (step w h ev.1 ev.2)).map .report ++ (eventMarks h ev.1 ev.2 ++ ms)

def motionMarks (w : World) (events : List (Env × Event)) : List MotionMark :=
  History.after (fun h ev => step w h ev.1 ev.2) (noteMarks w) .boot [] events

def fieldsRight : List MotionMark → Prop
  | [] => True
  | .report m :: ms => m = (latchIn 0 ms || latchIn 1 ms) ∧ fieldsRight ms
  | _ :: ms => fieldsRight ms

@[mk_iff]
structure MotionKept (s : Session) (ms : List MotionMark) : Prop where
  since : s.since = latchIn 0 ms
  holding : s.holding = (latchIn 1 ms || latchIn 2 ms)
  fresh : latchIn 1 ms = true → s.quiet = 0
  stale : latchIn 1 ms = false → latchIn 2 ms = true → s.quiet = 1
  fields : fieldsRight ms

theorem MotionKept.report {s : Session} {ms : List MotionMark} (h : MotionKept s ms) :
    MotionKept s.report (.report s.report.holding :: ms) := by
  obtain ⟨hsince, hholding, hfresh, hstale, hfields⟩ := h
  unfold Session.report Session.latch
  -- the flags of the last two intervals decide every branch
  cases h0 : latchIn 0 ms <;> cases h1 : latchIn 1 ms <;> cases h2 : latchIn 2 ms <;>
    simp_all [latchIn, incSat, motionKept_iff, fieldsRight]

theorem MotionKept.off {s : Session} {ms : List MotionMark} (hsince : s.since = false)
    (hholding : s.holding = false) (hfields : fieldsRight ms) : MotionKept s (.off :: ms) where
  since := hsince
  holding := hholding
  fresh h := absurd h Bool.false_ne_true
  stale _ h := absurd h Bool.false_ne_true
  fields := hfields

theorem MotionKept.latch {s s' : Session} {ms : List MotionMark} (h : MotionKept s ms)
    (hsince : s'.since = true) (hholding : s'.holding = s.holding) (hquiet : s'.quiet = s.quiet) :
    MotionKept s' (.latch :: ms) where
  since := hsince
  holding := hholding.trans h.holding
  fresh h1 := hquiet.trans (h.fresh h1)
  stale h1 h2 := hquiet.trans (h.stale h1 h2)
  fields := h.fields

theorem MotionKept.congr {s s' : Session} {ms : List MotionMark} (h : MotionKept s ms)
    (hsince : s'.since = s.since) (hholding : s'.holding = s.holding) (hquiet : s'.quiet = s.quiet) :
    MotionKept s' ms where
  since := hsince.trans h.since
  holding := hholding.trans h.holding
  fresh h1 := hquiet.trans (h.fresh h1)
  stale h1 h2 := hquiet.trans (h.stale h1 h2)
  fields := h.fields

theorem MotionKept.reports {s : Session} {ms : List MotionMark} (h : MotionKept s ms) (k : ℕ) :
    ∃ fields, (Session.report^[k] s).reports = fields ++ s.reports ∧
      MotionKept (Session.report^[k] s) (fields.map .report ++ ms) := by
  induction k with
  | zero => exact ⟨[], rfl, h⟩
  | succ k ih =>
    obtain ⟨fields, hreports, hkept⟩ := ih
    rw [Function.iterate_succ_apply']
    refine ⟨(Session.report^[k] s).report.holding :: fields, ?_, hkept.report⟩
    rw [List.cons_append, ← hreports]
    rfl

theorem report_idle {s : Session} (hsince : s.since = false) (hholding : s.holding = false) :
    s.report = { s with reports := false :: s.reports } := by
  obtain ⟨ready, powered, since, holding, quiet, prev, polls, scans, senses, logs, a, b, c, reports⟩ := s
  dsimp only at hsince hholding
  subst hsince hholding
  rfl

theorem reports_idle {s : Session} (hsince : s.since = false) (hholding : s.holding = false) (k : ℕ) :
    (Session.report^[k] s).since = false ∧ (Session.report^[k] s).holding = false := by
  induction k with
  | zero => exact ⟨hsince, hholding⟩
  | succ k ih =>
    rw [Function.iterate_succ_apply', report_idle ih.1 ih.2]
    exact ih

structure MotionSound (h : Helmet) (ms : List MotionMark) : Prop where
  kept : MotionKept (session h) ms
  idle : h.powered = false → h.motionSinceReport = false ∧ h.motionHolding = false

theorem newFields_of_append {h h' : Helmet} {fields : List Bool}
    (hf : reportedFields h' = fields ++ reportedFields h) : newFields h h' = fields := by
  unfold newFields
  rw [hf, List.length_append, Nat.add_sub_cancel]
  exact List.take_left

theorem noteMarks_of_same (w : World) {h : Helmet} {e : Env} {ev : Event} {ms : List MotionMark}
    (hf : reportedFields (step w h e ev) = reportedFields h) :
    noteMarks w h (e, ev) ms = eventMarks h e ev ++ ms := by
  have hnone : newFields h (step w h e ev) = [] := newFields_of_append hf
  unfold noteMarks
  rw [hnone]
  rfl

theorem eventMarks_of_other {h : Helmet} {e : Env} {ev : Event} (hev : ev.isOther = true) :
    eventMarks h e ev = [] := by
  cases ev with
  | timer m chunks =>
    cases m with
    | motionPoll => exact absurd hev Bool.false_ne_true
    | _ => rfl
  | lis3dhChk enable => rfl
  | moreData chunks => rfl
  | adcResult source reading => rfl
  | _ => exact absurd hev Bool.false_ne_true

theorem motionSound_other (w : World) {h : Helmet} {e : Env} {ev : Event} {ms : List MotionMark}
    (hs : MotionSound h ms) (hev : ev.isOther = true) :
    MotionSound (step w h e ev) (noteMarks w h (e, ev) ms) := by
  obtain ⟨k, hk⟩ := reported_step w e h hev
  have hflags : MotionKept (session h).flags ms := hs.kept.congr rfl rfl rfl
  obtain ⟨fields, hfields, hkept⟩ := hflags.reports k
  rw [← hk] at hfields hkept
  have hmarks : noteMarks w h (e, ev) ms = fields.map .report ++ ms := by
    have hnew : newFields h (step w h e ev) = fields := newFields_of_append hfields
    unfold noteMarks
    rw [hnew, eventMarks_of_other hev]
    rfl
  rw [hmarks]
  refine ⟨hkept.congr rfl rfl rfl, ?_⟩
  intro hoff
  obtain ⟨hsince, hholding⟩ := hs.idle ((powered_step_other w e h hev).symm.trans hoff)
  obtain ⟨hsince', hholding'⟩ := reports_idle (s := (session h).flags) hsince hholding k
  rw [← hk] at hsince' hholding'
  exact ⟨hsince', hholding'⟩

theorem motionSound_off (w : World) {h : Helmet} {e : Env} {ev : Event} {ms : List MotionMark} {s : Session}
    (hs : MotionSound h ms) (hmark : eventMarks h e ev = [.off]) (hstep : session (step w h e ev) = s)
    (hoff : s.since = false ∧ s.holding = false ∧ s.reports = reportedFields h) :
    MotionSound (step w h e ev) (noteMarks w h (e, ev) ms) := by
  obtain ⟨hsince, hholding, hreports⟩ := hoff
  rw [← hstep] at hsince hholding hreports
  rw [noteMarks_of_same w hreports, hmark]
  exact ⟨MotionKept.off hsince hholding hs.kept.fields, fun _ => ⟨hsince, hholding⟩⟩

theorem motionSound_same (w : World) {h : Helmet} {e : Env} {ev : Event} {ms : List MotionMark} {s : Session}
    (hs : MotionSound h ms) (hmark : eventMarks h e ev = []) (hstep : session (step w h e ev) = s)
    (hsame : s.since = h.motionSinceReport ∧ s.holding = h.motionHolding ∧ s.quiet = h.motionQuietReports ∧
      s.powered = h.powered ∧ s.reports = reportedFields h) :
    MotionSound (step w h e ev) (noteMarks w h (e, ev) ms) := by
  obtain ⟨hsince, hholding, hquiet, hpowered, hreports⟩ := hsame
  rw [← hstep] at hsince hholding hquiet hpowered hreports
  rw [noteMarks_of_same w hreports, hmark]
  refine ⟨hs.kept.congr hsince hholding hquiet, ?_⟩
  intro hoff
  obtain ⟨hidle, hidle'⟩ := hs.idle (hpowered.symm.trans hoff)
  exact ⟨hsince.trans hidle, hholding.trans hidle'⟩

theorem motionSound_powerOff (w : World) {h : Helmet} {e : Env} {ev : Event} {ms : List MotionMark}
    (hs : MotionSound h ms) (hmark : eventMarks h e ev = [.off])
    (hstep : session (step w h e ev) = if h.powered then (session h).off else session h) :
    MotionSound (step w h e ev) (noteMarks w h (e, ev) ms) := by
  apply motionSound_off w hs hmark hstep
  cases hp : h.powered with
  | true => exact ⟨rfl, rfl, rfl⟩
  | false => exact ⟨(hs.idle hp).1, (hs.idle hp).2, rfl⟩

theorem motionSound_powerOn (w : World) {h : Helmet} {e : Env} {ev : Event} {ms : List MotionMark}
    (hs : MotionSound h ms) (hmark : eventMarks h e ev = [])
    (hstep : session (step w h e ev) = if ¬ h.ready ∨ h.powered then session h else (session h).on) :
    MotionSound (step w h e ev) (noteMarks w h (e, ev) ms) := by
  split at hstep
  · exact motionSound_same w hs hmark hstep ⟨rfl, rfl, rfl, rfl, rfl⟩
  · let s : Session := { session h with
      powered := true
      scans := 1
      senses := 1
      adcTask := true
      probeTask := true
      linkTask := true }
    have hkept : MotionKept s ms := hs.kept.congr rfl rfl rfl
    have hnew : newFields h (step w h e ev) = [s.report.holding] :=
      newFields_of_append (congrArg Session.reports hstep)
    unfold noteMarks
    rw [hnew, hmark]
    constructor
    · rw [hstep]
      exact hkept.report.congr rfl rfl rfl
    · intro hoff
      have hon : (session h).on.powered = true := Session.powered_reports s 1
      have hpowered : (step w h e ev).powered = true := (congrArg Session.powered hstep).trans hon
      exact absurd (hoff.symm.trans hpowered) Bool.false_ne_true

theorem motionSound_init (w : World) {h : Helmet} {e : Env} {ms : List MotionMark} (hs : MotionSound h ms) :
    MotionSound (step w h e .init) (noteMarks w h (e, .init) ms) := by
  have hstep : session (step w h e .init) = _ := session_init w e h
  cases hr : h.ready with
  | true =>
    have hmark : eventMarks h e .init = [.off] := if_pos hr
    rw [hr] at hstep
    apply motionSound_off w hs hmark hstep
    cases e.i2cInit <;> exact ⟨rfl, rfl, rfl⟩
  | false =>
    have hmark : eventMarks h e .init = [] := if_neg (by rw [Event.endsSession, hr]; exact Bool.false_ne_true)
    rw [hr] at hstep
    apply motionSound_same w hs hmark hstep
    cases e.i2cInit <;> exact ⟨rfl, rfl, rfl, rfl, rfl⟩

theorem motionSound_motionPoll (w : World) {h : Helmet} {e : Env} {chunks : List (List UInt8)}
    {ms : List MotionMark} (hs : MotionSound h ms) :
    MotionSound (step w h e (.timer .motionPoll chunks)) (noteMarks w h (e, .timer .motionPoll chunks) ms) := by
  cases hp : h.powered with
  | false =>
    have hsample : polledSample e h = none := by
      rw [polledSample, hp]
      rfl
    have hmark : eventMarks h e (.timer .motionPoll chunks) = [] :=
      if_neg (by simp [pollLatches, hsample])
    exact motionSound_same w hs hmark (session_step_motionPoll_off w e h chunks hp)
      ⟨rfl, rfl, rfl, rfl, rfl⟩
  | true =>
    by_cases hn : 0 < h.pending .motionPoll
    · have hstep := session_step_motionPoll w e h chunks hp hn
      cases hsample : polledSample e h with
      | none =>
        have hmark : eventMarks h e (.timer .motionPoll chunks) = [] :=
          if_neg (by simp [pollLatches, hsample])
        rw [hsample] at hstep
        exact motionSound_same w hs hmark hstep ⟨rfl, rfl, rfl, rfl, rfl⟩
      | some q =>
        rw [hsample] at hstep
        change session _ = (session h).note q (pollStep h.pollPrev q) at hstep
        by_cases hlatch : pollStep h.pollPrev q ≥ motionRmsMg
        · have hmark : eventMarks h e (.timer .motionPoll chunks) = [.latch] :=
            if_pos ⟨hn, by simpa [pollLatches, hsample] using hlatch⟩
          have hreports : reportedFields (step w h e (.timer .motionPoll chunks)) = reportedFields h :=
            congrArg Session.reports hstep
          rw [noteMarks_of_same w hreports, hmark]
          have hsince : ((session h).note q (pollStep h.pollPrev q)).since = true := by
            change (h.motionSinceReport || decide (pollStep h.pollPrev q ≥ motionRmsMg)) = true
            rw [decide_eq_true hlatch, Bool.or_true]
          constructor
          · rw [hstep]
            exact hs.kept.latch hsince rfl rfl
          · intro hoff
            have hpowered := congrArg Session.powered hstep
            exact absurd (hoff.symm.trans (hpowered.trans hp)) Bool.false_ne_true
        · have hmark : eventMarks h e (.timer .motionPoll chunks) = [] :=
            if_neg (by simpa [pollLatches, hsample] using fun _ => hlatch)
          apply motionSound_same w hs hmark hstep
          refine ⟨?_, rfl, rfl, rfl, rfl⟩
          change (h.motionSinceReport || decide (pollStep h.pollPrev q ≥ motionRmsMg)) = _
          rw [decide_eq_false hlatch, Bool.or_false]
    · have hmark : eventMarks h e (.timer .motionPoll chunks) = [] := if_neg (fun h => hn h.1)
      exact motionSound_same w hs hmark (congrArg session (if_neg hn)) ⟨rfl, rfl, rfl, rfl, rfl⟩

theorem motionSound_step (w : World) (h : Helmet) (ms : List MotionMark) (ev : Env × Event)
    (hs : MotionSound h ms) : MotionSound (step w h ev.1 ev.2) (noteMarks w h ev ms) := by
  obtain ⟨e, ev⟩ := ev
  cases hev : ev.isOther with
  | true => exact motionSound_other w hs hev
  | false =>
    cases ev with
    | init => exact motionSound_init w hs
    | powerOn => exact motionSound_powerOn w hs rfl (session_powerOn w e h)
    | powerOff => exact motionSound_powerOff w hs rfl (session_powerOff w h)
    | close => exact motionSound_off w hs rfl (session_close w h) ⟨rfl, rfl, rfl⟩
    | uiRefresh state =>
      have hstep : session (step w h e (.uiRefresh state)) = _ := session_uiRefresh w e h state
      cases hon : uiStateIsOn state with
      | true =>
        have hmark : eventMarks h e (.uiRefresh state) = [] := by simp [eventMarks, Event.endsSession, hon]
        rw [hon] at hstep
        exact motionSound_powerOn w hs hmark hstep
      | false =>
        have hmark : eventMarks h e (.uiRefresh state) = [.off] := by
          simp [eventMarks, Event.endsSession, hon]
        rw [hon] at hstep
        exact motionSound_powerOff w hs hmark hstep
    | timer m chunks =>
      cases m with
      | motionPoll => exact motionSound_motionPoll w hs
      | _ => exact absurd hev.symm Bool.false_ne_true
    | _ => exact absurd hev.symm Bool.false_ne_true

theorem motionSound_run (w : World) (events : List (Env × Event)) :
    MotionSound (runHelmet w events) (motionMarks w events) := by
  apply History.invariant
  · exact ⟨⟨rfl, rfl, fun h => absurd h Bool.false_ne_true, fun _ h => absurd h Bool.false_ne_true, trivial⟩,
      fun _ => ⟨rfl, rfl⟩⟩
  · exact motionSound_step w

theorem fieldsRight_of_append (newer : List MotionMark) {older : List MotionMark} {m : Bool}
    (h : fieldsRight (newer ++ .report m :: older)) : m = (latchIn 0 older || latchIn 1 older) := by
  induction newer with
  | nil => exact h.1
  | cons mark newer ih =>
    apply ih
    cases mark with
    | report m' => exact h.2
    | _ => exact h

theorem latchIn_after_latch {between : List MotionMark} (older : List MotionMark) (hb : ∀ m ∈ between, m = .latch) :
    latchIn 0 (between ++ .latch :: older) = true := by
  cases between with
  | nil => rfl
  | cons m between =>
    rw [hb m List.mem_cons_self]
    rfl

theorem latchIn_skip {between ms : List MotionMark} (hb : ∀ m ∈ between, m = .latch) (n : ℕ) :
    latchIn (n + 1) (between ++ ms) = latchIn (n + 1) ms := by
  induction between with
  | nil => rfl
  | cons m between ih =>
    rw [List.cons_append, hb m List.mem_cons_self]
    exact ih (fun m hm => hb m (List.mem_cons_of_mem _ hm))

theorem since_kept (w : World) (e : Env) {h : Helmet} {ev : Event} {ms : List MotionMark}
    (hs : MotionSound h ms) (hlatched : h.motionSinceReport = true)
    (hnew : newFields h (step w h e ev) = []) (hend : ev.endsSession h = false) :
    (step w h e ev).motionSinceReport = true := by
  have hold : latchIn 0 ms = true := hs.kept.since.symm.trans hlatched
  have hmarks : latchIn 0 (noteMarks w h (e, ev) ms) = true := by
    unfold noteMarks
    rw [hnew, List.map_nil, List.nil_append]
    unfold eventMarks
    split
    · split
      · rfl
      · exact hold
    · rw [hend]
      exact hold
  exact (motionSound_step w h ms (e, ev) hs).kept.since.trans hmarks

/-- A report says `moving` exactly when a poll latched in the interval it closes or in the one
before, within the session. -/
theorem motion_field_right (w : World) (events : List (Env × Event)) :
    (∀ newer m older, motionMarks w events = newer ++ .report m :: older →
      m = (latchIn 0 older || latchIn 1 older)) ∧
    (∀ newer m₂ mid₂ m₁ mid₁ older, motionMarks w events =
        newer ++ .report m₂ :: (mid₂ ++ .report m₁ :: (mid₁ ++ .latch :: older)) →
      (∀ m ∈ mid₁ ++ mid₂, m = .latch) → m₁ = true ∧ m₂ = true) ∧
    ((runHelmet w events).powered = false → (runHelmet w events).motionSinceReport = false) ∧
    ∀ e ev, (runHelmet w events).motionSinceReport = true →
      (step w (runHelmet w events) e ev).motionSinceReport = false →
      newFields (runHelmet w events) (step w (runHelmet w events) e ev) ≠ [] ∨
        ev.endsSession (runHelmet w events) = true := by
  have hsound := motionSound_run w events
  have hfields := hsound.kept.fields
  refine ⟨?_, ?_, ?_, ?_⟩
  · intro newer m older hmarks
    rw [hmarks] at hfields
    exact fieldsRight_of_append newer hfields
  · intro newer m₂ mid₂ m₁ mid₁ older hmarks hmid
    have hmid₁ : ∀ m ∈ mid₁, m = .latch := fun m hm => hmid m (List.mem_append_left _ hm)
    have hmid₂ : ∀ m ∈ mid₂, m = .latch := fun m hm => hmid m (List.mem_append_right _ hm)
    rw [hmarks] at hfields
    have h₂ := fieldsRight_of_append newer hfields
    have h₁ : m₁ = (latchIn 0 (mid₁ ++ .latch :: older) || latchIn 1 (mid₁ ++ .latch :: older)) := by
      apply fieldsRight_of_append (newer ++ .report m₂ :: mid₂)
      simpa using hfields
    have hlatch := latchIn_after_latch older hmid₁
    rw [latchIn_skip hmid₂ 0] at h₂
    change m₂ = (_ || latchIn 0 (mid₁ ++ .latch :: older)) at h₂
    rw [hlatch, Bool.or_true] at h₂
    rw [hlatch, Bool.true_or] at h₁
    exact ⟨h₁, h₂⟩
  · intro hoff
    exact (hsound.idle hoff).1
  · intro e ev hlatched hcleared
    by_contra hnone
    obtain ⟨hnew, hend⟩ := not_or.mp hnone
    have hkept := since_kept w e hsound hlatched (not_not.mp hnew) (Bool.not_eq_true _ ▸ hend)
    rw [hcleared] at hkept
    exact Bool.false_ne_true hkept

def shakenEnv : Env := { plainEnv with lis3dhPoll := some ⟨0, 0, 0, 0, 0, 0x7d⟩ }

def shakenRun : List (Env × Event) := poweredRun ++ [(plainEnv, .timer .motionPoll []),
  (shakenEnv, .timer .motionPoll []), (plainEnv, .timer .reportTick []), (plainEnv, .timer .reportTick [])]

theorem motion_field_right_shaken :
    motionMarks plainWorld shakenRun =
        [] ++ .report true :: ([] ++ .report true :: ([] ++ .latch :: [.report false])) ∧
      true = (latchIn 0 [.report true, .latch, .report false] ||
        latchIn 1 [.report true, .latch, .report false]) := by
  have hmarks : motionMarks plainWorld shakenRun =
      [] ++ .report true :: ([] ++ .report true :: ([] ++ .latch :: [.report false])) := by
    decide
  exact ⟨hmarks, (motion_field_right plainWorld shakenRun).1 [] true _ hmarks⟩

end SmartHelmet.Firmware
