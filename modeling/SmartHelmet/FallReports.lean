import SmartHelmet.FallLatch
import SmartHelmet.FirmwareVitals

namespace SmartHelmet.Firmware

open Config Relation
open Vitals (Call)

def hitSince : List Obs → Bool
  | [] => false
  | .accel m :: log => Vitals.shNoteFallMag m || hitSince log
  | .restart :: _ => false
  | .report _ _ :: _ => false
  | _ :: log => hitSince log

def reportsHits : List Obs → Prop
  | [] => True
  | .report fall line :: log => (hitSince log = true → fall = true) ∧ namesFall fall line ∧ reportsHits log
  | _ :: log => reportsHits log

structure Latched (t : Tape) : Prop where
  held : hitSince t.log = true → t.state.fallPending = true
  reported : reportsHits t.log

theorem fallPending_callState (b : Build) (s : Vitals.State) (c : Call) (hc : Vitals.clears c = false)
    (hs : s.fallPending = true ∨ (Vitals.pushedMags [c]).any Vitals.shNoteFallMag = true) :
    (callState b s c).fallPending = true := by
  rw [callState, Vitals.fallPending_step, hc]
  rcases hs with hs | hs
  · simp [hs]
  · simp [hs]

theorem Drive.latched {b : Build} {s t : Tape} (hd : Drive b s t) (hs : Latched s) : Latched t := by
  cases hd with
  | call c line hline =>
    have hkeep := fallPending_callState b s.state c
    cases c with
    | init => exact ⟨fun h => absurd h (by simp [callObs, hitSince]), hs.reported⟩
    | takeFall => exact ⟨fun h => absurd h (by simp [callObs, hitSince]), hs.held, hline, hs.reported⟩
    | accel x y z =>
      refine ⟨?_, hs.reported⟩
      intro h
      rcases Bool.or_eq_true_iff.mp h with hit | hold
      · exact hkeep rfl (Or.inr (by simp [Vitals.pushedMags, hit]))
      · exact hkeep rfl (Or.inl (hs.held hold))
    | _ => exact ⟨fun h => hkeep rfl (Or.inl (hs.held h)), hs.reported⟩

theorem latched_runHelmet (w : World) (events : List (Env × Event)) :
    Latched (tape (runHelmet w events)) := by
  have hboot : Latched (tape .boot) := ⟨fun h => absurd h (by decide), trivial⟩
  have hkeep : ∀ t : Tape, Drives w.build (tape .boot) t → Latched t := by
    intro t ht
    induction ht with
    | refl => exact hboot
    | tail _ hlast ih => exact hlast.latched ih
  exact hkeep _ (runHelmet_drives w events)

def Obs.isReport : Obs → Bool
  | .report _ _ => true
  | _ => false

theorem reportsHits_of_append {newer older : List Obs} (h : reportsHits (newer ++ older)) :
    reportsHits older := by
  induction newer with
  | nil => exact h
  | cons o newer ih =>
    apply ih
    cases o with
    | report fall line => exact h.2.2
    | _ => exact h

theorem hitSince_append {since older : List Obs} (hnext : ∀ o ∈ since, o.isReport = false)
    (hkept : .restart ∉ since) (hit : hitSince older = true) : hitSince (since ++ older) = true := by
  induction since with
  | nil => exact hit
  | cons o since ih =>
    have hrest := ih (fun o ho => hnext o (List.mem_cons_of_mem _ ho))
      (fun h => hkept (List.mem_cons_of_mem _ h))
    have ho := hnext o List.mem_cons_self
    cases o with
    | report fall line => exact absurd ho (by simp [Obs.isReport])
    | restart => exact absurd List.mem_cons_self hkept
    | accel m => simp [hitSince, hrest]
    | _ => exact hrest

/-- A sample that alone looks like a fall is in the next report, where no restart of the vitals
came in between. -/
theorem fall_reported (w : World) (events : List (Env × Event)) {newer since older : List Obs} {fall : Bool}
    {line : List UInt8} {m : ℕ}
    (hlog : (runHelmet w events).log = newer ++ .report fall line :: (since ++ .accel m :: older))
    (hfall : fallImpactMg ≤ m ∨ 0 < m ∧ m ≤ fallFreefallMg)
    (hnext : ∀ o ∈ since, o.isReport = false) (hkept : .restart ∉ since) :
    fall = true ∧ bytes "fall:yes" <:+: line := by
  have hreports := (latched_runHelmet w events).reported
  have hfilter : (tape (runHelmet w events)).log = newer.filter Obs.isVital ++
      .report fall line :: (since.filter Obs.isVital ++ .accel m :: older.filter Obs.isVital) := by
    have hreport : Obs.isVital (.report fall line) = true := rfl
    have haccel : Obs.isVital (.accel m) = true := rfl
    simp only [tape, hlog, List.filter_append, List.filter_cons_of_pos hreport,
      List.filter_cons_of_pos haccel]
  rw [hfilter] at hreports
  obtain ⟨hyes, hname, _⟩ := reportsHits_of_append hreports
  have hmag : Vitals.shNoteFallMag m = true := by
    simp only [Vitals.shNoteFallMag, fallImpactMg, fallFreefallMg] at hfall ⊢
    apply decide_eq_true
    omega
  have hhit : hitSince (.accel m :: older.filter Obs.isVital) = true := by
    rw [hitSince, hmag, Bool.true_or]
  have htrue : fall = true := by
    refine hyes (hitSince_append ?_ ?_ hhit)
    · exact fun o ho => hnext o (List.mem_filter.mp ho).1
    · exact fun h => hkept (List.mem_filter.mp h).1
  subst htrue
  exact ⟨rfl, hname⟩

def impactEnv : Env := { plainEnv with lis3dhPoll := some ⟨0, 0, 0, 0, 0, 0x7d⟩ }

def firstReport (restart fall : Bool) : List UInt8 :=
  bytes ("motion:still\r\nrestart:" ++ yesNo restart ++ "\r\nfall:" ++ yesNo fall ++
    "\r\npulse:unknown\r\nbody:0.00C\r\namb:0.00C\r\nrh:0.00%\r\nvoc:0ppb\r\nco:1ppm\r\nnh3:1ppm\r\n" ++
    "no2:0.05ppm\r\n")

theorem fall_reported_after_impact :
    (runHelmet plainWorld (poweredRun ++
      [(impactEnv, .timer .motionPoll []), (plainEnv, .timer .reportTick [])])).log =
        [] ++ .report true (firstReport false true) :: ([] ++ .accel 2000 :: (runHelmet plainWorld poweredRun).log) ∧
      bytes "fall:yes" <:+: firstReport false true := by
  have hlog : (runHelmet plainWorld (poweredRun ++
      [(impactEnv, .timer .motionPoll []), (plainEnv, .timer .reportTick [])])).log =
        [] ++ .report true (firstReport false true) ::
          ([] ++ .accel 2000 :: (runHelmet plainWorld poweredRun).log) := by
    decide +kernel
  exact ⟨hlog, (fall_reported plainWorld _ hlog (by decide) (by simp) (by simp)).2⟩

theorem fall_lost_by_restart :
    let h := runHelmet plainWorld (poweredRun ++ [(impactEnv, .timer .motionPoll []),
      (plainEnv, .moreData [bytes "RESTART_SENSOR\r\n"]), (plainEnv, .timer .reportTick [])])
    h.powered = true ∧ fallImpactMg ≤ 2000 ∧
      h.log = .report false (firstReport true false) ::
        ([.restart, .restart] ++ .accel 2000 :: (runHelmet plainWorld poweredRun).log) := by
  decide +kernel

end SmartHelmet.Firmware
