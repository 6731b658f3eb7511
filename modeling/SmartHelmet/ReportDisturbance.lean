import SmartHelmet.LatchFrame
import SmartHelmet.ModuleTask

namespace SmartHelmet.Firmware

open Config MachineArith
open Vitals (AlikeButFall)

inductive Feed where
  | sample (mv : UInt16) (timeUs : UInt32)
  | dropped
  | poll (e : Env)
  | report (e : Env)
  | log (e : Env)

def Feed.inserted : Feed → Bool
  | .report _ => true
  | .log _ => true
  | _ => false

def feed (w : World) (h : Helmet) : Feed → Helmet
  | .sample mv timeUs => shAdcFeedVitalsSens w { timeUs := timeUs } mv h
  | .dropped => { h with vitals := Vitals.vitalsNoteSensDropped h.vitals }
  | .poll e => motionPoll w e h
  | .report e => reportStart w e h
  | .log e => shLis3dhLogSample w e h

structure Published where
  hrValid : Bool
  hrBpm : ℕ
  hrChange : Vitals.TrendFlag
  hrWinLeft : ℕ
  trend : Vitals.TrendFlag
  motion : Vitals.MotionGate
  deriving DecidableEq

def published (h : Helmet) : Published where
  hrValid := h.vitals.status.hrValid
  hrBpm := h.vitals.status.hrBpm
  hrChange := h.vitals.status.hrChange
  hrWinLeft := h.vitals.status.hrWinLeft
  trend := h.vitals.status.trend
  motion := h.vitals.status.motion

def closesWindow (h : Helmet) : Feed → Bool
  | .sample _ _ => decide (incSat 0xff h.vitals.sensSinceProcess ≥ motionWin)
  | _ => false

def sensWindows (w : World) (h : Helmet) : List Feed → List Published
  | [] => []
  | f :: fs =>
    if closesWindow h f then published (feed w h f) :: sensWindows w (feed w h f) fs
    else sensWindows w (feed w h f) fs

structure Alike (h h' : Helmet) : Prop where
  vitals : AlikeButFall h.vitals h'.vitals
  sensors : h'.sensors = h.sensors
  powered : h'.powered = h.powered

variable {w : World} {h h' : Helmet}

theorem Alike.published (halike : Alike h h') : published h' = published h := by
  obtain ⟨p, q, hv⟩ := halike.vitals
  unfold Firmware.published
  rw [hv]
  rfl

theorem Alike.closesWindow (halike : Alike h h') (f : Feed) : closesWindow h' f = closesWindow h f := by
  obtain ⟨p, q, hv⟩ := halike.vitals
  cases f with
  | sample mv timeUs =>
    unfold Firmware.closesWindow
    rw [hv]
    rfl
  | _ => rfl

theorem Alike.poll (halike : Alike h h') (e : Env) : Alike (motionPoll w e h) (motionPoll w e h') := by
  unfold motionPoll
  rw [halike.powered]
  split
  · exact halike
  · dsimp only
    have hpolled : (sensorsPollLis3dh e h').sensors = (sensorsPollLis3dh e h).sensors := by
      unfold sensorsPollLis3dh
      rw [halike.sensors]
    rw [hpolled]
    split
    · exact ⟨halike.vitals.pushAccel w.build _ _ _, hpolled, halike.powered⟩
    · exact ⟨halike.vitals, hpolled, halike.powered⟩

theorem Alike.feed (halike : Alike h h') {f : Feed} (hf : f.inserted = false) :
    Alike (feed w h f) (feed w h' f) := by
  cases f with
  | sample mv timeUs =>
    exact ⟨(halike.vitals.pushSens w.build mv timeUs).onSensSample w.build, halike.sensors, halike.powered⟩
  | dropped => exact ⟨halike.vitals.dropped, halike.sensors, halike.powered⟩
  | poll e => exact halike.poll e
  | report e => exact absurd hf (by simp [Feed.inserted])
  | log e => exact absurd hf (by simp [Feed.inserted])

theorem reportBuild_held (h : Helmet) : (reportBuild h).1.vitals = (Vitals.vitalsTakeFall h.vitals).1 ∧
    (reportBuild h).1.sensors = h.sensors ∧ (reportBuild h).1.powered = h.powered ∧
      (reportBuild h).1.link.passthrough = h.link.passthrough := by
  obtain ⟨holding, quiet, since, hlatch⟩ := latchMotion_eq h
  unfold reportBuild
  rw [hlatch]
  exact ⟨rfl, rfl, rfl, rfl⟩

theorem Alike.heldReport (halike : Alike h h') (e : Env) (hheld : canSend h' = false) :
    Alike h (reportStart w e h') := by
  obtain ⟨hv, hs, hp, _⟩ := reportBuild_held h'
  rw [reportStart, if_neg (by simp [hheld])]
  refine ⟨?_, hs.trans halike.sensors, hp.trans halike.powered⟩
  have hsame : (reportArm (reportBuild h').1).vitals = (reportBuild h').1.vitals := rfl
  rw [hsame, hv]
  exact halike.vitals.takeFall

theorem canSend_heldReport (e : Env) (hheld : canSend h = false) : canSend (reportStart w e h) = false := by
  obtain ⟨_, hs, _, hl⟩ := reportBuild_held h
  have hlink : (reportArm (reportBuild h).1).link = (reportBuild h).1.link := rfl
  have hsensors : (reportArm (reportBuild h).1).sensors = (reportBuild h).1.sensors := rfl
  rw [reportStart, if_neg (by simp [hheld]), canSend, hlink, hsensors, hs, hl]
  exact hheld

theorem canSend_feed {f : Feed} (hf : f.inserted = false) : canSend (feed w h f) = canSend h := by
  cases f with
  | sample mv timeUs => rfl
  | dropped => rfl
  | poll e =>
    have hpoll (s : Sensors) : shSensorsRequiredOk (pollLis3dh e.lis3dhPoll s) = shSensorsRequiredOk s := by
      unfold pollLis3dh
      split
      · split <;> simp only [shSensorsRequiredOk]
      · rfl
    have hpolled : canSend (sensorsPollLis3dh e h) = canSend h := by
      unfold canSend sensorsPollLis3dh
      rw [hpoll]
    unfold feed motionPoll
    dsimp only
    split
    · rfl
    · split <;> exact hpolled
  | report e => exact absurd hf (by simp [Feed.inserted])
  | log e => exact absurd hf (by simp [Feed.inserted])

theorem sensWindows_alike (fs : List Feed) :
    ∀ h h' : Helmet, Alike h h' → (∀ e, .report e ∈ fs → canSend h' = false) →
      (∀ e, .log e ∈ fs → e.lis3dhLog = none) →
      sensWindows w h' fs = sensWindows w h (fs.filter (fun f => !f.inserted)) := by
  induction fs with
  | nil => exact fun h h' _ _ _ => rfl
  | cons f fs ih =>
    intro h h' halike hreport hlog
    have hlog' : ∀ e, .log e ∈ fs → e.lis3dhLog = none := fun e he => hlog e (List.mem_cons_of_mem _ he)
    cases hf : f.inserted with
    | false =>
      have hnext := ih _ _ (halike.feed (w := w) hf)
        (fun e he => (canSend_feed hf).trans (hreport e (List.mem_cons_of_mem _ he))) hlog'
      rw [List.filter_cons_of_pos (by simp [hf]), sensWindows, sensWindows, halike.closesWindow,
        (halike.feed hf).published, hnext]
    | true =>
      rw [List.filter_cons_of_neg (by simp [hf]), sensWindows]
      cases f with
      | report e =>
        have hheld := hreport e List.mem_cons_self
        have hnext := ih _ _ (halike.heldReport (w := w) e hheld) (fun _ _ => canSend_heldReport e hheld) hlog'
        exact hnext
      | log e =>
        have hfail : feed w h' (.log e) = h' := by
          simp only [feed, shLis3dhLogSample, hlog e List.mem_cons_self]
        rw [hfail]
        exact ih _ _ halike (fun e he => hreport e (List.mem_cons_of_mem _ he)) hlog'
      | sample mv timeUs => exact absurd hf (by simp [Feed.inserted])
      | dropped => exact absurd hf (by simp [Feed.inserted])
      | poll e => exact absurd hf (by simp [Feed.inserted])

/-- Where no inserted report can be sent and every inserted log read fails, the windows are those
of the samples alone. -/
theorem sensWindows_undisturbed (w : World) (h : Helmet) (fs : List Feed)
    (hreport : ∀ e, .report e ∈ fs → canSend h = false) (hlog : ∀ e, .log e ∈ fs → e.lis3dhLog = none) :
    sensWindows w h fs = sensWindows w h (fs.filter (fun f => !f.inserted)) :=
  sensWindows_alike fs h h ⟨AlikeButFall.refl _, rfl, rfl⟩ hreport hlog

def stillEnv : Env := { plainEnv with lis3dhPoll := some ⟨0, 0, 0, 0, 0x80, 0x3e⟩ }

def steadySamples (n : ℕ) : List Feed := List.replicate n (.sample 1000 0)

theorem sensWindows_undisturbed_held :
    sensWindows plainWorld (runHelmet plainWorld poweredRun)
        (steadySamples 10 ++ .report stillEnv :: steadySamples 15) =
      sensWindows plainWorld (runHelmet plainWorld poweredRun)
        ((steadySamples 10 ++ .report stillEnv :: steadySamples 15).filter (fun f => !f.inserted)) := by
  have hheld : canSend (runHelmet plainWorld poweredRun) = false := by decide
  have hlog : ∀ e, Feed.log e ∈ steadySamples 10 ++ .report stillEnv :: steadySamples 15 →
      e.lis3dhLog = none := by
    intro e he
    simp [steadySamples] at he
  exact sensWindows_undisturbed plainWorld _ _ (fun _ _ => hheld) hlog

def stillRun : List (Env × Event) :=
  [(stillEnv, .init), (stillEnv, .powerOn)] ++ List.replicate 7 (stillEnv, .timer .linkCheck [])

theorem report_disturbs_window :
    sensWindows plainWorld (runHelmet plainWorld stillRun)
        (steadySamples 10 ++ .report stillEnv :: steadySamples 15) ≠
      sensWindows plainWorld (runHelmet plainWorld stillRun)
        ((steadySamples 10 ++ .report stillEnv :: steadySamples 15).filter (fun f => !f.inserted)) := by
  decide +kernel

end SmartHelmet.Firmware
