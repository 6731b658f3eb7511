import SmartHelmet.FallLatch
import SmartHelmet.FilterRanges
import SmartHelmet.History
import SmartHelmet.ScratchBuffers

namespace SmartHelmet.Vitals

open Config MachineArith RingBuffer

/-- What was pushed since the last restart: the samples after the high pass and the canceller,
the samples themselves, and those of the accelerometer. -/
structure Pushed where
  hps : List ℤ
  mvs : List ℕ
  slots : List AccelSlot

def notePushed (b : Build) (s : State) (c : Call) (g : Pushed) : Pushed :=
  match c with
  | .init => ⟨[], [], []⟩
  | .sens mv _ => { g with hps := g.hps ++ [pushedHp b s mv], mvs := g.mvs ++ [mv.toNat] }
  | .accel x y z => { g with slots := g.slots ++ [⟨accelMag x y z, x.toInt, y.toInt, z.toInt⟩] }
  | _ => g

def pushedSinceInit (b : Build) (calls : List Call) : Pushed :=
  History.after (callStep b) (notePushed b) boot ⟨[], [], []⟩ calls

def lowPassFrom (y : ℤ) : List ℤ → List ℤ
  | [] => []
  | x :: xs => OnePole.step hrLpAlphaQ8 x y :: lowPassFrom (OnePole.step hrLpAlphaQ8 x y) xs

def lowPassed : List ℤ → List ℤ
  | [] => []
  | x :: xs => x :: lowPassFrom x xs

def breathMeans (mvs : List ℕ) : List ℤ :=
  (List.range (mvs.length / respDecim)).map (fun k => ((mvs.drop (respDecim * k)).take respDecim).sum / respDecim)

def trackDc : Option ℤ → ℤ → ℤ
  | none, v => v * 256
  | some dc, v => OnePole.step 12 (v * 256) dc

def breathOut : Option ℤ → List ℤ → List ℤ
  | _, [] => []
  | dc, v :: vs => clampI16 (v - trackDc dc v / 256) :: breathOut (some (trackDc dc v)) vs

def breathEntries (mvs : List ℕ) : List ℤ := breathOut none (breathMeans mvs)

section LowPass

theorem lowPassFrom_within {lo hi y : ℤ} {xs : List ℤ} (hy : lo ≤ y ∧ y ≤ hi) (hxs : ∀ x ∈ xs, lo ≤ x ∧ x ≤ hi) :
    ∀ v ∈ lowPassFrom y xs, lo ≤ v ∧ v ≤ hi := by
  induction xs generalizing y with
  | nil => rintro v ⟨⟩
  | cons x xs ih =>
    obtain ⟨hx, hxs⟩ := List.forall_mem_cons.mp hxs
    have hstep := step_within (a := hrLpAlphaQ8) (by decide) (by decide) hx hy
    exact List.forall_mem_cons.mpr ⟨hstep, ih hstep hxs⟩

theorem lowPassed_within {lo hi : ℤ} {xs : List ℤ} (hxs : ∀ x ∈ xs, lo ≤ x ∧ x ≤ hi) :
    ∀ v ∈ lowPassed xs, lo ≤ v ∧ v ≤ hi := by
  cases xs with
  | nil => rintro v ⟨⟩
  | cons x xs =>
    obtain ⟨hx, hxs⟩ := List.forall_mem_cons.mp hxs
    exact List.forall_mem_cons.mpr ⟨hx, lowPassFrom_within hx hxs⟩

theorem bandPass_eq {y : ℤ} {xs : List ℤ} (hy : -32768 ≤ y ∧ y ≤ 32767) (hxs : ∀ x ∈ xs, -32768 ≤ x ∧ x ≤ 32767) :
    bandPass y xs = lowPassFrom y xs := by
  induction xs generalizing y with
  | nil => rfl
  | cons x xs ih =>
    obtain ⟨hx, hxs⟩ := List.forall_mem_cons.mp hxs
    have hstep := step_within (a := hrLpAlphaQ8) (by decide) (by decide) hx hy
    have hcast : i16 (OnePole.step hrLpAlphaQ8 x y) = OnePole.step hrLpAlphaQ8 x y := by
      apply Int.bmod_eq_of_le <;> omega
    rw [lowPassFrom, ← ih hstep hxs]
    change i16 (OnePole.step hrLpAlphaQ8 x y) :: _ = _
    rw [hcast]
    rfl

end LowPass

section Breath

variable {mvs : List ℕ} {mv : ℕ}

def dcAfter (vs : List ℤ) : Option ℤ := vs.foldl (fun dc v => some (trackDc dc v)) none

theorem breathOut_concat (vs : List ℤ) (v : ℤ) :
    breathOut none (vs ++ [v]) = breathOut none vs ++ [clampI16 (v - trackDc (dcAfter vs) v / 256)] := by
  have hfrom (dc : Option ℤ) : breathOut dc (vs ++ [v]) =
      breathOut dc vs ++ [clampI16 (v - trackDc (vs.foldl (fun dc v => some (trackDc dc v)) dc) v / 256)] := by
    induction vs generalizing dc with
    | nil => rfl
    | cons w vs ih => rw [List.cons_append, breathOut, ih, breathOut, List.cons_append, List.foldl_cons]
  exact hfrom none

theorem dcAfter_concat (vs : List ℤ) (v : ℤ) : dcAfter (vs ++ [v]) = some (trackDc (dcAfter vs) v) := by
  rw [dcAfter, List.foldl_append, List.foldl_cons, List.foldl_nil]
  rfl

theorem length_breathEntries (mvs : List ℕ) : (breathEntries mvs).length = mvs.length / respDecim := by
  have hout (dc : Option ℤ) (vs : List ℤ) : (breathOut dc vs).length = vs.length := by
    induction vs generalizing dc with
    | nil => rfl
    | cons v vs ih => rw [breathOut, List.length_cons, ih, List.length_cons]
  rw [breathEntries, hout, breathMeans, List.length_map, List.length_range]

theorem group_concat (mvs : List ℕ) (mv : ℕ) {k : ℕ} (hk : k < mvs.length / respDecim) :
    ((mvs ++ [mv]).drop (respDecim * k)).take respDecim = (mvs.drop (respDecim * k)).take respDecim := by
  simp only [respDecim] at hk ⊢
  rw [List.drop_append_of_le_length (by omega), List.take_append_of_le_length (by rw [List.length_drop]; omega)]

theorem breathMeans_concat_of_lt (h : mvs.length % respDecim + 1 < respDecim) :
    breathMeans (mvs ++ [mv]) = breathMeans mvs := by
  have hlen : (mvs ++ [mv]).length / respDecim = mvs.length / respDecim := by
    rw [List.length_append, List.length_singleton]
    simp only [respDecim] at h ⊢
    omega
  rw [breathMeans, breathMeans, hlen]
  apply List.map_congr_left
  intro k hk
  rw [group_concat mvs mv (List.mem_range.mp hk)]

theorem breathMeans_concat_of_eq (h : mvs.length % respDecim + 1 = respDecim) :
    breathMeans (mvs ++ [mv]) =
      breathMeans mvs ++ [(((mvs.drop (respDecim * (mvs.length / respDecim))).sum + mv : ℕ) : ℤ) / respDecim] := by
  have hlen : (mvs ++ [mv]).length / respDecim = mvs.length / respDecim + 1 := by
    rw [List.length_append, List.length_singleton]
    simp only [respDecim] at h ⊢
    omega
  have hlast : ((mvs ++ [mv]).drop (respDecim * (mvs.length / respDecim))).take respDecim =
      mvs.drop (respDecim * (mvs.length / respDecim)) ++ [mv] := by
    simp only [respDecim] at h ⊢
    rw [List.drop_append_of_le_length (by omega), List.take_of_length_le]
    rw [List.length_append, List.length_drop, List.length_singleton]
    omega
  rw [breathMeans, breathMeans, hlen, List.range_succ, List.map_append, List.map_singleton, hlast, List.sum_append,
    List.sum_singleton]
  congr 1
  apply List.map_congr_left
  intro k hk
  rw [group_concat mvs mv (List.mem_range.mp hk)]

structure BreathHolds (r : Resp) (mvs : List ℕ) : Prop where
  decimN : r.decimN = mvs.length % respDecim
  decimAcc : r.decimAcc = (mvs.drop (respDecim * (mvs.length / respDecim))).sum
  dc : (if r.dcValid then some r.dc else none) = dcAfter (breathMeans mvs)
  ring : r.ring.Holds (breathEntries mvs)

theorem BreathHolds.push {r : Resp} (h : BreathHolds r mvs) (mv : ℕ) : BreathHolds (shRespPush r mv) (mvs ++ [mv]) := by
  have hmod : mvs.length % respDecim < respDecim := Nat.mod_lt _ (by decide)
  have hcount : u8 (r.decimN + 1) = mvs.length % respDecim + 1 := by
    rw [h.decimN]
    simp only [respDecim] at hmod ⊢
    exact Nat.mod_eq_of_lt (by omega)
  have hlen : (mvs ++ [mv]).length = mvs.length + 1 := by rw [List.length_append, List.length_singleton]
  rw [shRespPush, hcount]
  dsimp only
  by_cases hmore : mvs.length % respDecim + 1 < respDecim
  · rw [if_pos hmore]
    refine ⟨?_, ?_, ?_, ?_⟩
    · rw [hlen]
      simp only [respDecim] at hmore ⊢
      omega
    · have hquot : (mvs.length + 1) / respDecim = mvs.length / respDecim := by
        simp only [respDecim] at hmore ⊢
        omega
      have hdrop : respDecim * (mvs.length / respDecim) ≤ mvs.length := Nat.mul_div_le _ _
      rw [hlen, hquot, List.drop_append_of_le_length hdrop, List.sum_append, List.sum_singleton, Nat.cast_add,
        h.decimAcc]
    · rw [breathMeans_concat_of_lt hmore]
      exact h.dc
    · rw [breathEntries, breathMeans_concat_of_lt hmore]
      exact h.ring
  · have hfull : mvs.length % respDecim + 1 = respDecim := by omega
    have hmean : (r.decimAcc + mv).tdiv respDecim =
        (((mvs.drop (respDecim * (mvs.length / respDecim))).sum + mv : ℕ) : ℤ) / respDecim := by
      rw [h.decimAcc, ← Nat.cast_add, Int.tdiv_eq_ediv_of_nonneg (Int.natCast_nonneg _)]
    have htrack (v : ℤ) : (if r.dcValid then r.dc + ((v * 256 - r.dc) * 12).tdiv 256 else v * 256) =
        trackDc (dcAfter (breathMeans mvs)) v := by
      rw [← h.dc]
      split_ifs <;> rfl
    rw [if_neg hmore, hmean, htrack]
    refine ⟨?_, ?_, ?_, ?_⟩
    · rw [hlen]
      simp only [respDecim] at hfull ⊢
      omega
    · have hdrop : (mvs ++ [mv]).length ≤ respDecim * ((mvs ++ [mv]).length / respDecim) := by
        rw [hlen]
        simp only [respDecim] at hfull ⊢
        omega
      rw [List.drop_eq_nil_of_le hdrop]
      rfl
    · rw [breathMeans_concat_of_eq hfull, dcAfter_concat]
      rfl
    · rw [breathEntries, breathMeans_concat_of_eq hfull, breathOut_concat]
      exact h.ring.push _

end Breath

section Statistics

theorem shEnergyI16_perm {xs ys : List ℤ} (h : xs.Perm ys) : shEnergyI16 xs = shEnergyI16 ys := by
  have hsum (zs : List ℤ) := foldl_shAccSat (fun v : ℤ => u32OfInt (v * v)) (fun v => by unfold u32OfInt; omega) zs 0
    (by norm_num)
  rw [shEnergyI16, shEnergyI16, hsum, hsum, h.length_eq, (h.map _).sum_eq]

theorem shMeanAbsI16_perm {xs ys : List ℤ} (h : xs.Perm ys) : shMeanAbsI16 xs = shMeanAbsI16 ys := by
  have hsum (zs : List ℤ) : zs.foldl (fun s v => u32 (s + v.natAbs)) 0 = u32 (0 + (zs.map Int.natAbs).sum) := by
    rw [← foldl_u32 _ 0 (by norm_num), List.foldl_map]
  rw [shMeanAbsI16, shMeanAbsI16, hsum, hsum, h.length_eq, (h.map _).sum_eq]

end Statistics

section Runs

structure RingsHold (v : SampleVars) (g : Pushed) : Prop where
  sens : v.sens.Holds g.hps
  resp : BreathHolds v.resp g.mvs
  motion : v.motion.Holds g.slots
  range : ∀ x ∈ g.hps, -32768 ≤ x ∧ x ≤ 32767
  length : g.hps.length = g.mvs.length

theorem ringsHold_boot : RingsHold (sampleVars boot) ⟨[], [], []⟩ where
  sens := Ring.holds_zeroed _ _
  resp := ⟨rfl, rfl, rfl, Ring.holds_zeroed _ _⟩
  motion := Ring.holds_zeroed _ _
  range := by rintro x ⟨⟩
  length := rfl

theorem ringsHold_callStep (b : Build) (s : State) (g : Pushed) (c : Call) (h : RingsHold (sampleVars s) g) :
    RingsHold (sampleVars (callStep b s c)) (notePushed b s c g) := by
  cases c with
  | init =>
    rw [callStep, sampleVars_vitalsInit]
    exact ringsHold_boot
  | sens mv timeUs =>
    rw [callStep, sampleVars_vitalsPushSensInMvAt]
    refine ⟨h.sens.push _, h.resp.push _, h.motion, ?_, ?_⟩
    · intro x hx
      rcases List.mem_append.mp hx with hx | hx
      · exact h.range x hx
      · rw [List.mem_singleton.mp hx]
        exact pushedHp_range b s mv
    · simp only [notePushed, List.length_append, List.length_singleton, h.length]
  | accel x y z =>
    rw [callStep, sampleVars_vitalsPushAccel]
    exact ⟨h.sens, h.resp, h.motion.push _, h.range, h.length⟩
  | onSensSample =>
    rw [callStep, sampleVars_vitalsOnSensSample]
    exact h
  | process =>
    rw [callStep, sampleVars_of_signals (signals_vitalsProcess b s)]
    exact h
  | dropped | pirEvent | takeFall => exact h

theorem ringsHold_run (b : Build) (calls : List Call) :
    RingsHold (sampleVars (calls.foldl (callStep b) boot)) (pushedSinceInit b calls) :=
  History.invariant (callStep b) (notePushed b) (P := fun s g => RingsHold (sampleVars s) g) ringsHold_boot
    (fun s g c h => ringsHold_callStep b s g c h) calls

theorem shCopySensOrdered_eq {s : State} {hps : List ℤ} (h : s.sens.Holds hps)
    (hrange : ∀ x ∈ hps, -32768 ≤ x ∧ x ≤ 32767) (n : ℕ) :
    shCopySensOrdered s n = lowPassed (Ring.recent (min n s.sens.count) hps) := by
  have hin : ∀ x ∈ Ring.recent (min n s.sens.count) hps, -32768 ≤ x ∧ x ≤ 32767 :=
    fun x hx => hrange x (List.mem_of_mem_drop hx)
  rw [shCopySensOrdered, h.ordered_eq (min_le_right _ _)]
  cases hw : Ring.recent (min n s.sens.count) hps with
  | nil => rfl
  | cons x xs =>
    rw [hw] at hin
    obtain ⟨hx, hxs⟩ := List.forall_mem_cons.mp hin
    rw [lowPassed, ← bandPass_eq hx hxs]

theorem newest_two {s : State} {slots : List AccelSlot} (h : s.motion.Holds slots) (hlen : 2 ≤ slots.length) :
    slots.drop (slots.length - 2) = [s.motion.back 2, s.motion.back 1] := by
  have h2 := h.back_eq (k := 2) (by norm_num) (by decide) hlen
  have h1 := h.back_eq (k := 1) (by norm_num) (by decide) (by omega)
  rw [List.getElem?_eq_getElem (by omega), Option.some.injEq] at h1 h2
  rw [List.drop_eq_getElem_cons (by omega), List.drop_eq_getElem_cons (by omega), List.drop_eq_nil_of_le (by omega), h1, h2]
  simp only [show slots.length - 2 + 1 = slots.length - 1 by omega]

end Runs

/-- The rings of every run, and what is read from them. -/
theorem rings_hold_recent (b : Build) (calls : List Call) (n : ℕ) :
    let s := calls.foldl (callStep b) boot
    let g := pushedSinceInit b calls
    let w := Ring.recent (min n s.sens.count) g.hps
    (g.hps.length = g.mvs.length ∧ s.sens.count = min g.mvs.length 100 ∧ s.sens.idx = g.mvs.length % 100) ∧
      (shCopySensOrdered s n = lowPassed w ∧
        (∀ cells : List ℤ, cells.length = 100 →
          (copySensOrdered s n cells).2 = min n s.sens.count ∧
          (copySensOrdered s n cells).1.take (min n s.sens.count) = lowPassed w) ∧
        ∀ lo hi, (∀ x ∈ w, lo ≤ x ∧ x ≤ hi) → ∀ y ∈ lowPassed w, lo ≤ y ∧ y ≤ hi) ∧
      (sensEnergy s = shEnergyI16 (Ring.recent 100 g.hps) ∧ sensAbs s = shMeanAbsI16 (Ring.recent 100 g.hps)) ∧
      ((breathEntries g.mvs).length = g.mvs.length / 8 ∧ s.resp.ring.count = min (g.mvs.length / 8) 64 ∧
        s.resp.ring.idx = g.mvs.length / 8 % 64 ∧
        ∀ k ≤ s.resp.ring.count, s.resp.ring.ordered k = Ring.recent k (breathEntries g.mvs)) ∧
      (s.motion.count = min g.slots.length 25 ∧ s.motion.idx = g.slots.length % 25 ∧
        (∀ k ≤ s.motion.count, s.motion.ordered k = Ring.recent k g.slots) ∧
        (2 ≤ g.slots.length → Ring.recent 2 g.slots = [s.motion.back 2, s.motion.back 1])) := by
  intro s g w
  have h : RingsHold (sampleVars s) g := ringsHold_run b calls
  have hsens : s.sens.Holds g.hps := h.sens
  have hresp : s.resp.ring.Holds (breathEntries g.mvs) := h.resp.ring
  have hmotion : s.motion.Holds g.slots := h.motion
  have hcopy : shCopySensOrdered s n = lowPassed w := shCopySensOrdered_eq hsens h.range n
  refine ⟨⟨h.length, ?_, ?_⟩, ⟨hcopy, ?_, fun lo hi hw => lowPassed_within hw⟩, ⟨?_, ?_⟩,
    ⟨length_breathEntries g.mvs, ?_, ?_, ?_⟩, hmotion.count_eq, hmotion.idx_eq, fun k hk => hmotion.ordered_eq hk, newest_two hmotion⟩
  · rw [← h.length]
    exact hsens.count_eq
  · rw [← h.length]
    exact hsens.idx_eq
  · intro cells hcells
    have hlen : (copySensOrdered s n cells).2 = min n s.sens.count := by
      unfold copySensOrdered
      dsimp only
      split_ifs with hzero
      · exact hzero.symm
      · rfl
    refine ⟨hlen, ?_⟩
    rw [← hlen, take_copySensOrdered s n hcells, hcopy]
  · exact shEnergyI16_perm hsens.live_perm
  · exact shMeanAbsI16_perm hsens.live_perm
  · rw [hresp.count_eq, length_breathEntries]
    rfl
  · rw [hresp.idx_eq, length_breathEntries]
    rfl
  · intro k hk
    exact hresp.ordered_eq hk

def wrappingPushes : List Call :=
  .init :: (List.range 30).map (fun n => Call.accel 0 0 (900 + .ofNat n)) ++
    (List.range 130).map fun n => Call.sens (1600 + .ofNat (n % 128)) 0

theorem rings_hold_wrapped :
    let s := wrappingPushes.foldl (callStep defaultBuild) boot
    let g := pushedSinceInit defaultBuild wrappingPushes
    (s.sens.count = 100 ∧ s.sens.idx = 30 ∧ shCopySensOrdered s 100 = lowPassed (g.hps.drop 30)) ∧
      (s.resp.ring.count = 16 ∧ s.resp.ring.idx = 16) ∧
      (s.motion.count = 25 ∧ s.motion.idx = 5 ∧ s.motion.ordered 25 = g.slots.drop 5 ∧
        [s.motion.back 2, s.motion.back 1] = [⟨928, 0, 0, 928⟩, ⟨929, 0, 0, 929⟩]) := by
  have hmvs : (pushedSinceInit defaultBuild wrappingPushes).mvs.length = 130 := by decide +kernel
  have hslots : (pushedSinceInit defaultBuild wrappingPushes).slots.length = 30 := by decide +kernel
  have htwo : Ring.recent 2 (pushedSinceInit defaultBuild wrappingPushes).slots = [⟨928, 0, 0, 928⟩, ⟨929, 0, 0, 929⟩] := by
    decide +kernel
  have hall := rings_hold_recent defaultBuild wrappingPushes 100
  dsimp only at hall ⊢
  generalize wrappingPushes.foldl (callStep defaultBuild) boot = s at hall ⊢
  generalize pushedSinceInit defaultBuild wrappingPushes = g at hmvs hslots htwo hall ⊢
  obtain ⟨⟨hhps, hcount, hidx⟩, ⟨hcopy, -⟩, -, ⟨-, hresp, hrespIdx, -⟩, hmotion, hmotionIdx, hordered, hnewest⟩ := hall
  rw [hmvs] at hhps hcount hidx hresp hrespIdx
  rw [hslots] at hmotion hmotionIdx hnewest
  refine ⟨⟨hcount, hidx, ?_⟩, ⟨hresp, hrespIdx⟩, hmotion, hmotionIdx, ?_, ?_⟩
  · rw [hcopy, hcount, Ring.recent, hhps]
    rfl
  · rw [hordered 25 hmotion.ge, Ring.recent, hslots]
  · rw [← hnewest (by decide), htwo]

end SmartHelmet.Vitals
