import SmartHelmet.CancellerRange

namespace SmartHelmet.Vitals

open Config MachineArith RingBuffer Firmware

structure SampleVars where
  motion : Ring AccelSlot motionWin
  hp : HighPass
  sens : Ring ℤ bandWin
  sensHp : HighPass
  bio : Bio
  resp : Resp
  adapt : Adapt

def sampleVars (s : State) : SampleVars where
  motion := s.motion
  hp := s.hp
  sens := s.sens
  sensHp := s.sensHp
  bio := s.bio
  resp := s.resp
  adapt := s.adapt

section Frame

theorem sampleVars_of_signals {s s' : State} (h : signals s' = signals s) : sampleVars s' = sampleVars s := by
  have hvars (t : State) : sampleVars t =
      ⟨(signals t).motion, (signals t).hp, (signals t).sens, (signals t).sensHp, (signals t).bio, (signals t).resp,
        (signals t).adapt⟩ := rfl
  rw [hvars, hvars, h]

theorem sampleVars_vitalsOnSensSample (b : Build) (s : State) : sampleVars (vitalsOnSensSample b s) = sampleVars s := by
  rw [vitalsOnSensSample]
  split_ifs
  · have hprocess := sampleVars_of_signals (signals_vitalsProcess b { s with sensSinceProcess := 0 })
    exact hprocess
  · rfl

theorem sampleVars_noteSensEdge (s : State) (hp : ℤ) : sampleVars (noteSensEdge s hp) = sampleVars s := by
  rw [noteSensEdge]
  dsimp only
  split_ifs <;> rfl

def pushedHp (b : Build) (s : State) (mv : UInt16) : ℤ :=
  let hp := (shHighPass s.sensHp mv.toNat).2
  (if b.hrMotionAdapt then shMotionCancel s.adapt hp else (s.adapt, hp)).2

theorem sampleVars_vitalsPushSensInMvAt (b : Build) (s : State) (mv : UInt16) (timeUs : UInt32) :
    sampleVars (vitalsPushSensInMvAt b s mv timeUs) =
      { sampleVars s with
        sens := s.sens.push (pushedHp b s mv)
        sensHp := (shHighPass s.sensHp mv.toNat).1
        bio := shBioPush s.bio (pushedHp b s mv)
        resp := shRespPush s.resp mv.toNat
        adapt := if b.hrMotionAdapt then (shMotionCancel s.adapt (shHighPass s.sensHp mv.toNat).2).1 else s.adapt } := by
  rw [vitalsPushSensInMvAt, sampleVars_noteSensEdge]
  unfold pushedHp
  split_ifs <;> rfl

theorem sampleVars_vitalsPushAccel (b : Build) (s : State) (x y z : Int16) :
    sampleVars (vitalsPushAccel b s x y z) =
      { sampleVars s with
        motion := s.motion.push ⟨accelMag x y z, x.toInt, y.toInt, z.toInt⟩
        hp := (shHighPass s.hp (accelMag x y z)).1
        adapt := if b.hrMotionAdapt then adaptPushAccel s.adapt x y z else s.adapt } := rfl

end Frame

section Expressions

def HighPassFits (f : HighPass) (x : ℤ) : Prop :=
  FitsI32 (x - f.prevX) ∧ FitsI32 (f.prevY * 243) ∧ FitsI32 (x - f.prevX + (f.prevY * 243).tdiv 256)

def PoleFits (a x y : ℤ) : Prop := FitsI32 (x - y) ∧ FitsI32 ((x - y) * a) ∧ FitsI32 (OnePole.step a x y)

/-- The level is a 16-bit variable, so its new value must not wrap either. -/
def LevelFits (a band : ℤ) (level : ℕ) : Prop :=
  FitsI32 band ∧ FitsI32 (-band) ∧ PoleFits a (min |band| 32767) level ∧
    (levelPole a band level : ℤ) = OnePole.step a (min |band| 32767) level

structure BioFits (b : Bio) (x : ℤ) : Prop where
  lpFast : PoleFits 136 x b.lpFast
  lpSlow : PoleFits 47 x b.lpSlow
  respFast : PoleFits 27 x b.respFast
  respSlow : PoleFits 8 x b.respSlow
  pulse : LevelFits 32 ((shBioPush b x).lpFast - (shBioPush b x).lpSlow) b.pulseAbs
  resp : LevelFits 16 ((shBioPush b x).respFast - (shBioPush b x).respSlow) b.respAbs

structure RespFits (r : Resp) (mv : ℕ) : Prop where
  acc : FitsI32 (r.decimAcc + mv)
  scaled : FitsI32 ((r.decimAcc + mv).tdiv respDecim * 256)
  dc : PoleFits 12 ((r.decimAcc + mv).tdiv respDecim * 256) r.dc
  out : FitsI32 ((r.decimAcc + mv).tdiv respDecim - (shRespPush r mv).dc / 256)

structure AccelFits (s : State) (x y z : ℤ) (mag : ℕ) : Prop where
  squares : FitsI32 (x * x) ∧ FitsI32 (y * y) ∧ FitsI32 (z * z)
  sums : FitsI32 (x * x + y * y) ∧ FitsI32 (x * x + y * y + z * z)
  mag : HighPassFits s.hp mag
  axes : ∀ p ∈ s.adapt.axisHp.zip [x, y, z], HighPassFits p.1 p.2

end Expressions

section Filters

def HeldWithin (m : ℤ) (f : HighPass) : Prop := |f.prevX| ≤ m ∧ |f.prevX - f.prevY| ≤ m

theorem HeldWithin.abs_prevY_le {m : ℤ} {f : HighPass} (h : HeldWithin m f) : |f.prevY| ≤ 2 * m := by
  obtain ⟨hx, hd⟩ := h
  rw [abs_le] at hx hd ⊢
  omega

theorem HeldWithin.step {m x : ℤ} {f : HighPass} (h : HeldWithin m f) (hx : |x| ≤ m) :
    HeldWithin m (shHighPass f x).1 :=
  ⟨(shHighPass_bounds hx h.1 h.2).1, (shHighPass_bounds hx h.1 h.2).2.1⟩

theorem highPassFits {m x : ℤ} {f : HighPass} (hm : m ≤ 65535) (h : HeldWithin m f) (hx : |x| ≤ m) :
    HighPassFits f x := by
  have hprev := abs_le.mp h.1
  have hstate := abs_le.mp h.abs_prevY_le
  have hnext : |x - f.prevX + (f.prevY * 243).tdiv 256| ≤ 2 * m := (h.step hx).abs_prevY_le
  rw [abs_le] at hnext hx
  exact ⟨⟨by omega, by omega⟩, ⟨by omega, by omega⟩, ⟨by omega, by omega⟩⟩

theorem step_within {a lo hi x y : ℤ} (ha : 0 ≤ a) (ha' : a ≤ 256) (hx : lo ≤ x ∧ x ≤ hi) (hy : lo ≤ y ∧ y ≤ hi) :
    lo ≤ OnePole.step a x y ∧ OnePole.step a x y ≤ hi := by
  have := OnePole.step_between ha ha' x y
  omega

theorem poleFits {a lo hi x y : ℤ} (ha : 0 ≤ a) (ha' : a ≤ 256) (hx : lo ≤ x ∧ x ≤ hi) (hy : lo ≤ y ∧ y ≤ hi)
    (hrange : FitsI32 lo ∧ FitsI32 hi) (hwidth : (hi - lo) * a ≤ 2147483647) (hwidth' : hi - lo ≤ 2147483647) :
    PoleFits a x y := by
  have hstep := step_within ha ha' hx hy
  have hdiff : |x - y| ≤ hi - lo := abs_le.mpr ⟨by omega, by omega⟩
  have hscaled : |(x - y) * a| ≤ (hi - lo) * a := by
    rw [abs_mul, abs_of_nonneg ha]
    exact mul_le_mul_of_nonneg_right hdiff ha
  unfold FitsI32 at hrange
  exact ⟨fitsI32_of_abs_le hdiff hwidth', fitsI32_of_abs_le hscaled hwidth, ⟨by omega, by omega⟩⟩

theorem levelPole_eq {a band : ℤ} {level : ℕ} (ha : 0 ≤ a) (ha' : a ≤ 256) (hlevel : level ≤ 32767) :
    (levelPole a band level : ℤ) = OnePole.step a (min |band| 32767) level ∧ levelPole a band level ≤ 32767 := by
  have hcut : (if band.natAbs > 32767 then 32767 else (band.natAbs : ℤ)) = min |band| 32767 := by
    rw [Int.abs_eq_natAbs]
    split_ifs <;> omega
  have hin : 0 ≤ min |band| 32767 ∧ min |band| 32767 ≤ 32767 := ⟨le_min (abs_nonneg _) (by norm_num), min_le_right _ _⟩
  have hstep := step_within ha ha' hin (show 0 ≤ (level : ℤ) ∧ (level : ℤ) ≤ 32767 by omega)
  have heq : (levelPole a band level : ℤ) = OnePole.step a (min |band| 32767) level := by
    rw [levelPole, hcut]
    exact u16OfInt_of_lt hstep.1 (by omega)
  exact ⟨heq, by omega⟩

theorem levelFits {a band : ℤ} {level : ℕ} (ha : 0 ≤ a) (ha' : a ≤ 256) (hband : |band| ≤ 65535)
    (hlevel : level ≤ 32767) : LevelFits a band level := by
  have hin : 0 ≤ min |band| 32767 ∧ min |band| 32767 ≤ 32767 := ⟨le_min (abs_nonneg _) (by norm_num), min_le_right _ _⟩
  refine ⟨fitsI32_of_abs_le hband (by norm_num), fitsI32_of_abs_le ((abs_neg band).trans_le hband) (by norm_num), ?_,
    (levelPole_eq ha ha' hlevel).1⟩
  exact poleFits ha ha' hin (show 0 ≤ (level : ℤ) ∧ (level : ℤ) ≤ 32767 by omega) (by unfold FitsI32; omega)
    (by omega) (by norm_num)

end Filters

section Bio

structure BioKept (b : Bio) : Prop where
  lpFast : -32768 ≤ b.lpFast ∧ b.lpFast ≤ 32767
  lpSlow : -32768 ≤ b.lpSlow ∧ b.lpSlow ≤ 32767
  respFast : -32768 ≤ b.respFast ∧ b.respFast ≤ 32767
  respSlow : -32768 ≤ b.respSlow ∧ b.respSlow ≤ 32767
  pulseAbs : b.pulseAbs ≤ 32767
  respAbs : b.respAbs ≤ 32767

variable {b : Bio} {x : ℤ}

theorem BioKept.push (h : BioKept b) (hx : -32768 ≤ x ∧ x ≤ 32767) : BioKept (shBioPush b x) where
  lpFast := step_within (by norm_num) (by norm_num) hx h.lpFast
  lpSlow := step_within (by norm_num) (by norm_num) hx h.lpSlow
  respFast := step_within (by norm_num) (by norm_num) hx h.respFast
  respSlow := step_within (by norm_num) (by norm_num) hx h.respSlow
  pulseAbs := (levelPole_eq (by norm_num) (by norm_num) h.pulseAbs).2
  respAbs := (levelPole_eq (by norm_num) (by norm_num) h.respAbs).2

theorem bioFits (h : BioKept b) (hx : -32768 ≤ x ∧ x ≤ 32767) : BioFits b x := by
  have hnext := h.push hx
  have hrange : FitsI32 (-32768) ∧ FitsI32 32767 := by
    unfold FitsI32
    omega
  have hband {v w : ℤ} (hv : -32768 ≤ v ∧ v ≤ 32767) (hw : -32768 ≤ w ∧ w ≤ 32767) : |v - w| ≤ 65535 :=
    abs_le.mpr ⟨by omega, by omega⟩
  exact {
    lpFast := poleFits (by norm_num) (by norm_num) hx h.lpFast hrange (by norm_num) (by norm_num)
    lpSlow := poleFits (by norm_num) (by norm_num) hx h.lpSlow hrange (by norm_num) (by norm_num)
    respFast := poleFits (by norm_num) (by norm_num) hx h.respFast hrange (by norm_num) (by norm_num)
    respSlow := poleFits (by norm_num) (by norm_num) hx h.respSlow hrange (by norm_num) (by norm_num)
    pulse := levelFits (by norm_num) (by norm_num) (hband hnext.lpFast hnext.lpSlow) h.pulseAbs
    resp := levelFits (by norm_num) (by norm_num) (hband hnext.respFast hnext.respSlow) h.respAbs }

end Bio

section Breath

structure RespKept (r : Resp) : Prop where
  decimN : r.decimN < respDecim
  decimAcc : 0 ≤ r.decimAcc ∧ r.decimAcc ≤ r.decimN * 65535
  dc : 0 ≤ r.dc ∧ r.dc ≤ 65535 * 256

variable {r : Resp} {mv : ℕ}

theorem decimated_range (h : RespKept r) (hmv : mv ≤ 65535) :
    0 ≤ (r.decimAcc + mv).tdiv respDecim ∧ (r.decimAcc + mv).tdiv respDecim ≤ 65535 := by
  have hn := h.decimN
  have hacc := h.decimAcc
  simp only [respDecim] at hn ⊢
  rw [Int.tdiv_eq_ediv_of_nonneg (by omega)]
  omega

theorem RespKept.push (h : RespKept r) (hmv : mv ≤ 65535) : RespKept (shRespPush r mv) := by
  have hv := decimated_range h hmv
  have hn := h.decimN
  have hacc := h.decimAcc
  have hcount : u8 (r.decimN + 1) = r.decimN + 1 := by
    simp only [respDecim] at hn
    exact Nat.mod_eq_of_lt (by omega)
  have hpos : 0 < respDecim := by decide
  have hempty : (0 : ℤ) ≤ 0 ∧ (0 : ℤ) ≤ (0 : ℕ) * 65535 := ⟨le_rfl, le_rfl⟩
  have hscaled : 0 ≤ (r.decimAcc + mv).tdiv respDecim * 256 ∧ (r.decimAcc + mv).tdiv respDecim * 256 ≤ 65535 * 256 := by
    omega
  rw [shRespPush, hcount]
  dsimp only
  split_ifs with hmore hvalid
  · exact ⟨hmore, by push_cast; omega, h.dc⟩
  · exact ⟨hpos, hempty, step_within (a := 12) (by norm_num) (by norm_num) hscaled h.dc⟩
  · exact ⟨hpos, hempty, hscaled⟩

theorem respFits (h : RespKept r) (hmv : mv ≤ 65535) : RespFits r mv := by
  have hv := decimated_range h hmv
  have hnext := (h.push hmv).dc
  have hn := h.decimN
  have hacc := h.decimAcc
  have hlo : FitsI32 0 ∧ FitsI32 (65535 * 256) := by
    unfold FitsI32
    omega
  simp only [respDecim] at hn
  refine ⟨⟨by omega, by omega⟩, ⟨by omega, by omega⟩, ?_, ⟨by omega, by omega⟩⟩
  exact poleFits (by norm_num) (by norm_num) (show _ ∧ _ by omega) h.dc hlo (by norm_num) (by norm_num)

end Breath

section Runs

structure FiltersKept (m : ℤ) (v : SampleVars) : Prop where
  hp : HeldWithin 65535 v.hp
  sensHp : HeldWithin 65535 v.sensHp
  axes : ∀ f ∈ v.adapt.axisHp, HeldWithin m f
  bio : BioKept v.bio
  resp : RespKept v.resp

theorem FullScale.reach_range (fs : FullScale) : 0 ≤ fs.reach ∧ fs.reach ≤ 24576 := by
  cases fs <;> decide

theorem sampleVars_vitalsInit (s : State) : sampleVars (vitalsInit s) = sampleVars boot := rfl

theorem filtersKept_boot (fs : FullScale) : FiltersKept fs.reach (sampleVars boot) where
  hp := by constructor <;> norm_num [sampleVars, boot]
  sensHp := by constructor <;> norm_num [sampleVars, boot]
  axes := by
    intro f hf
    rw [List.eq_of_mem_replicate hf, HeldWithin]
    simpa using fs.reach_range.1
  bio := ⟨by decide, by decide, by decide, by decide, by decide, by decide⟩
  resp := ⟨by decide, by decide, by decide⟩

theorem axisHp_shMotionCancel (a : Adapt) (hp : ℤ) : (shMotionCancel a hp).1.axisHp = a.axisHp := by
  rw [shMotionCancel]
  split_ifs <;> rfl

theorem clampI16_range (v : ℤ) : -32768 ≤ clampI16 v ∧ clampI16 v ≤ 32767 := by
  rw [clampI16]
  split_ifs <;> omega

theorem pushedHp_range (b : Build) (s : State) (mv : UInt16) : -32768 ≤ pushedHp b s mv ∧ pushedHp b s mv ≤ 32767 := by
  have hhp : -32768 ≤ (shHighPass s.sensHp mv.toNat).2 ∧ (shHighPass s.sensHp mv.toNat).2 ≤ 32767 := clampI16_range _
  rw [pushedHp]
  generalize (shHighPass s.sensHp mv.toNat).2 = hp at hhp
  split_ifs
  · rw [shMotionCancel]
    split_ifs
    · exact hhp
    · exact clampI16_range _
    · exact hhp
  · exact hhp

theorem toNat_u16_le (mv : UInt16) : mv.toNat ≤ 65535 := Nat.le_of_lt_succ mv.toNat_lt

theorem accelMag_le (x y z : Int16) : accelMag x y z ≤ 65535 := Nat.le_of_lt_succ (u16_lt _)

theorem heldWithin_adaptPushAccel {m : ℤ} {a : Adapt} (h : ∀ f ∈ a.axisHp, HeldWithin m f) {x y z : Int16}
    (hx : |x.toInt| ≤ m) (hy : |y.toInt| ≤ m) (hz : |z.toInt| ≤ m) :
    ∀ f ∈ (adaptPushAccel a x y z).axisHp, HeldWithin m f := by
  intro f hf
  simp only [adaptPushAccel, List.map_map, List.mem_map] at hf
  obtain ⟨⟨g, v⟩, hmem, rfl⟩ := hf
  obtain ⟨hg, hv⟩ := List.of_mem_zip hmem
  apply (h g hg).step
  simp only [List.mem_cons, List.not_mem_nil, or_false] at hv
  rcases hv with rfl | rfl | rfl <;> assumption

theorem filtersKept_callStep {fs : FullScale} {b : Build} {s : State} (h : FiltersKept fs.reach (sampleVars s)) {c : Call}
    (hc : FromSensor fs [c]) : FiltersKept fs.reach (sampleVars (callStep b s c)) := by
  cases c with
  | init =>
    rw [callStep, sampleVars_vitalsInit]
    exact filtersKept_boot fs
  | sens mv timeUs =>
    have hmv := toNat_u16_le mv
    rw [callStep, sampleVars_vitalsPushSensInMvAt]
    refine ⟨h.hp, h.sensHp.step ?_, ?_, h.bio.push (pushedHp_range b s mv), h.resp.push hmv⟩
    · rw [abs_of_nonneg (Int.natCast_nonneg _)]
      exact_mod_cast hmv
    · intro f hf
      dsimp only at hf
      split_ifs at hf
      · rw [axisHp_shMotionCancel] at hf
        exact h.axes f hf
      · exact h.axes f hf
  | accel x y z =>
    obtain ⟨r, rfl, rfl, rfl⟩ := hc x y z List.mem_cons_self
    rw [callStep, sampleVars_vitalsPushAccel]
    refine ⟨h.hp.step ?_, h.sensHp, ?_, h.bio, h.resp⟩
    · rw [abs_of_nonneg (Int.natCast_nonneg _)]
      exact_mod_cast accelMag_le _ _ _
    · intro f hf
      dsimp only at hf
      split_ifs at hf
      · exact heldWithin_adaptPushAccel h.axes (abs_rawToMg_le fs _ _) (abs_rawToMg_le fs _ _) (abs_rawToMg_le fs _ _) f hf
      · exact h.axes f hf
  | onSensSample =>
    rw [callStep, sampleVars_vitalsOnSensSample]
    exact h
  | process =>
    rw [callStep, sampleVars_of_signals (signals_vitalsProcess b s)]
    exact h
  | dropped | pirEvent | takeFall => exact h

theorem filtersKept_run (b : Build) {fs : FullScale} {calls : List Call} (h : FromSensor fs calls) :
    FiltersKept fs.reach (sampleVars (calls.foldl (callStep b) boot)) := by
  apply List.foldlRecOn (motive := fun s : State => FiltersKept fs.reach (sampleVars s))
  · exact filtersKept_boot fs
  · intro s hs c hc
    apply filtersKept_callStep hs
    intro x y z hmem
    rw [List.mem_singleton] at hmem
    exact h x y z (hmem ▸ hc)

theorem accelFits {fs : FullScale} {s : State} (h : FiltersKept fs.reach (sampleVars s)) {x y z : Int16}
    (hx : |x.toInt| ≤ fs.reach) (hy : |y.toInt| ≤ fs.reach) (hz : |z.toInt| ≤ fs.reach) :
    AccelFits s x.toInt y.toInt z.toInt (accelMag x y z) := by
  have hreach := fs.reach_range
  have hsquare {v : ℤ} (hv : |v| ≤ fs.reach) : 0 ≤ v * v ∧ v * v ≤ 603979776 := by
    have hle := mul_self_le_mul_self (abs_nonneg v) (hv.trans hreach.2)
    rw [abs_mul_abs_self] at hle
    exact ⟨mul_self_nonneg v, by omega⟩
  have hxx := hsquare hx
  have hyy := hsquare hy
  have hzz := hsquare hz
  refine ⟨⟨⟨by omega, by omega⟩, ⟨by omega, by omega⟩, ⟨by omega, by omega⟩⟩,
    ⟨⟨by omega, by omega⟩, ⟨by omega, by omega⟩⟩, ?_, ?_⟩
  · apply highPassFits le_rfl h.hp
    rw [abs_of_nonneg (Int.natCast_nonneg _)]
    exact_mod_cast accelMag_le _ _ _
  · rintro ⟨f, v⟩ hp
    obtain ⟨hf, hv⟩ := List.of_mem_zip hp
    apply highPassFits (by omega) (h.axes f hf)
    simp only [List.mem_cons, List.not_mem_nil, or_false] at hv
    rcases hv with rfl | rfl | rfl <;> assumption

end Runs

/-- The filters in every run, and the values of the next sample of either kind. -/
theorem sample_path_in_range (b : Build) (fs : FullScale) (calls : List Call) (h : FromSensor fs calls) :
    let s := calls.foldl (callStep b) boot
    |s.sensHp.prevY| ≤ 65535 * 256 / 13 ∧ BioKept s.bio ∧ (0 ≤ s.resp.dc ∧ s.resp.dc ≤ 65535 * 256) ∧
      (∀ mv : UInt16, HighPassFits s.sensHp mv.toNat ∧ BioFits s.bio (pushedHp b s mv) ∧ RespFits s.resp mv.toNat) ∧
      ∀ r : RawAccel,
        let x := rawToMg fs r.xl r.xh
        let y := rawToMg fs r.yl r.yh
        let z := rawToMg fs r.zl r.zh
        AccelFits s x.toInt y.toInt z.toInt (accelMag x y z) := by
  intro s
  have hkept : FiltersKept fs.reach (sampleVars s) := filtersKept_run b h
  refine ⟨hkept.sensHp.abs_prevY_le.trans (by norm_num), hkept.bio, hkept.resp.dc, ?_, ?_⟩
  · intro mv
    have hmv := toNat_u16_le mv
    refine ⟨highPassFits le_rfl hkept.sensHp ?_, bioFits hkept.bio (pushedHp_range b s mv), respFits hkept.resp hmv⟩
    rw [abs_of_nonneg (Int.natCast_nonneg _)]
    exact_mod_cast hmv
  · intro r
    exact accelFits hkept (abs_rawToMg_le fs _ _) (abs_rawToMg_le fs _ _) (abs_rawToMg_le fs _ _)

theorem sample_path_full_swing :
    |((fullSwing .g16).foldl (callStep adaptBuild) boot).sensHp.prevY| ≤ 65535 * 256 / 13 :=
  (sample_path_in_range adaptBuild .g16 (fullSwing .g16) (fromSensor_fullSwing .g16)).1

end SmartHelmet.Vitals
