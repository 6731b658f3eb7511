import SmartHelmet.SamplePath

namespace SmartHelmet.Vitals

open Config MachineArith OnePole

def drift (c : UInt16) (p : HighPass × Bio) : HighPass × Bio :=
  ((shHighPass p.1 c.toNat).1, shBioPush p.2 (shHighPass p.1 c.toNat).2)

structure AtRest (b : Bio) : Prop where
  lpFast : step 136 0 b.lpFast = b.lpFast
  lpSlow : step 47 0 b.lpSlow = b.lpSlow
  respFast : step 27 0 b.respFast = b.respFast
  respSlow : step 8 0 b.respSlow = b.respSlow

structure Rested (c : UInt16) (p : HighPass × Bio) : Prop where
  residual : p.1 = ⟨c.toNat, 0⟩
  bands : AtRest p.2

theorem highPass_decays (c : ℤ) (f : HighPass) : ∃ n, ∀ k, n ≤ k →
    (fun g => (shHighPass g c).1)^[k] f = ⟨c, 0⟩ := by
  refine exists_iterate_enters (fun g => (shHighPass g c).1)
    (fun g => if g.prevX = c then g.prevY.natAbs else ((shHighPass g c).1).prevY.natAbs + 1)
    (fun _ => True) (fun g => g = ⟨c, 0⟩) (fun _ _ => trivial) ?_ ?_ f trivial
  · rintro g - rfl
    simp [shHighPass]
  · intro g _ hne
    have hx : ((shHighPass g c).1).prevX = c := rfl
    simp only [hx, ↓reduceIte]
    split_ifs with hc
    · have hy : g.prevY ≠ 0 := fun h0 => hne (by cases g; simp_all)
      simp only [shHighPass, hc, sub_self, zero_add]
      rcases le_total 0 g.prevY with h | h
      · rw [Int.tdiv_eq_ediv_of_nonneg (by omega)]
        omega
      · rw [show g.prevY * 243 = -(-g.prevY * 243) by ring, Int.neg_tdiv,
          Int.tdiv_eq_ediv_of_nonneg (by omega)]
        omega
    · omega

theorem bands_come_to_rest (b : Bio) : ∃ n, ∀ k, n ≤ k → AtRest ((fun b => shBioPush b 0)^[k] b) := by
  refine exists_iterate_enters (fun b => shBioPush b 0)
    (fun b => b.lpFast.natAbs + b.lpSlow.natAbs + b.respFast.natAbs + b.respSlow.natAbs)
    (fun _ => True) AtRest (fun _ _ => trivial) ?_ ?_ b trivial
  · intro b _ h
    exact ⟨by simp only [shBioPush, h.lpFast], by simp only [shBioPush, h.lpSlow],
      by simp only [shBioPush, h.respFast], by simp only [shBioPush, h.respSlow]⟩
  · intro b _ hne
    obtain ⟨hle1, heq1⟩ := step_zero_natAbs (a := 136) (by norm_num) (by norm_num) b.lpFast
    obtain ⟨hle2, heq2⟩ := step_zero_natAbs (a := 47) (by norm_num) (by norm_num) b.lpSlow
    obtain ⟨hle3, heq3⟩ := step_zero_natAbs (a := 27) (by norm_num) (by norm_num) b.respFast
    obtain ⟨hle4, heq4⟩ := step_zero_natAbs (a := 8) (by norm_num) (by norm_num) b.respSlow
    simp only [shBioPush]
    by_contra hge
    exact hne ⟨heq1 (by omega), heq2 (by omega), heq3 (by omega), heq4 (by omega)⟩

theorem fst_iterate_drift (c : UInt16) (p : HighPass × Bio) (n : ℕ) :
    ((drift c)^[n] p).1 = (fun g => (shHighPass g c.toNat).1)^[n] p.1 := by
  induction n generalizing p with
  | zero => rfl
  | succ n ih => rw [Function.iterate_succ_apply, Function.iterate_succ_apply, ih]; rfl

theorem drift_of_residual {c : UInt16} {p : HighPass × Bio} (h : p.1 = ⟨c.toNat, 0⟩) :
    drift c p = (p.1, shBioPush p.2 0) := by
  obtain ⟨f, b⟩ := p
  subst h
  simp [drift, shHighPass, clampI16]

theorem iterate_drift_of_residual {c : UInt16} {p : HighPass × Bio} (h : p.1 = ⟨c.toNat, 0⟩) (n : ℕ) :
    (drift c)^[n] p = (p.1, (fun b => shBioPush b 0)^[n] p.2) := by
  induction n generalizing p with
  | zero => rfl
  | succ n ih =>
    rw [Function.iterate_succ_apply, drift_of_residual h, Function.iterate_succ_apply]
    exact ih h

theorem exists_rested (c : UInt16) (p : HighPass × Bio) :
    ∃ n, ∀ k, n ≤ k → Rested c ((drift c)^[k] p) := by
  obtain ⟨n, hn⟩ := highPass_decays c.toNat p.1
  have hres (k : ℕ) (hk : n ≤ k) : ((drift c)^[k] p).1 = ⟨c.toNat, 0⟩ := by
    rw [fst_iterate_drift]
    exact hn k hk
  obtain ⟨m, hm⟩ := bands_come_to_rest ((drift c)^[n] p).2
  refine ⟨m + n, fun k hk => ⟨hres k (by omega), ?_⟩⟩
  obtain ⟨j, rfl⟩ : ∃ j, k = j + n := ⟨k - n, by omega⟩
  rw [Function.iterate_add_apply, iterate_drift_of_residual (hres n le_rfl)]
  exact hm j (by omega)

section Levels

variable {band : ℤ} {level : ℕ}

theorem levelPole_lt (a band : ℤ) (level : ℕ) : levelPole a band level < 65536 := by
  unfold levelPole u16OfInt
  dsimp only
  omega

theorem levelPole_above {a : ℤ} (ha : 0 ≤ a) (ha' : a ≤ 256) (hlevel : level < 65536)
    (hband : band.natAbs ≤ 32767) (h : band.natAbs ≤ level) :
    (levelPole a band level : ℤ) = level - ((level : ℤ) - band.natAbs) * a / 256 := by
  have hstep := step_of_le (x := (band.natAbs : ℤ)) (y := level) a ha (by omega)
  have hrange := step_between ha ha' (band.natAbs : ℤ) level
  unfold levelPole u16OfInt
  dsimp only
  rw [if_neg (by omega), ← hstep]
  omega

theorem levelPole_below {a : ℤ} (ha : 0 ≤ a) (ha' : a ≤ 256) (hband : band.natAbs ≤ 32767)
    (h : level ≤ band.natAbs) :
    (levelPole a band level : ℤ) = level + ((band.natAbs : ℤ) - level) * a / 256 := by
  have hstep := step_of_ge (x := (band.natAbs : ℤ)) (y := level) a ha (by omega)
  have hrange := step_between ha ha' (band.natAbs : ℤ) level
  unfold levelPole u16OfInt
  dsimp only
  rw [if_neg (by omega), ← hstep]
  omega

theorem pulseLevel_small (hband : band.natAbs ≤ 6) (h : level < 8) : levelPole 32 band level < 8 := by
  rcases le_total band.natAbs level with hb | hb
  · have := levelPole_above (a := 32) (by norm_num) (by norm_num) (by omega) (by omega) hb
    omega
  · have := levelPole_below (a := 32) (by norm_num) (by norm_num) (by omega) hb
    omega

theorem pulseLevel_falls (hlevel : level < 65536) (h : 8 ≤ level) : levelPole 32 0 level < level := by
  have hpole : (levelPole 32 0 level : ℤ) = level - ((level : ℤ) - (0 : ℤ).natAbs) * 32 / 256 :=
    levelPole_above (by norm_num) (by norm_num) hlevel (by simp) (by simp)
  simp only [Int.natAbs_zero, Nat.cast_zero, sub_zero] at hpole
  omega

theorem pulseLevel_stuck (hlevel : level < 65536) (hband : band.natAbs ≤ 6) (hne : 1 ≤ band.natAbs)
    (h : 8 ≤ level) : 8 ≤ levelPole 32 band level := by
  have := levelPole_above (a := 32) (by norm_num) (by norm_num) hlevel (by omega)
    (show band.natAbs ≤ level by omega)
  omega

theorem respLevel_stuck (hlevel : level < 65536) (h : 10 ≤ level) : 10 ≤ levelPole 16 band level := by
  by_cases hbig : band.natAbs ≤ 32767
  · rcases le_total band.natAbs level with hb | hb
    · have := levelPole_above (a := 16) (by norm_num) (by norm_num) hlevel hbig hb
      omega
    · have := levelPole_below (a := 16) (by norm_num) (by norm_num) hbig hb
      omega
  · have hclip : levelPole 16 band level = levelPole 16 32767 level := by
      unfold levelPole
      dsimp only
      rw [if_pos (by omega), if_neg (by decide)]
      rfl
    rw [hclip]
    rcases le_total (32767 : ℤ).natAbs level with hb | hb
    · have := levelPole_above (a := 16) (by norm_num) (by norm_num) hlevel (by decide) hb
      omega
    · have := levelPole_below (a := 16) (by norm_num) (by norm_num) (by decide) hb
      omega

theorem respLevel_small (hband : band.natAbs < 25) (h : level < 10) : levelPole 16 band level < 10 := by
  rcases le_total band.natAbs level with hb | hb
  · have := levelPole_above (a := 16) (by norm_num) (by norm_num) (by omega) (by omega) hb
    omega
  · have := levelPole_below (a := 16) (by norm_num) (by norm_num) (by omega) hb
    omega

theorem respLevel_rises (hband : 25 ≤ band.natAbs) (hbig : band.natAbs ≤ 40) (h : level < 10) :
    level < levelPole 16 band level := by
  have := levelPole_below (a := 16) (by norm_num) (by norm_num) (by omega)
    (show level ≤ band.natAbs by omega)
  omega

end Levels

theorem AtRest.bounds {b : Bio} (h : AtRest b) :
    (b.lpFast - b.lpSlow).natAbs ≤ 6 ∧ (b.respFast - b.respSlow).natAbs ≤ 40 := by
  have h1 := natAbs_of_step_zero (by norm_num) h.lpFast
  have h2 := natAbs_of_step_zero (by norm_num) h.lpSlow
  have h3 := natAbs_of_step_zero (by norm_num) h.respFast
  have h4 := natAbs_of_step_zero (by norm_num) h.respSlow
  omega

theorem AtRest.push {b : Bio} (h : AtRest b) : shBioPush b 0 =
    { b with
      pulseAbs := levelPole 32 (b.lpFast - b.lpSlow) b.pulseAbs
      respAbs := levelPole 16 (b.respFast - b.respSlow) b.respAbs } := by
  simp only [shBioPush, h.lpFast, h.lpSlow, h.respFast, h.respSlow]

structure Fades (b : Bio) : Prop where
  pulse : b.pulseAbs < bioPulseAbsMin ∨ b.lpFast = b.lpSlow
  resp : b.respAbs < bioRespAbsMin
  respBand : (b.respFast - b.respSlow).natAbs < 25

structure Resting (b : Bio) : Prop where
  rest : AtRest b
  pulse_lt : b.pulseAbs < 65536
  resp_lt : b.respAbs < 65536

theorem Resting.push {b : Bio} (h : Resting b) : Resting (shBioPush b 0) := by
  rw [h.rest.push]
  exact ⟨⟨h.rest.lpFast, h.rest.lpSlow, h.rest.respFast, h.rest.respSlow⟩, levelPole_lt _ _ _,
    levelPole_lt _ _ _⟩

theorem Resting.fades {b : Bio} (h : Resting b) (hf : Fades b) :
    ∃ n, ∀ k, n ≤ k → ((fun b => shBioPush b 0)^[k] b).pulseAbs < bioPulseAbsMin ∧
      ((fun b => shBioPush b 0)^[k] b).respAbs < bioRespAbsMin := by
  have hkeep (b : Bio) (h : Resting b ∧ Fades b) : Resting (shBioPush b 0) ∧ Fades (shBioPush b 0) := by
    refine ⟨h.1.push, ?_⟩
    rw [h.1.rest.push]
    refine ⟨?_, respLevel_small h.2.respBand h.2.resp, h.2.respBand⟩
    exact h.2.pulse.imp_left (pulseLevel_small h.1.rest.bounds.1)
  obtain ⟨n, hn⟩ := exists_iterate_enters (fun b => shBioPush b 0) Bio.pulseAbs
    (fun b => Resting b ∧ Fades b) (fun b => b.pulseAbs < bioPulseAbsMin) hkeep
    (fun b hb hp => by
      rw [hb.1.rest.push]
      exact pulseLevel_small hb.1.rest.bounds.1 hp)
    (fun b hb hp => by
      have heq : b.lpFast = b.lpSlow := hb.2.pulse.resolve_left hp
      rw [hb.1.rest.push, heq, sub_self]
      exact pulseLevel_falls hb.1.pulse_lt (not_lt.mp hp)) b ⟨h, hf⟩
  refine ⟨n, fun k hk => ⟨hn k hk, ?_⟩⟩
  have hiter : Resting ((fun b => shBioPush b 0)^[k] b) ∧ Fades ((fun b => shBioPush b 0)^[k] b) :=
    Function.Iterate.rec (fun b => Resting b ∧ Fades b) ⟨h, hf⟩ hkeep k
  exact hiter.2.resp

theorem Resting.stuck {b : Bio} (h : Resting b) (hf : ¬ Fades b) :
    ∃ n, ∀ k, n ≤ k → bioPulseAbsMin ≤ ((fun b => shBioPush b 0)^[k] b).pulseAbs ∨
      bioRespAbsMin ≤ ((fun b => shBioPush b 0)^[k] b).respAbs := by
  by_cases hpulse : b.pulseAbs < bioPulseAbsMin ∨ b.lpFast = b.lpSlow
  · by_cases hresp : 10 ≤ b.respAbs ∨ 25 ≤ (b.respFast - b.respSlow).natAbs
    · obtain ⟨n, hn⟩ := exists_iterate_enters (fun b => shBioPush b 0) (fun b => 10 - b.respAbs)
        (fun b => Resting b ∧ (10 ≤ b.respAbs ∨ 25 ≤ (b.respFast - b.respSlow).natAbs))
        (fun b => 10 ≤ b.respAbs)
        (fun b hb => by
          refine ⟨hb.1.push, ?_⟩
          rw [hb.1.rest.push]
          exact hb.2.imp_left (respLevel_stuck hb.1.resp_lt))
        (fun b hb hr => by
          rw [hb.1.rest.push]
          exact respLevel_stuck hb.1.resp_lt hr)
        (fun b hb hr => by
          have := respLevel_rises (hb.2.resolve_left hr) hb.1.rest.bounds.2 (not_le.mp hr)
          rw [hb.1.rest.push]
          dsimp only
          omega) b ⟨h, hresp⟩
      exact ⟨n, fun k hk => Or.inr (hn k hk)⟩
    · rw [not_or, not_le, not_le] at hresp
      exact absurd ⟨hpulse, hresp.1, hresp.2⟩ hf
  · rw [not_or, not_lt] at hpulse
    refine ⟨0, fun k _ => Or.inl ?_⟩
    have hiter := Function.Iterate.rec
      (fun b : Bio => Resting b ∧ bioPulseAbsMin ≤ b.pulseAbs ∧ b.lpFast ≠ b.lpSlow)
      (f := fun b => shBioPush b 0) ⟨h, hpulse⟩ (fun b hb => by
        refine ⟨hb.1.push, ?_⟩
        rw [hb.1.rest.push]
        refine ⟨pulseLevel_stuck hb.1.pulse_lt hb.1.rest.bounds.1 ?_ hb.2.1, hb.2.2⟩
        have := hb.2.2
        omega) k
    exact hiter.2.1

end SmartHelmet.Vitals
