import SmartHelmet.MotionAdaptInert
import SmartHelmet.SensorHub

namespace SmartHelmet.Vitals

open Config MachineArith Firmware

/-- `SMART_HELMET_LIS3DH_FS_G`. -/
inductive FullScale where
  | g2 | g4 | g8 | g16
  deriving DecidableEq

def FullScale.mgPerLsb : FullScale → ℤ
  | .g2 => 4
  | .g4 => 8
  | .g8 => 16
  | .g16 => 48

def rawToMg (fs : FullScale) (lo hi : UInt8) : Int16 :=
  Int16.ofInt ((i16 (hi.toNat * 256 + lo.toNat)).tdiv 64 * fs.mgPerLsb)

theorem rawToMg_g2 : rawToMg .g2 = shLis3dhRawToMg := rfl

def FromSensor (fs : FullScale) (calls : List Call) : Prop :=
  ∀ x y z, .accel x y z ∈ calls →
    ∃ r : RawAccel, x = rawToMg fs r.xl r.xh ∧ y = rawToMg fs r.yl r.yh ∧ z = rawToMg fs r.zl r.zh

def FitsI32 (v : ℤ) : Prop := -2147483648 ≤ v ∧ v ≤ 2147483647

def cancelTerms (a : Adapt) : List ℤ :=
  (List.zipWith (List.zipWith (fun w r => (w * r).tdiv 4096)) a.w (adaptShift a)).flatten

def squares (a : Adapt) : List ℤ := (adaptShift a).flatten.map (fun r => r * r)

def cancelError (a : Adapt) (hp : ℤ) : ℤ := clampI16 (hp - clampI16 (cancelTerms a).sum)

structure CancelFits (a : Adapt) (hp : ℤ) : Prop where
  product : ∀ w ∈ a.w.flatten, ∀ r ∈ (adaptShift a).flatten, FitsI32 (w * r)
  output : ∀ k, FitsI32 ((cancelTerms a).take k).sum
  norm : ∀ k, FitsI32 ((squares a).take k).sum
  den : FitsI32 ((squares a).sum + 64)
  update : 0 < (squares a).sum → ∀ w ∈ a.w.flatten, ∀ r ∈ (adaptShift a).flatten,
    let muE := (hrAdaptMuQ8 * cancelError a hp).tdiv 256
    let s := adaptScale 32 (muE * r) ((squares a).sum + 64)
    FitsI32 (muE * r) ∧ (-524288 ≤ s.1 ∧ s.1 ≤ 524287) ∧ 1 ≤ s.2 ∧ FitsI32 (s.1 * 4096) ∧
      FitsI32 (w + (s.1 * 4096).tdiv s.2)

/-- What is asked of a reachable state: its weights, and whatever the next `SENS_IN` sample computes. -/
structure InRange (s : State) : Prop where
  weights : ∀ w ∈ s.adapt.w.flatten, -32768 ≤ w ∧ w ≤ 32768
  fits : s.adapt.haveAccel = true → hrAdaptTaps ≤ s.adapt.refN →
    ∀ mv : UInt16, CancelFits s.adapt (shHighPass s.sensHp mv.toNat).2

def nextWeights (a : Adapt) (hp : ℤ) : List (List ℤ) :=
  if 0 < (squares a).sum then
    List.zipWith (List.zipWith (adaptWeight ((hrAdaptMuQ8 * cancelError a hp).tdiv 256) ((squares a).sum + 64)))
      a.w (adaptShift a)
  else a.w

theorem shMotionCancel_eq (a : Adapt) (hp : ℤ) (hhave : a.haveAccel = true) (hfull : hrAdaptTaps ≤ a.refN) :
    ∃ eIn eOut, shMotionCancel a hp =
      ({ a with ref := adaptShift a, w := nextWeights a hp, eIn := eIn, eOut := eOut }, cancelError a hp) := by
  have hterms : (List.zipWith (fun ws rs => (List.zipWith (fun w r => (w * r).tdiv 4096) ws rs).sum)
      a.w (adaptShift a)).sum = (cancelTerms a).sum := by
    rw [cancelTerms, List.sum_flatten, List.map_zipWith]
  have hsquares : ((adaptShift a).map (fun rs => (rs.map (fun r => r * r)).sum)).sum = (squares a).sum := by
    rw [squares, List.map_flatten, List.sum_flatten, List.map_map]
    rfl
  unfold shMotionCancel
  rw [if_neg (by rw [hhave]; decide), if_neg (by omega)]
  dsimp only
  rw [hterms, hsquares]
  exact ⟨_, _, rfl⟩

section Lists

variable {l : List ℤ} {b : ℤ}

theorem abs_sum_le (h : ∀ v ∈ l, |v| ≤ b) : |l.sum| ≤ l.length * b := by
  induction l with
  | nil => simp
  | cons v l ih =>
    have hv := h v List.mem_cons_self
    have hrest := ih fun w hw => h w (List.mem_cons_of_mem v hw)
    rw [List.sum_cons, List.length_cons]
    push_cast
    have := abs_add_le v l.sum
    linarith

theorem abs_sum_take_le (hb : 0 ≤ b) (h : ∀ v ∈ l, |v| ≤ b) (k : ℕ) : |(l.take k).sum| ≤ l.length * b := by
  have htake : |(l.take k).sum| ≤ (l.take k).length * b := abs_sum_le fun v hv => h v (List.mem_of_mem_take hv)
  refine htake.trans (mul_le_mul_of_nonneg_right ?_ hb)
  exact_mod_cast List.length_take_le' k l

end Lists

def Grid (b : ℤ) (rows : List (List ℤ)) : Prop :=
  rows.length = 3 ∧ ∀ row ∈ rows, row.length = 8 ∧ ∀ v ∈ row, |v| ≤ b

theorem Grid.abs_le {b : ℤ} {rows : List (List ℤ)} (h : Grid b rows) : ∀ v ∈ rows.flatten, |v| ≤ b := by
  intro v hv
  obtain ⟨row, hrow, hv⟩ := List.mem_flatten.mp hv
  exact (h.2 row hrow).2 v hv

theorem length_flatten_le {rows : List (List ℤ)} (h : rows.length = 3) (hrow : ∀ row ∈ rows, row.length = 8) :
    rows.flatten.length = 24 := by
  rw [List.length_flatten, List.map_congr_left hrow, List.map_const', List.sum_replicate, h]
  rfl

theorem Grid.zipWith {b c d : ℤ} {f : ℤ → ℤ → ℤ} {rows cols : List (List ℤ)} (hrows : Grid b rows)
    (hcols : Grid c cols) (hf : ∀ v w, |v| ≤ b → |w| ≤ c → |f v w| ≤ d) :
    Grid d (List.zipWith (List.zipWith f) rows cols) := by
  refine ⟨by rw [List.length_zipWith, hrows.1, hcols.1]; rfl, ?_⟩
  intro row hrow
  obtain ⟨i, hi, rfl⟩ := List.mem_iff_getElem.mp hrow
  rw [List.length_zipWith] at hi
  rw [List.getElem_zipWith]
  obtain ⟨hlen, hle⟩ := hrows.2 _ (List.getElem_mem (show i < rows.length by omega))
  obtain ⟨hlen', hle'⟩ := hcols.2 _ (List.getElem_mem (show i < cols.length by omega))
  refine ⟨by rw [List.length_zipWith, hlen, hlen']; rfl, ?_⟩
  intro v hv
  obtain ⟨j, hj, rfl⟩ := List.mem_iff_getElem.mp hv
  rw [List.length_zipWith] at hj
  rw [List.getElem_zipWith]
  exact hf _ _ (hle _ (List.getElem_mem _)) (hle' _ (List.getElem_mem _))

structure InBounds (m : ℤ) (a : Adapt) : Prop where
  axes : a.axisHp.length = 3 ∧ ∀ f ∈ a.axisHp, |f.prevX| ≤ m ∧ |f.prevX - f.prevY| ≤ m
  last : a.lastAccelHp.length = 3 ∧ ∀ v ∈ a.lastAccelHp, |v| ≤ 2 * m
  ref : Grid (2 * m) a.ref
  weights : Grid 32768 a.w

section Reference

variable {m : ℤ} {a : Adapt}

theorem shHighPass_bounds {f : HighPass} {x : ℤ} (hx : |x| ≤ m) (hprev : |f.prevX| ≤ m)
    (hheld : |f.prevX - f.prevY| ≤ m) :
    |(shHighPass f x).1.prevX| ≤ m ∧ |(shHighPass f x).1.prevX - (shHighPass f x).1.prevY| ≤ m ∧
      |(shHighPass f x).2| ≤ 2 * m := by
  have hdecay : (0 ≤ (f.prevY * 243).tdiv 256 ∧ (f.prevY * 243).tdiv 256 ≤ f.prevY) ∨
      (f.prevY ≤ (f.prevY * 243).tdiv 256 ∧ (f.prevY * 243).tdiv 256 ≤ 0) := by
    rcases le_total 0 f.prevY with h | h
    · rw [Int.tdiv_eq_ediv_of_nonneg (by omega)]
      omega
    · have hneg : f.prevY * 243 = -(-f.prevY * 243) := by ring
      rw [hneg, Int.neg_tdiv, Int.tdiv_eq_ediv_of_nonneg (by omega)]
      omega
  rw [abs_le] at hx hprev hheld
  unfold shHighPass
  dsimp only
  refine ⟨abs_le.mpr hx, abs_le.mpr ⟨by omega, by omega⟩, (abs_clampI16_le_abs _).trans ?_⟩
  exact abs_le.mpr ⟨by omega, by omega⟩

theorem inBounds_adaptPushAccel (h : InBounds m a) {x y z : Int16} (hx : |x.toInt| ≤ m) (hy : |y.toInt| ≤ m)
    (hz : |z.toInt| ≤ m) : InBounds m (adaptPushAccel a x y z) := by
  have hstep : ∀ p ∈ a.axisHp.zip [x.toInt, y.toInt, z.toInt],
      |(shHighPass p.1 p.2).1.prevX| ≤ m ∧ |(shHighPass p.1 p.2).1.prevX - (shHighPass p.1 p.2).1.prevY| ≤ m ∧
        |(shHighPass p.1 p.2).2| ≤ 2 * m := by
    rintro ⟨f, v⟩ hp
    obtain ⟨hf, hv⟩ := List.of_mem_zip hp
    obtain ⟨hprev, hheld⟩ := h.axes.2 f hf
    have hle : |v| ≤ m := by
      simp only [List.mem_cons, List.not_mem_nil, or_false] at hv
      rcases hv with rfl | rfl | rfl <;> assumption
    exact shHighPass_bounds hle hprev hheld
  have hlen : (a.axisHp.zip [x.toInt, y.toInt, z.toInt]).length = 3 := by
    rw [List.length_zip, h.axes.1]
    rfl
  refine ⟨?_, ?_, h.ref, h.weights⟩
  · simp only [adaptPushAccel, List.map_map, List.length_map, hlen, List.mem_map, true_and]
    rintro f ⟨p, hp, rfl⟩
    exact ⟨(hstep p hp).1, (hstep p hp).2.1⟩
  · simp only [adaptPushAccel, List.map_map, List.length_map, hlen, List.mem_map, true_and]
    rintro v ⟨p, hp, rfl⟩
    exact (hstep p hp).2.2

theorem grid_adaptShift (h : InBounds m a) : Grid (2 * m) (adaptShift a) := by
  refine ⟨by rw [adaptShift, List.length_map, List.length_zip, h.ref.1, h.last.1]; rfl, ?_⟩
  intro row hrow
  obtain ⟨⟨old, new⟩, hp, rfl⟩ := List.mem_map.mp hrow
  obtain ⟨hold, hnew⟩ := List.of_mem_zip hp
  obtain ⟨hlen, hle⟩ := h.ref.2 old hold
  refine ⟨by rw [List.length_cons, List.length_dropLast, hlen], ?_⟩
  intro v hv
  rcases List.mem_cons.mp hv with rfl | hv
  · exact h.last.2 _ hnew
  · exact hle v (List.mem_of_mem_dropLast hv)

theorem abs_adaptWeight_le (muE den w r : ℤ) : |adaptWeight muE den w r| ≤ 32768 := by
  unfold adaptWeight
  dsimp only
  rw [abs_le]
  split_ifs <;> omega

theorem inBounds_shMotionCancel (h : InBounds m a) (hp : ℤ) : InBounds m (shMotionCancel a hp).1 := by
  have hshift := grid_adaptShift h
  by_cases hhave : a.haveAccel = true
  · by_cases hfull : hrAdaptTaps ≤ a.refN
    · obtain ⟨eIn, eOut, heq⟩ := shMotionCancel_eq a hp hhave hfull
      rw [heq]
      refine ⟨h.axes, h.last, hshift, ?_⟩
      dsimp only [nextWeights]
      split_ifs
      · exact h.weights.zipWith hshift fun v w _ _ => abs_adaptWeight_le _ _ v w
      · exact h.weights
    · unfold shMotionCancel
      rw [if_neg (by rw [hhave]; decide), if_pos (by omega)]
      exact ⟨h.axes, h.last, hshift, h.weights⟩
  · unfold shMotionCancel
    rw [if_pos hhave]
    exact h

end Reference

section Values

variable {m : ℤ} {a : Adapt}

theorem adaptScale_spec (fuel : ℕ) {step d : ℤ} (hfuel : -(524288 * 2 ^ fuel) ≤ step ∧ step < 524288 * 2 ^ fuel)
    (hratio : step * step ≤ 16777216 * d) (hd : 65 ≤ d) :
    (-524288 ≤ (adaptScale fuel step d).1 ∧ (adaptScale fuel step d).1 ≤ 524287) ∧
      65 ≤ (adaptScale fuel step d).2 := by
  induction fuel generalizing step d with
  | zero =>
    rw [adaptScale]
    simp only [pow_zero, mul_one] at hfuel
    omega
  | succ fuel ih =>
    rw [adaptScale]
    split_ifs with hloop hone
    · have hlarge : 524287 * 524287 ≤ step * step := by
        rcases hloop with h | h <;> nlinarith
      have hhalf : 8 * (step / 2 * (step / 2)) ≤ 3 * (step * step) := by
        have h1 : 2 * (step / 2) ≤ step := by omega
        have h2 : step ≤ 2 * (step / 2) + 1 := by omega
        rcases hloop with h | h <;> nlinarith
      rw [pow_succ] at hfuel
      apply ih
      · omega
      · generalize step / 2 * (step / 2) = t at hhalf ⊢
        generalize step * step = u at hhalf hratio hlarge
        omega
      · omega
    · omega
    · exact ⟨by omega, hd⟩

theorem abs_cancelTerm_le {w r : ℤ} (hw : |w| ≤ 32768) (hr : |r| ≤ 8192) : |(w * r).tdiv 4096| ≤ 65536 := by
  have hmul : |w * r| ≤ 32768 * 8192 := by
    rw [abs_mul]
    exact mul_le_mul hw hr (abs_nonneg _) (by norm_num)
  have := abs_tdiv_mul_le (w * r) (show (0 : ℤ) < 4096 by norm_num)
  omega

theorem fitsI32_of_abs_le {v b : ℤ} (h : |v| ≤ b) (hb : b ≤ 2147483647) : FitsI32 v := by
  rw [abs_le] at h
  exact ⟨by omega, by omega⟩

theorem update_fits {w r muE norm : ℤ} (hw : |w| ≤ 32768) (hr : |r| ≤ 8192) (hmu : |muE| ≤ 4096)
    (hnorm : r * r ≤ norm) (hpos : 0 < norm) :
    let s := adaptScale 32 (muE * r) (norm + 64)
    FitsI32 (muE * r) ∧ (-524288 ≤ s.1 ∧ s.1 ≤ 524287) ∧ 1 ≤ s.2 ∧ FitsI32 (s.1 * 4096) ∧
      FitsI32 (w + (s.1 * 4096).tdiv s.2) := by
  have hstep : |muE * r| ≤ 4096 * 8192 := by
    rw [abs_mul]
    exact mul_le_mul hmu hr (abs_nonneg _) (by norm_num)
  have hratio : muE * r * (muE * r) ≤ 16777216 * (norm + 64) := by
    have hsq : muE * muE ≤ 16777216 := by
      rw [← abs_mul_abs_self]
      nlinarith [abs_nonneg muE]
    calc muE * r * (muE * r) = muE * muE * (r * r) := by ring
      _ ≤ 16777216 * (r * r) := mul_le_mul_of_nonneg_right hsq (mul_self_nonneg r)
      _ ≤ 16777216 * (norm + 64) := by omega
  have hfuel : -(524288 * 2 ^ 32) ≤ muE * r ∧ muE * r < 524288 * 2 ^ 32 := by
    rw [abs_le] at hstep
    omega
  obtain ⟨hs, hd⟩ := adaptScale_spec 32 hfuel hratio (by omega)
  dsimp only
  generalize adaptScale 32 (muE * r) (norm + 64) = s at hs hd ⊢
  have hquot := abs_tdiv_mul_le (s.1 * 4096) (show 0 < s.2 by omega)
  have hnum : |s.1 * 4096| ≤ 2147483648 := abs_le.mpr ⟨by omega, by omega⟩
  have hsmall : |(s.1 * 4096).tdiv s.2| ≤ 33554432 := by
    by_contra hbig
    nlinarith [abs_nonneg ((s.1 * 4096).tdiv s.2)]
  rw [abs_le] at hw hsmall
  exact ⟨fitsI32_of_abs_le hstep (by norm_num), hs, by omega, ⟨by omega, by omega⟩, ⟨by omega, by omega⟩⟩

theorem cancelFits_of_inBounds (h : InBounds m a) (hm : m ≤ 4096) (hp : ℤ) : CancelFits a hp := by
  have hgrid := grid_adaptShift h
  have hw := h.weights.abs_le
  have hr : ∀ r ∈ (adaptShift a).flatten, |r| ≤ 8192 := fun r hr => (hgrid.abs_le r hr).trans (by omega)
  have hterms := h.weights.zipWith hgrid fun v w hv hw => abs_cancelTerm_le hv (hw.trans (by omega))
  have hsquare : ∀ v ∈ squares a, 0 ≤ v ∧ |v| ≤ 67108864 := by
    intro v hv
    obtain ⟨r, hmem, rfl⟩ := List.mem_map.mp hv
    have := hr r hmem
    rw [abs_mul]
    exact ⟨mul_self_nonneg r, by nlinarith [abs_nonneg r]⟩
  have hlen : (squares a).length = 24 := by
    rw [squares, List.length_map, length_flatten_le hgrid.1 fun row hrow => (hgrid.2 row hrow).1]
  have hnorm (k : ℕ) : |((squares a).take k).sum| ≤ 1610612736 := by
    have := abs_sum_take_le (by norm_num) (fun v hv => (hsquare v hv).2) k
    rw [hlen] at this
    exact this.trans (by norm_num)
  have htotal := hnorm 24
  rw [List.take_of_length_le hlen.le] at htotal
  exact {
    product := fun w hmem r hmem' => by
      refine fitsI32_of_abs_le (b := 32768 * 8192) ?_ (by norm_num)
      rw [abs_mul]
      exact mul_le_mul (hw w hmem) (hr r hmem') (abs_nonneg _) (by norm_num)
    output := fun k => by
      have := abs_sum_take_le (by norm_num) hterms.abs_le k
      rw [length_flatten_le hterms.1 fun row hrow => (hterms.2 row hrow).1] at this
      exact fitsI32_of_abs_le this (by norm_num)
    norm := fun k => fitsI32_of_abs_le (hnorm k) (by norm_num)
    den := by
      rw [abs_le] at htotal
      exact ⟨by omega, by omega⟩
    update := fun hpos w hmem r hmem' => by
      refine update_fits (hw w hmem) (hr r hmem') ?_ ?_ hpos
      · have he : |cancelError a hp| ≤ 32768 := abs_clampI16_le _
        have := abs_tdiv_mul_le (hrAdaptMuQ8 * cancelError a hp) (show (0 : ℤ) < 256 by norm_num)
        rw [hrAdaptMuQ8, abs_mul, abs_of_nonneg (show (0 : ℤ) ≤ 32 by norm_num)] at this
        rw [hrAdaptMuQ8]
        omega
      · exact List.single_le_sum (fun v hv => (hsquare v hv).1) _ (List.mem_map_of_mem hmem') }

end Values

section Runs

def FullScale.reach (fs : FullScale) : ℤ := 512 * fs.mgPerLsb

theorem abs_rawToMg_le (fs : FullScale) (lo hi : UInt8) : |(rawToMg fs lo hi).toInt| ≤ fs.reach := by
  have hraw := i16_range (hi.toNat * 256 + lo.toNat)
  have hdigits : |(i16 (hi.toNat * 256 + lo.toNat)).tdiv 64| ≤ 512 := by
    have := abs_tdiv_mul_le (i16 (hi.toNat * 256 + lo.toNat)) (show (0 : ℤ) < 64 by norm_num)
    have hle : |i16 (hi.toNat * 256 + lo.toNat)| ≤ 32768 := abs_le.mpr ⟨by omega, by omega⟩
    omega
  rw [rawToMg, Int16.toInt_ofInt]
  generalize (i16 (hi.toNat * 256 + lo.toNat)).tdiv 64 = d at hdigits
  rw [abs_le] at hdigits
  have hexact : (d * fs.mgPerLsb).bmod Int16.size = d * fs.mgPerLsb := by
    have hsize : (Int16.size : ℤ) = 65536 := rfl
    apply Int.bmod_eq_of_le <;> cases fs <;> simp only [FullScale.mgPerLsb] <;> omega
  rw [hexact, FullScale.reach, abs_le]
  cases fs <;> simp only [FullScale.mgPerLsb] <;> constructor <;> omega

theorem inBounds_reset (fs : FullScale) : InBounds fs.reach shMotionAdaptReset := by
  have hreach : 0 ≤ fs.reach := by cases fs <;> decide
  have hgrid {b : ℤ} (hb : 0 ≤ b) : Grid b (List.replicate hrAdaptRefAxes (List.replicate hrAdaptTaps 0)) := by
    refine ⟨rfl, ?_⟩
    intro row hrow
    rw [List.eq_of_mem_replicate hrow]
    refine ⟨rfl, ?_⟩
    intro v hv
    rw [List.eq_of_mem_replicate hv, abs_zero]
    exact hb
  refine ⟨⟨rfl, ?_⟩, ⟨rfl, ?_⟩, hgrid (by omega), hgrid (by norm_num)⟩
  · intro f hf
    rw [List.eq_of_mem_replicate hf]
    simpa using hreach
  · intro v hv
    rw [List.eq_of_mem_replicate hv, abs_zero]
    omega

theorem adapt_vitalsProcess (b : Build) (s : State) : (vitalsProcess b s).adapt = s.adapt :=
  congrArg Signals.adapt (signals_vitalsProcess b s)

theorem adapt_noteSensEdge (s : State) (hp : ℤ) : (noteSensEdge s hp).adapt = s.adapt := by
  unfold noteSensEdge
  dsimp only
  split_ifs <;> rfl

theorem adapt_vitalsPushSensInMvAt (s : State) (mv : UInt16) (timeUs : UInt32) :
    (vitalsPushSensInMvAt adaptBuild s mv timeUs).adapt =
      (shMotionCancel s.adapt (shHighPass s.sensHp mv.toNat).2).1 := by
  rw [vitalsPushSensInMvAt, adapt_noteSensEdge]
  rfl

theorem inBounds_callStep {fs : FullScale} {s : State} (h : InBounds fs.reach s.adapt) {c : Call}
    (hc : FromSensor fs [c]) : InBounds fs.reach (callStep adaptBuild s c).adapt := by
  cases c with
  | init => exact inBounds_reset fs
  | sens mv timeUs =>
    rw [callStep, adapt_vitalsPushSensInMvAt]
    exact inBounds_shMotionCancel h _
  | accel x y z =>
    obtain ⟨r, rfl, rfl, rfl⟩ := hc x y z List.mem_cons_self
    exact inBounds_adaptPushAccel h (abs_rawToMg_le fs _ _) (abs_rawToMg_le fs _ _) (abs_rawToMg_le fs _ _)
  | onSensSample =>
    rw [callStep, vitalsOnSensSample]
    split_ifs
    · rw [adapt_vitalsProcess]
      exact h
    · exact h
  | process =>
    rw [callStep, adapt_vitalsProcess]
    exact h
  | dropped => exact h
  | pirEvent => exact h
  | takeFall => exact h

def after (calls : List Call) : State := calls.foldl (callStep adaptBuild) boot

theorem inBounds_after {fs : FullScale} {calls : List Call} (h : FromSensor fs calls) :
    InBounds fs.reach (after calls).adapt := by
  apply List.foldlRecOn (motive := fun s : State => InBounds fs.reach s.adapt)
  · exact inBounds_reset fs
  · intro s hs c hc
    apply inBounds_callStep hs
    intro x y z hmem
    rw [List.mem_singleton] at hmem
    exact h x y z (hmem ▸ hc)

def fullSwing (fs : FullScale) : List Call :=
  List.replicate 5 (.accel (rawToMg fs 0 0x80) (rawToMg fs 0 0x80) (rawToMg fs 0 0x80)) ++
    [.accel (rawToMg fs 0xff 0x7f) (rawToMg fs 0xff 0x7f) (rawToMg fs 0xff 0x7f)] ++
    List.replicate 8 (.sens 1650 0)

theorem fromSensor_fullSwing (fs : FullScale) : FromSensor fs (fullSwing fs) := by
  intro x y z h
  simp only [fullSwing, List.mem_append, List.mem_replicate, List.mem_singleton, Call.accel.injEq,
    reduceCtorEq, and_false, or_false] at h
  rcases h with ⟨-, rfl, rfl, rfl⟩ | ⟨rfl, rfl, rfl⟩
  · exact ⟨⟨0, 0x80, 0, 0x80, 0, 0x80⟩, rfl, rfl, rfl⟩
  · exact ⟨⟨0xff, 0x7f, 0xff, 0x7f, 0xff, 0x7f⟩, rfl, rfl, rfl⟩

theorem fullSwing_norm {fs : FullScale} (h : fs = .g8 ∨ fs = .g16) :
    (after (fullSwing fs)).adapt.haveAccel = true ∧ hrAdaptTaps ≤ (after (fullSwing fs)).adapt.refN ∧
      2147483648 ≤ (squares (after (fullSwing fs)).adapt).sum := by
  rcases h with rfl | rfl <;> decide

theorem not_inRange_fullSwing {fs : FullScale} (h : fs = .g8 ∨ fs = .g16) : ¬ InRange (after (fullSwing fs)) := by
  obtain ⟨hhave, hfull, hnorm⟩ := fullSwing_norm h
  intro hrange
  have hfits := ((hrange.fits hhave hfull 0).norm (squares (after (fullSwing fs)).adapt).length).2
  rw [List.take_length] at hfits
  omega

/-- The canceller keeps to its range in every run exactly with a full scale of at most 4 g. -/
theorem canceller_in_range_iff (fs : FullScale) :
    (∀ calls, FromSensor fs calls → InRange (after calls)) ↔ fs = .g2 ∨ fs = .g4 := by
  constructor
  · intro h
    cases fs with
    | g2 => exact Or.inl rfl
    | g4 => exact Or.inr rfl
    | g8 => exact absurd (h _ (fromSensor_fullSwing .g8)) (not_inRange_fullSwing (Or.inl rfl))
    | g16 => exact absurd (h _ (fromSensor_fullSwing .g16)) (not_inRange_fullSwing (Or.inr rfl))
  · intro h calls hcalls
    have hbounds := inBounds_after hcalls
    have hreach : fs.reach ≤ 4096 := by rcases h with rfl | rfl <;> decide
    refine ⟨?_, fun _ _ mv => cancelFits_of_inBounds hbounds hreach _⟩
    intro w hw
    exact abs_le.mp (hbounds.weights.abs_le w hw)

theorem canceller_overflows_at_8g :
    ¬ (∀ fs calls, FromSensor fs calls → InRange (after calls)) ∧
      (squares (after (fullSwing .g8)).adapt).sum = 2426955264 := by
  refine ⟨?_, by decide⟩
  intro h
  exact not_inRange_fullSwing (Or.inl rfl) (h .g8 _ (fromSensor_fullSwing .g8))

end Runs

end SmartHelmet.Vitals
