import SmartHelmet.OledDisplay
import SmartHelmet.OledDrawing

namespace SmartHelmet.Oled

open Attempt Firmware MachineArith

/-- The lines in the cache are the ones on the panel. -/
def Cached (d : Display) : Prop :=
  d.havePrev = true → ∀ i, Shows d.bus.panel (pages i).toNat (d.prev i)

section Conditions

variable (i2c : Outcomes)

def showCall (d : Display) (ev : Env × Event) : Option Display :=
  match ev.2 with
  | .showAdcMv => some d
  | .uiRefresh state => some (uiPower i2c ev.1 state d)
  | .verifyPass =>
    let d := verifyDevices i2c ev.1 d
    if givesUp d then some (shLatchInitFail d) else none
  | _ => none

def LinesShown (d : Display) (ev : Env × Event) : Prop :=
  ∀ d', showCall i2c d ev = some d' → draws d' = true →
    (step i2c d ev).bus.failures = d'.bus.failures →
    ∀ i, Shows (step i2c d ev).bus.panel (pages i).toNat (lines ev.1 d' i)

def initialises (d : Display) : Event → Bool
  | .sensorsInit | .sensorsInitDisplay => true
  | .verifyPass => !d.sensors.ssd1315Ok
  | .powerOn => d.ready && !d.powered
  | .uiRefresh state => uiStateIsOn state && d.ready && !d.powered
  | _ => false

/-- The initialisation gets as far as the page command of the splash. -/
def splashes (b : Bus) : Bool :=
  (all [shProbeSsd1315 i2c, shSsdInitPanel i2c, shSsdSetPageCol i2c 0 0] b).1

/-- A page of the loop is damaged: its page command goes through and a later write of it fails. -/
def damages (text : Fin 4 → List UInt8) : List (Fin 4) → Display → Bool
  | [], _ => false
  | i :: is, d =>
    if (showLine i2c text i d).1 then damages text is (showLine i2c text i d).2
    else (shSsdSetPageCol i2c (pages i) 0 d.bus).1

def redrawDamages (e : Env) (d : Display) : Bool :=
  draws d && d.havePrev && damages i2c (lines e d) (List.finRange 4) (displayOn i2c d)

def harms (d : Display) (ev : Env × Event) : Bool :=
  (initialises d ev.2 && d.havePrev && splashes i2c d.bus) || (showCall i2c d ev).any (redrawDamages i2c ev.1)

/-- No event of the run writes on the panel behind a cache that stays. -/
def harmless (d : Display) : List (Env × Event) → Bool
  | [] => true
  | ev :: evs => !harms i2c d ev && harmless (step i2c d ev) evs

end Conditions

structure Sound (d : Display) : Prop where
  cached : Cached d
  short : d.initFailLine.length ≤ 15

section Text

theorem length_shStateText (e : Env) (state : ℕ) : (shStateText e state).length ≤ 15 := by
  unfold shStateText
  split
  case h_4 => split <;> decide
  all_goals decide

theorem length_shBrText (e : Env) : (shBrText e).length ≤ 15 := by
  unfold shBrText
  repeat' split
  all_goals decide

theorem length_shAudioText (e : Env) : (shAudioText e).length ≤ 15 := by
  unfold shAudioText
  repeat' split
  all_goals decide

theorem length_shFmtPct (pct : UInt8) : (shFmtPct pct).length ≤ 15 := by
  unfold shFmtPct
  simp only [List.length_append]
  have hhead : (bytes "BAT  ").length = 5 := by decide
  have htail : (bytes "%").length = 1 := by decide
  rw [hhead, htail]
  split
  · decide
  · split <;> simp

theorem length_latchName {name : String} (hname : (bytes name).length = 3) (ok : Bool) {line : List UInt8}
    (hline : line.length ≤ 15) : (latchName ok name line).length ≤ 15 := by
  unfold latchName
  split
  · rename_i h
    rw [List.length_append, hname]
    split
    · simp
    · rw [List.length_append, List.length_singleton]
      omega
  · exact hline

theorem length_lines (e : Env) {d : Display} (hshort : d.initFailLine.length ≤ 15) (i : Fin 4) :
    (lines e d i).length ≤ 15 := by
  unfold lines
  have hstate := length_shStateText e d.uiState
  have hbattery := length_shFmtPct (if e.percent ≥ 99 then 100 else e.percent)
  split
  · fin_cases i
    · exact hstate
    · exact hbattery
    · exact (by decide : (bytes "INIT FAIL").length ≤ 15)
    · exact hshort
  · split
    · fin_cases i
      · exact hstate
      · exact hbattery
      · exact Nat.zero_le _
      · exact Nat.zero_le _
    · fin_cases i
      · exact hstate
      · exact hbattery
      · exact length_shBrText e
      · exact length_shAudioText e

end Text

theorem pages_lt (i : Fin 4) : (pages i).toNat < 8 := by
  revert i
  decide

theorem pages_ne {i k : Fin 4} (hk : k ≠ i) : (pages k).toNat ≠ (pages i).toNat := by
  revert i k
  decide

theorem Shows.of_ram {p p' : Panel} {q : ℕ} {text : List UInt8} (h : Shows p q text) (hram : p'.ram q = p.ram q) :
    Shows p' q text := by
  intro c hc
  rw [hram]
  exact h c hc

theorem Sound.of_ram {d d' : Display} (h : Sound d) (hram : d'.bus.panel.ram = d.bus.panel.ram)
    (hprev : d'.prev = d.prev) (hhave : d'.havePrev = d.havePrev) (hshort : d'.initFailLine.length ≤ 15) :
    Sound d' := by
  refine ⟨fun htrue i => ?_, hshort⟩
  rw [hprev]
  exact (h.cached (hhave.symm.trans htrue) i).of_ram (congrFun hram _)

section Redraw

variable (i2c : Outcomes)

theorem ram_redraw_of_ne {i : Fin 4} (line : List UInt8) {q : ℕ} (hq : q ≠ (pages i).toNat) (b : Bus) :
    (redraw i2c i line b).2.panel.ram q = b.panel.ram q := by
  refine andThen_keeps (R := fun a b : Bus => b.panel.ram q = a.panel.ram q) (fun _ _ _ h h' => h'.trans h) ?_ ?_ b
  · exact fun b => ram_clearPage_of_ne i2c (pages_lt i) b hq
  · intro b
    split
    · rfl
    · exact ram_drawText_of_ne i2c (pages_lt i) (by decide) line b hq

theorem shows_redraw {i : Fin 4} {line : List UInt8} (hlen : line.length ≤ 15) {b : Bus}
    (hok : (redraw i2c i line b).1 = true) :
    Shows (redraw i2c i line b).2.panel (pages i).toNat line := by
  unfold redraw at hok ⊢
  obtain ⟨hclear, hdraw⟩ := ok_of_andThen hok
  have hram : ∀ c < width, (shSsdClearPage i2c (pages i) b).2.panel.ram (pages i).toNat c = 0 :=
    fun c hc => ram_clearPage i2c (pages_lt i) hclear hc
  rw [andThen_of_ok hclear]
  split at hdraw
  · rename_i hnil
    rw [if_pos hnil, hnil]
    exact shows_nil hram
  · rename_i hne
    rw [if_neg hne]
    exact shows_drawText i2c (pages_lt i) hlen hram hdraw

theorem ram_redraw_of_fail {i : Fin 4} (line : List UInt8) {b : Bus}
    (hfail : (shSsdSetPageCol i2c (pages i) 0 b).1 = false) :
    (redraw i2c i line b).2.panel.ram = b.panel.ram := by
  have hclear : shSsdClearPage i2c (pages i) b = shSsdSetPageCol i2c (pages i) 0 b := andThen_of_fail hfail _
  have hstop : redraw i2c i line b = shSsdClearPage i2c (pages i) b := by
    apply andThen_of_fail
    rw [hclear]
    exact hfail
  rw [hstop, hclear]
  exact ram_setPageCol i2c _ _ b

theorem tallies_redraw (i : Fin 4) (line : List UInt8) : Tallies Bus.failures (redraw i2c i line) := by
  apply (tallies_clearPage i2c (pages i)).andThen
  split
  · exact tallies_done
  · exact tallies_drawText i2c _ _ _

end Redraw

section Loop

variable (i2c : Outcomes) (text : Fin 4 → List UInt8)

inductive Round (i : Fin 4) (d : Display) : Bool × Display → Prop
  | skipped (hprev : d.prev i = text i) (hhave : d.havePrev = true) : Round i d (true, d)
  | drawn (hok : (redraw i2c i (text i) d.bus).1 = true) :
    Round i d (true, { d with
      bus := (redraw i2c i (text i) d.bus).2, prev := Function.update d.prev i ((text i).take 15) })
  | failed (hfail : (redraw i2c i (text i) d.bus).1 = false) :
    Round i d (false, { d with bus := (redraw i2c i (text i) d.bus).2 })

theorem round_showLine (i : Fin 4) (d : Display) : Round i2c text i d (showLine i2c text i d) := by
  unfold showLine
  split
  · rename_i h
    exact .skipped h.2 h.1
  · dsimp only
    split
    · rename_i hok
      exact .drawn hok
    · rename_i hfail
      exact .failed (Bool.eq_false_iff.mpr hfail)

def Drawn (i : Fin 4) (d : Display) : Prop :=
  d.prev i = text i ∧ Shows d.bus.panel (pages i).toNat (text i)

theorem showLine_frame {i k : Fin 4} (hk : k ≠ i) (d : Display) :
    (showLine i2c text i d).2.prev k = d.prev k ∧
      (showLine i2c text i d).2.bus.panel.ram (pages k).toNat = d.bus.panel.ram (pages k).toNat := by
  have hround := round_showLine i2c text i d
  generalize showLine i2c text i d = r at hround ⊢
  cases hround with
  | skipped _ _ => exact ⟨rfl, rfl⟩
  | drawn _ => exact ⟨Function.update_of_ne hk _ _, ram_redraw_of_ne i2c _ (pages_ne hk) _⟩
  | failed _ => exact ⟨rfl, ram_redraw_of_ne i2c _ (pages_ne hk) _⟩

theorem showLine_rest (i : Fin 4) (d : Display) :
    (showLine i2c text i d).2.havePrev = d.havePrev ∧ (showLine i2c text i d).2.initFailLine = d.initFailLine := by
  have hround := round_showLine i2c text i d
  generalize showLine i2c text i d = r at hround ⊢
  cases hround with
  | skipped _ _ => exact ⟨rfl, rfl⟩
  | drawn _ => exact ⟨rfl, rfl⟩
  | failed _ => exact ⟨rfl, rfl⟩

theorem tallies_showLine (i : Fin 4) : Tallies (fun d => d.bus.failures) (showLine i2c text i) := by
  intro d
  have hround := round_showLine i2c text i d
  have hcount := tallies_redraw i2c i (text i) d.bus
  generalize showLine i2c text i d = r at hround ⊢
  cases hround with
  | skipped _ _ => exact ⟨le_rfl, fun h => absurd h.symm Bool.false_ne_true⟩
  | drawn hok => exact ⟨hcount.1, fun h => absurd h.symm Bool.false_ne_true⟩
  | failed hfail => exact ⟨hcount.1, fun _ => hcount.2 hfail⟩

variable {text}

theorem showLine_keeps_drawn {i k : Fin 4} (hk : k ≠ i) {d : Display} (hdrawn : Drawn text k d) :
    Drawn text k (showLine i2c text i d).2 := by
  obtain ⟨hprev, hram⟩ := showLine_frame i2c text hk d
  exact ⟨hprev.trans hdrawn.1, hdrawn.2.of_ram hram⟩

variable (htext : ∀ i, (text i).length ≤ 15)

include htext

theorem drawn_showLine {i : Fin 4} {d : Display} (hcached : Cached d) (hok : (showLine i2c text i d).1 = true) :
    Drawn text i (showLine i2c text i d).2 := by
  have hround := round_showLine i2c text i d
  generalize showLine i2c text i d = r at hround hok ⊢
  cases hround with
  | skipped hprev hhave => exact ⟨hprev, hprev ▸ hcached hhave i⟩
  | drawn hdrawn =>
    refine ⟨?_, shows_redraw i2c (htext i) hdrawn⟩
    simp only [Function.update_self]
    exact List.take_of_length_le (htext i)
  | failed _ => exact absurd hok Bool.false_ne_true

theorem cached_showLine {i : Fin 4} {d : Display} (hcached : Cached d)
    (hsafe : d.havePrev = true → (showLine i2c text i d).1 = false →
      (shSsdSetPageCol i2c (pages i) 0 d.bus).1 = false) :
    Cached (showLine i2c text i d).2 := by
  intro hhave k
  rw [(showLine_rest i2c text i d).1] at hhave
  by_cases hk : k = i
  · subst hk
    cases hok : (showLine i2c text k d).1 with
    | true =>
      obtain ⟨hprev, hshows⟩ := drawn_showLine i2c htext hcached hok
      rw [hprev]
      exact hshows
    | false =>
      have hpage := hsafe hhave hok
      have hround := round_showLine i2c text k d
      generalize showLine i2c text k d = r at hround hok ⊢
      cases hround with
      | skipped _ _ => exact hcached hhave k
      | drawn _ => exact absurd hok.symm Bool.false_ne_true
      | failed _ => exact (hcached hhave k).of_ram (congrFun (ram_redraw_of_fail i2c _ hpage) _)
  · obtain ⟨hprev, hram⟩ := showLine_frame i2c text hk d
    rw [hprev]
    exact (hcached hhave k).of_ram hram

theorem cached_all (is : List (Fin 4)) {d : Display} (hcached : Cached d)
    (hsafe : d.havePrev = true → damages i2c text is d = false) :
    Cached (all (is.map (showLine i2c text)) d).2 := by
  induction is generalizing d with
  | nil => exact hcached
  | cons i is ih =>
    rw [List.map_cons, all_cons]
    have hrest := (showLine_rest i2c text i d).1
    simp only [damages] at hsafe
    cases hok : (showLine i2c text i d).1 with
    | true =>
      rw [andThen_of_ok hok]
      simp only [hok, if_true] at hsafe
      apply ih
      · exact cached_showLine i2c htext hcached fun _ hfail => absurd (hok.symm.trans hfail).symm Bool.false_ne_true
      · rw [hrest]
        exact hsafe
    | false =>
      rw [andThen_of_fail hok]
      simp only [hok, Bool.false_eq_true, if_false] at hsafe
      exact cached_showLine i2c htext hcached fun hhave _ => hsafe hhave

theorem drawn_all {is : List (Fin 4)} {d : Display} (hcached : Cached d)
    (hok : (all (is.map (showLine i2c text)) d).1 = true) {k : Fin 4} (hk : k ∈ is ∨ Drawn text k d) :
    Drawn text k (all (is.map (showLine i2c text)) d).2 := by
  induction is generalizing d with
  | nil => exact hk.resolve_left (List.not_mem_nil)
  | cons i is ih =>
    rw [List.map_cons, all_cons] at hok ⊢
    obtain ⟨hfirst, hlater⟩ := ok_of_andThen hok
    rw [andThen_of_ok hfirst]
    apply ih _ hlater
    · by_cases hki : k = i
      · subst hki
        exact Or.inr (drawn_showLine i2c htext hcached hfirst)
      · rcases hk with hmem | hdrawn
        · exact Or.inl ((List.mem_cons.mp hmem).resolve_left hki)
        · exact Or.inr (showLine_keeps_drawn i2c hki hdrawn)
    · exact cached_showLine i2c htext hcached fun _ hfail => absurd (hfirst.symm.trans hfail).symm Bool.false_ne_true

end Loop

section Calls

variable (i2c : Outcomes) (e : Env) {d : Display} (h : Sound d)

include h

theorem sound_shLatchInitFail : Sound (shLatchInitFail d) := by
  refine ⟨h.cached, ?_⟩
  have hnil : ([] : List UInt8).length ≤ 15 := Nat.zero_le _
  apply length_latchName (by decide)
  apply length_latchName (by decide)
  apply length_latchName (by decide)
  exact length_latchName (by decide) _ hnil

theorem sound_sensorsSleep : Sound (sensorsSleep d) := ⟨h.cached, Nat.zero_le _⟩

theorem sound_displayOff : Sound (displayOff i2c d) := by
  unfold displayOff
  split
  · exact h
  · exact h.of_ram (ram_raw_command i2c _ _) rfl rfl h.short

omit h in
theorem sound_displayBlank : Sound (displayBlank i2c d) := by
  unfold displayBlank
  dsimp only
  split
  · exact ⟨fun hhave => absurd hhave Bool.false_ne_true, Nat.zero_le _⟩
  · exact ⟨fun hhave => absurd hhave Bool.false_ne_true, Nat.zero_le _⟩

theorem sound_displayOn : Sound (displayOn i2c d) := by
  unfold displayOn
  split
  · exact h
  · exact h.of_ram (ram_cmdList i2c _ _) rfl rfl h.short

omit h in
theorem ram_init_of_not_splashes {b : Bus} (hsplash : splashes i2c b = false) :
    (andThen (shProbeSsd1315 i2c) (shInitSsd1315 i2c) b).2.panel.ram = b.panel.ram := by
  have hprobe : (shProbeSsd1315 i2c b).2.panel.ram = b.panel.ram := ram_raw_command i2c _ b
  unfold splashes at hsplash
  rw [all_cons] at hsplash
  cases hfirst : (shProbeSsd1315 i2c b).1 with
  | false =>
    rw [andThen_of_fail hfirst]
    exact hprobe
  | true =>
    rw [andThen_of_ok hfirst] at hsplash ⊢
    generalize shProbeSsd1315 i2c b = r at hprobe hsplash ⊢
    have hcmds : (shSsdInitPanel i2c r.2).2.panel.ram = r.2.panel.ram := ram_cmdList i2c _ _
    rw [all_cons] at hsplash
    cases hsecond : (shSsdInitPanel i2c r.2).1 with
    | false =>
      unfold shInitSsd1315
      rw [andThen_of_fail hsecond, hcmds]
      exact hprobe
    | true =>
      unfold shInitSsd1315
      rw [andThen_of_ok hsecond] at hsplash ⊢
      generalize shSsdInitPanel i2c r.2 = r' at hcmds hsplash ⊢
      rw [all_cons] at hsplash
      have hpage : (shSsdSetPageCol i2c 0 0 r'.2).1 = false := by
        cases hthird : (shSsdSetPageCol i2c 0 0 r'.2).1 with
        | false => rfl
        | true =>
          rw [andThen_of_ok hthird] at hsplash
          exact absurd hsplash.symm Bool.false_ne_true
      -- the page command is the first write of the splash, so nothing follows it
      have hclearPage : shSsdClearPage i2c 0 r'.2 = shSsdSetPageCol i2c 0 0 r'.2 := andThen_of_fail hpage _
      have hclear : shSsdClear i2c r'.2 = shSsdClearPage i2c 0 r'.2 := by
        apply andThen_of_fail
        rw [hclearPage]
        exact hpage
      have hstop : shSsdShowSplash i2c r'.2 = shSsdClear i2c r'.2 := by
        apply andThen_of_fail
        rw [hclear, hclearPage]
        exact hpage
      rw [hstop, hclear, hclearPage, ram_setPageCol, hcmds]
      exact hprobe

variable (hsplash : d.havePrev = true → splashes i2c d.bus = false)

include hsplash

theorem sound_of_init {d' : Display} (hbus : d'.bus = (andThen (shProbeSsd1315 i2c) (shInitSsd1315 i2c) d.bus).2)
    (hprev : d'.prev = d.prev) (hhave : d'.havePrev = d.havePrev) (hshort : d'.initFailLine.length ≤ 15) :
    Sound d' := by
  cases hcase : d.havePrev with
  | false =>
    refine ⟨fun htrue => ?_, hshort⟩
    rw [hhave, hcase] at htrue
    exact absurd htrue Bool.false_ne_true
  | true =>
    apply h.of_ram _ hprev hhave hshort
    rw [hbus]
    exact ram_init_of_not_splashes i2c (hsplash hcase)

theorem sound_sensorsInitDisplay : Sound (sensorsInitDisplay i2c d) :=
  sound_of_init i2c h hsplash rfl rfl rfl h.short

omit hsplash in
theorem sound_probeDevices
    (hsplash : d.sensors.ssd1315Ok = false → d.havePrev = true → splashes i2c d.bus = false) :
    Sound (probeDevices i2c e d) := by
  unfold probeDevices
  split
  · exact ⟨h.cached, h.short⟩
  · rename_i hdown
    exact sound_of_init i2c h (hsplash (Bool.eq_false_iff.mpr hdown)) rfl rfl rfl h.short

omit hsplash in
theorem sound_verifyDevices
    (hsplash : d.sensors.ssd1315Ok = false → d.havePrev = true → splashes i2c d.bus = false) :
    Sound (verifyDevices i2c e d) := by
  apply sound_probeDevices
  · exact ⟨h.cached, h.short⟩
  · exact hsplash

theorem sound_sensorsInit : Sound (sensorsInit i2c e d) := by
  apply sound_probeDevices
  · exact ⟨h.cached, Nat.zero_le _⟩
  · exact fun _ => hsplash

omit hsplash in
theorem sound_powerOn
    (hsplash : (d.ready && !d.powered) = true → d.havePrev = true → splashes i2c d.bus = false) :
    Sound (powerOn i2c e d) := by
  unfold powerOn
  split
  · exact h
  · rename_i hstart
    apply sound_displayOn
    apply sound_sensorsInit
    · exact ⟨h.cached, h.short⟩
    · apply hsplash
      simpa using hstart

omit hsplash in
theorem sound_powerOff : Sound (powerOff i2c d) := by
  unfold powerOff
  split
  · exact h
  · exact sound_displayBlank i2c

omit hsplash in
theorem sound_uiPower {state : ℕ}
    (hsplash : (uiStateIsOn state && d.ready && !d.powered) = true → d.havePrev = true → splashes i2c d.bus = false) :
    Sound (uiPower i2c e state d) := by
  have hstate : Sound { d with uiState := state } := ⟨h.cached, h.short⟩
  unfold uiPower
  dsimp only
  split
  · rename_i hon
    apply sound_powerOn i2c e hstate
    intro hstart
    apply hsplash
    rw [hon, Bool.true_and]
    exact hstart
  · split
    · exact sound_powerOff i2c hstate
    · exact hstate

end Calls

section Show

variable (i2c : Outcomes) (e : Env) {d : Display} (h : Sound d)

theorem show_of_draws (hdraws : draws d = true) :
    sensorsShowAdcMv i2c e d = showLines i2c (lines e d) (displayOn i2c d) := by
  simp only [draws, Bool.and_eq_true, Bool.or_eq_true, Bool.not_eq_true', decide_eq_true_eq] at hdraws
  obtain ⟨⟨hok, hlit⟩, hon⟩ := hdraws
  unfold sensorsShowAdcMv
  rw [if_neg, if_neg]
  · rintro (hblank | ⟨hoff, hlimbo⟩)
    · exact absurd (hlit.symm.trans hblank) Bool.false_ne_true
    · exact hon.elim hoff hlimbo
  · exact not_not.mpr hok

theorem show_of_not_draws (hdraws : draws d = false) :
    sensorsShowAdcMv i2c e d = d ∨ sensorsShowAdcMv i2c e d = displayBlank i2c d := by
  unfold sensorsShowAdcMv
  split
  · exact Or.inl rfl
  · split
    · exact Or.inr rfl
    · rename_i hok hon
      rw [not_or, not_and_or, not_not, not_not] at hon
      rw [← Bool.not_eq_true] at hdraws
      apply absurd _ hdraws
      simp only [draws, Bool.and_eq_true, Bool.or_eq_true, Bool.not_eq_true', decide_eq_true_eq]
      exact ⟨⟨not_not.mp hok, Bool.eq_false_iff.mpr hon.1⟩, hon.2⟩

theorem havePrev_displayOn : (displayOn i2c d).havePrev = d.havePrev := by
  unfold displayOn
  split <;> rfl

theorem failures_displayOn : d.bus.failures ≤ (displayOn i2c d).bus.failures := by
  unfold displayOn
  split
  · exact le_rfl
  · exact (tallies_chunks i2c _ _ _ d.bus).1

theorem rest_all (text : Fin 4 → List UInt8) (is : List (Fin 4)) (d : Display) :
    (all (is.map (showLine i2c text)) d).2.initFailLine = d.initFailLine := by
  refine all_keeps (R := fun a b : Display => b.initFailLine = a.initFailLine) (fun _ => rfl)
    (fun _ _ _ h h' => h'.trans h) ?_ d
  intro f hf s
  obtain ⟨i, -, rfl⟩ := List.mem_map.mp hf
  exact (showLine_rest i2c text i s).2

include h

theorem sound_showLines {text : Fin 4 → List UInt8} (htext : ∀ i, (text i).length ≤ 15)
    (hsafe : d.havePrev = true → damages i2c text (List.finRange 4) d = false) : Sound (showLines i2c text d) := by
  have hshort : (all ((List.finRange 4).map (showLine i2c text)) d).2.initFailLine.length ≤ 15 := by
    rw [rest_all]
    exact h.short
  unfold showLines
  dsimp only
  split
  · rename_i hok
    refine ⟨fun _ i => ?_, hshort⟩
    obtain ⟨hprev, hshows⟩ := drawn_all i2c htext h.cached hok (Or.inl (List.mem_finRange i))
    rw [← hprev] at hshows
    exact hshows
  · exact ⟨cached_all i2c htext _ h.cached hsafe, hshort⟩

theorem sound_show (hsafe : redrawDamages i2c e d = false) : Sound (sensorsShowAdcMv i2c e d) := by
  cases hdraws : draws d with
  | true =>
    rw [show_of_draws i2c e hdraws]
    apply sound_showLines i2c (sound_displayOn i2c h) (length_lines e h.short)
    intro hhave
    rw [havePrev_displayOn] at hhave
    unfold redrawDamages at hsafe
    rwa [hdraws, hhave, Bool.true_and, Bool.true_and] at hsafe
  | false =>
    rcases show_of_not_draws i2c e hdraws with hsame | hblank
    · rw [hsame]
      exact h
    · rw [hblank]
      exact sound_displayBlank i2c

theorem shows_show (hdraws : draws d = true)
    (hfail : (sensorsShowAdcMv i2c e d).bus.failures = d.bus.failures) (i : Fin 4) :
    Shows (sensorsShowAdcMv i2c e d).bus.panel (pages i).toNat (lines e d i) := by
  rw [show_of_draws i2c e hdraws] at hfail ⊢
  have hon := sound_displayOn i2c h
  have hle := failures_displayOn i2c (d := d)
  generalize displayOn i2c d = d' at hfail hon hle ⊢
  have htally : Tallies (fun d : Display => d.bus.failures)
      (all ((List.finRange 4).map (showLine i2c (lines e d)))) := by
    apply tallies_all
    intro f hf
    obtain ⟨k, -, rfl⟩ := List.mem_map.mp hf
    exact tallies_showLine i2c (lines e d) k
  have hbus : (showLines i2c (lines e d) d').bus = (all ((List.finRange 4).map (showLine i2c (lines e d))) d').2.bus := by
    unfold showLines
    dsimp only
    split <;> rfl
  rw [hbus] at hfail ⊢
  have hok : (all ((List.finRange 4).map (showLine i2c (lines e d))) d').1 = true := by
    apply htally.ok_of_eq
    have hgrow := (htally d').1
    dsimp only at hgrow ⊢
    omega
  exact (drawn_all i2c (length_lines e h.short) hon.cached hok (Or.inl (List.mem_finRange i))).2

end Show

section Runs

variable (i2c : Outcomes)

theorem step_of_showCall {d d' : Display} {ev : Env × Event} (hcall : showCall i2c d ev = some d') :
    step i2c d ev = sensorsShowAdcMv i2c ev.1 d' := by
  obtain ⟨e, ev⟩ := ev
  cases ev with
  | showAdcMv =>
    cases hcall
    rfl
  | uiRefresh state =>
    cases hcall
    rfl
  | verifyPass =>
    simp only [showCall] at hcall
    simp only [step, shSensorsVerifyPass]
    split at hcall
    · rename_i hup
      cases hcall
      exact if_pos hup
    · cases hcall
  | _ => cases hcall

theorem sound_showCall {d d' : Display} {ev : Env × Event} (h : Sound d)
    (hsplash : initialises d ev.2 = true → d.havePrev = true → splashes i2c d.bus = false)
    (hcall : showCall i2c d ev = some d') : Sound d' := by
  obtain ⟨e, ev⟩ := ev
  cases ev with
  | showAdcMv =>
    cases hcall
    exact h
  | uiRefresh state =>
    cases hcall
    exact sound_uiPower i2c e h hsplash
  | verifyPass =>
    simp only [showCall] at hcall
    split at hcall
    · cases hcall
      apply sound_shLatchInitFail
      apply sound_verifyDevices i2c e h
      intro hdown
      apply hsplash
      exact (Bool.not_eq_true' _).mpr hdown
    · cases hcall
  | _ => cases hcall

theorem sound_step {d : Display} {ev : Env × Event} (h : Sound d) (hsafe : harms i2c d ev = false) :
    Sound (step i2c d ev) := by
  obtain ⟨hinit, hshow⟩ := Bool.or_eq_false_iff.mp hsafe
  have hsplash : initialises d ev.2 = true → d.havePrev = true → splashes i2c d.bus = false := by
    intro hi hhave
    rwa [hi, hhave, Bool.true_and, Bool.true_and] at hinit
  cases hcall : showCall i2c d ev with
  | some d' =>
    rw [step_of_showCall i2c hcall]
    rw [hcall] at hshow
    exact sound_show i2c ev.1 (sound_showCall i2c h hsplash hcall) hshow
  | none =>
    obtain ⟨e, ev⟩ := ev
    cases ev with
    | init =>
      simp only [step, init]
      split <;> split <;> exact ⟨h.cached, h.short⟩
    | close => exact ⟨h.cached, h.short⟩
    | powerOn => exact sound_powerOn i2c e h hsplash
    | powerOff => exact sound_powerOff i2c h
    | uiRefresh state => cases hcall
    | sensorsInit => exact sound_sensorsInit i2c e h (hsplash rfl)
    | sensorsInitDisplay => exact sound_sensorsInitDisplay i2c h (hsplash rfl)
    | verifyPass =>
      simp only [step, shSensorsVerifyPass]
      simp only [showCall] at hcall
      split at hcall
      · cases hcall
      · rename_i hretry
        rw [if_neg hretry]
        exact sound_verifyDevices i2c e h fun hdown => hsplash ((Bool.not_eq_true' _).mpr hdown)
    | sensorsSleep => exact sound_sensorsSleep h
    | displayOff => exact sound_displayOff i2c h
    | displayBlank => exact sound_displayBlank i2c
    | displayOn => exact sound_displayOn i2c h
    | displayResume => exact sound_displayOn i2c h
    | showAdcMv => cases hcall

theorem linesShown_step {d : Display} {ev : Env × Event} (h : Sound d) (hsafe : harms i2c d ev = false) :
    LinesShown i2c d ev := by
  intro d' hcall hdraws hfail
  have hsound : Sound d' := by
    apply sound_showCall i2c h _ hcall
    intro hi hhave
    have hinit := (Bool.or_eq_false_iff.mp hsafe).1
    rwa [hi, hhave, Bool.true_and, Bool.true_and] at hinit
  rw [step_of_showCall i2c hcall] at hfail ⊢
  exact shows_show i2c ev.1 hsound hdraws hfail

theorem sound_boot (panel : Panel) : Sound (.boot panel) :=
  ⟨fun hhave => absurd hhave Bool.false_ne_true, Nat.zero_le _⟩

theorem harmless_append {d : Display} {evs more : List (Env × Event)} (hsafe : harmless i2c d (evs ++ more) = true) :
    harmless i2c d evs = true ∧ harmless i2c (evs.foldl (step i2c) d) more = true := by
  induction evs generalizing d with
  | nil => exact ⟨rfl, hsafe⟩
  | cons ev evs ih =>
    obtain ⟨hfirst, hrest⟩ := Bool.and_eq_true_iff.mp hsafe
    obtain ⟨hevs, hmore⟩ := ih hrest
    exact ⟨Bool.and_eq_true_iff.mpr ⟨hfirst, hevs⟩, hmore⟩

theorem sound_run (panel : Panel) {evs : List (Env × Event)} (hsafe : harmless i2c (.boot panel) evs = true) :
    Sound (run i2c panel evs) := by
  induction evs using List.reverseRecOn with
  | nil => exact sound_boot panel
  | append_singleton evs ev ih =>
    obtain ⟨hevs, hlast⟩ := harmless_append i2c hsafe
    obtain ⟨hev, -⟩ := Bool.and_eq_true_iff.mp hlast
    rw [run, List.foldl_append, List.foldl_cons, List.foldl_nil]
    exact sound_step i2c (ih hevs) ((Bool.not_eq_true' _).mp hev)

theorem oled_shows_lines (panel : Panel) (evs : List (Env × Event))
    (hsafe : harmless i2c (.boot panel) evs = true) :
    (∀ before after, evs = before ++ after → Cached (run i2c panel before)) ∧
    ∀ before ev after, evs = before ++ ev :: after → LinesShown i2c (run i2c panel before) ev := by
  constructor
  · intro before after hevs
    rw [hevs] at hsafe
    exact (sound_run i2c panel (harmless_append i2c hsafe).1).cached
  · intro before ev after hevs
    rw [hevs] at hsafe
    obtain ⟨hbefore, hafter⟩ := harmless_append i2c hsafe
    obtain ⟨hev, -⟩ := Bool.and_eq_true_iff.mp hafter
    exact linesShown_step i2c (sound_run i2c panel hbefore) ((Bool.not_eq_true' _).mp hev)

end Runs

def darkPanel : Panel := ⟨fun _ _ => 0, 0, 0⟩

def halfCharged : Env := { percent := 50 }

def warmLimbo : List (Env × Event) :=
  [(halfCharged, .init), (halfCharged, .uiRefresh 3), (halfCharged, .uiRefresh 2), (halfCharged, .displayResume),
    (halfCharged, .uiRefresh 2)]

theorem oled_shows_lines_warmLimbo :
    harmless (fun _ => none) (.boot darkPanel) warmLimbo = true ∧
    Cached (run (fun _ => none) darkPanel warmLimbo) := by
  have hsafe : harmless (fun _ => none) (.boot darkPanel) warmLimbo = true := by decide +kernel
  exact ⟨hsafe, (oled_shows_lines _ darkPanel warmLimbo hsafe).1 warmLimbo [] (List.append_nil _).symm⟩

/-- Switched on out of warm limbo with every write going through: the splash is drawn over the
battery line, which the cache still has, and is left standing. -/
theorem splash_left_standing :
    let d := run (fun _ => none) darkPanel warmLimbo
    ¬ LinesShown (fun _ => none) d (halfCharged, .uiRefresh 3) ∧
      ¬ Cached (step (fun _ => none) d (halfCharged, .uiRefresh 3)) := by
  constructor
  · intro h
    have hshows := h _ rfl (by decide +kernel) (by decide +kernel) 1 4 (by decide)
    exact absurd hshows (by decide +kernel)
  · intro h
    have hshows := h (by decide +kernel) 1 4 (by decide)
    exact absurd hshows (by decide +kernel)

end SmartHelmet.Oled
