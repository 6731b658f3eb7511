import SmartHelmet.AdcBench

namespace SmartHelmet.Firmware

open MachineArith Config

namespace AdcNote

def isTick : AdcNote → Bool
  | .tick => true
  | _ => false

def isPush : AdcNote → Bool
  | .push _ _ _ _ => true
  | _ => false

def isDropped : AdcNote → Bool
  | .dropped => true
  | _ => false

/-- Only a request of a SENS trigger is pushed, only one of a gas scan is stored. -/
def originRight : AdcNote → Bool
  | .push origin _ _ _ => decide (origin = .sens)
  | .store origin _ _ _ => decide (origin = .full)
  | _ => true

end AdcNote

def storesSince : List AdcNote → Option (List ℕ)
  | [] => none
  | .scan :: _ => some []
  | .store _ ch _ _ :: ns => (storesSince ns).map (fun chs => chs ++ [ch])
  | _ :: ns => storesSince ns

/-- Every store is the next channel of its scan, and no scan starts before the last one ended. -/
def ScansWhole : List AdcNote → Prop
  | [] => True
  | .scan :: ns => (storesSince ns = none ∨ storesSince ns = some [0, 1, 2, 3]) ∧ ScansWhole ns
  | .store _ ch _ _ :: ns => (ch < 4 ∧ storesSince ns = some (List.range ch)) ∧ ScansWhole ns
  | _ :: ns => ScansWhole ns

def lastVref : List AdcNote → Option UInt16
  | .vref reading :: _ => some reading
  | .tick :: ns => lastVref ns
  | .dropped :: ns => lastVref ns
  | .scan :: ns => lastVref ns
  | _ => none

def vrefScaled (vref reading : UInt16) : ℕ :=
  if vref = 0 then reading.toNat else reading.toNat * 1200 / vref.toNat

def ScaledRight : List AdcNote → Prop
  | [] => True
  | .push _ _ reading mv :: ns =>
    (∃ v, lastVref ns = some v ∧ mv = UInt16.ofNat (vrefScaled v reading)) ∧ ScaledRight ns
  | .store _ _ reading mv :: ns =>
    (∃ v, lastVref ns = some v ∧ mv = u16 (vrefScaled v reading)) ∧ ScaledRight ns
  | _ :: ns => ScaledRight ns

def millivolts (a : Adc) : ℕ → ℕ
  | 0 => a.sensMv
  | 1 => a.coMv
  | 2 => a.nh3Mv
  | _ => a.no2Mv

def channelMv (ch : ℕ) : List AdcNote → ℕ
  | [] => 0
  | .store _ c _ mv :: ns => if c = ch then mv else channelMv ch ns
  | .push _ _ _ mv :: ns => if ch = 0 then mv.toNat else channelMv ch ns
  | _ :: ns => channelMv ch ns

def replayVitals (b : Build) (s : Vitals.State) : List AdcNote → Vitals.State
  | [] => s
  | .dropped :: ns => Vitals.vitalsNoteSensDropped (replayVitals b s ns)
  | .push _ timeUs _ mv :: ns =>
    Vitals.vitalsOnSensSample b (Vitals.vitalsPushSensInMvAt b (replayVitals b s ns) mv timeUs)
  | _ :: ns => replayVitals b s ns

def endsScan : List AdcNote → Bool
  | .store _ ch _ _ :: _ => decide (ch = 3)
  | _ => false

structure NotesRight (a : Adc) (ns : List AdcNote) : Prop where
  balanced : ns.countP AdcNote.isTick =
    ns.countP AdcNote.isPush + ns.countP AdcNote.isDropped + (if a.mode = .sens then 1 else 0)
  origins : ∀ n ∈ ns, n.originRight = true
  whole : ScansWhole ns
  during : a.mode = .full → storesSince ns = some (List.range a.index)
  between : a.mode ≠ .full → storesSince ns = none ∨ storesSince ns = some [0, 1, 2, 3]
  ended : endsScan ns = true → a.mode = .idle
  scaled : ScaledRight ns
  channels : ∀ ch < 4, millivolts a ch = channelMv ch ns

section Notes

variable {a : Adc} {ns : List AdcNote}

theorem scaledMv_eq {v reading : UInt16} (hv : a.vrefMv = v.toNat) : scaledMv a reading = vrefScaled v reading := by
  have hr : reading.toNat < 65536 := reading.toNat_lt
  have hu : u32 (reading.toNat * 1200) = reading.toNat * 1200 := by
    unfold u32
    omega
  have hzero : v = 0 ↔ v.toNat = 0 := by
    rw [← UInt16.toNat_inj]
    rfl
  unfold scaledMv vrefScaled
  rw [hv, hu]
  by_cases hz : v.toNat = 0
  · rw [if_neg (not_not.mpr hz), if_pos (hzero.mpr hz)]
  · rw [if_pos hz, if_neg (fun h => hz (hzero.mp h))]

theorem NotesRight.tick_idle (h : NotesRight a ns) (hm : a.mode = .idle) :
    NotesRight { a with mode := .sens, index := 0 } (.tick :: ns) where
  balanced := by
    have hb := h.balanced
    rw [hm] at hb
    simp only [List.countP_cons, AdcNote.isTick, AdcNote.isPush, AdcNote.isDropped, hb]
    simp
  origins := List.forall_mem_cons.mpr ⟨rfl, h.origins⟩
  whole := h.whole
  during hf := absurd hf (by simp)
  between _ := h.between (by rw [hm]; decide)
  ended he := absurd he Bool.false_ne_true
  scaled := h.scaled
  channels := h.channels

theorem NotesRight.tick_busy (h : NotesRight a ns) : NotesRight a (.dropped :: .tick :: ns) where
  balanced := by
    have hb := h.balanced
    simp only [List.countP_cons, AdcNote.isTick, AdcNote.isPush, AdcNote.isDropped, hb]
    simp
    omega
  origins := List.forall_mem_cons.mpr ⟨rfl, List.forall_mem_cons.mpr ⟨rfl, h.origins⟩⟩
  whole := h.whole
  during := h.during
  between := h.between
  ended he := absurd he Bool.false_ne_true
  scaled := h.scaled
  channels := h.channels

theorem NotesRight.scan (h : NotesRight a ns) (hm : a.mode = .idle) :
    NotesRight { a with mode := .full, index := 0 } (.scan :: ns) where
  balanced := by
    have hb := h.balanced
    rw [hm] at hb
    simpa [AdcNote.isTick, AdcNote.isPush, AdcNote.isDropped] using hb
  origins := List.forall_mem_cons.mpr ⟨rfl, h.origins⟩
  whole := ⟨h.between (by rw [hm]; decide), h.whole⟩
  during _ := rfl
  between hf := absurd rfl hf
  ended he := absurd he Bool.false_ne_true
  scaled := h.scaled
  channels := h.channels

theorem NotesRight.vref (h : NotesRight a ns) (reading : UInt16) :
    NotesRight { a with vrefMv := reading.toNat } (.vref reading :: ns) where
  balanced := by
    have hb := h.balanced
    simpa [AdcNote.isTick, AdcNote.isPush, AdcNote.isDropped] using hb
  origins := List.forall_mem_cons.mpr ⟨rfl, h.origins⟩
  whole := h.whole
  during := h.during
  between := h.between
  ended he := absurd he Bool.false_ne_true
  scaled := h.scaled
  channels := h.channels

theorem NotesRight.push (h : NotesRight a ns) (hm : a.mode = .sens) {v reading : UInt16} (timeUs : UInt32)
    (hl : lastVref ns = some v) (hv : a.vrefMv = v.toNat) :
    let mv := UInt16.ofNat (scaledMv a reading)
    NotesRight { a with sensMv := mv.toNat, mode := .idle } (.push .sens timeUs reading mv :: ns) where
  balanced := by
    have hb := h.balanced
    rw [hm] at hb
    simp only [List.countP_cons, AdcNote.isTick, AdcNote.isPush, AdcNote.isDropped, hb]
    simp
    omega
  origins := List.forall_mem_cons.mpr ⟨rfl, h.origins⟩
  whole := h.whole
  during hf := absurd hf (by simp)
  between _ := h.between (by rw [hm]; decide)
  ended _ := rfl
  scaled := ⟨⟨v, hl, by rw [scaledMv_eq hv]⟩, h.scaled⟩
  channels := by
    intro ch hch
    have hc := h.channels ch hch
    unfold channelMv
    split_ifs with hz
    · rw [hz]
      rfl
    · rw [← hc]
      match ch, hz with
      | 1, _ => rfl
      | 2, _ => rfl
      | _ + 3, _ => rfl

theorem millivolts_storeChannel (hi : a.index < 4) (mv : ℕ) {ch : ℕ} (hch : ch < 4) :
    millivolts (storeChannel a mv) ch = if a.index = ch then mv else millivolts a ch := by
  obtain ⟨task, index, mode, vrefMv, sensMv, coMv, nh3Mv, no2Mv⟩ := a
  dsimp only at hi ⊢
  interval_cases index <;> interval_cases ch <;> rfl

theorem storesSince_store {origin : AdcMode} {reading : UInt16} {mv : ℕ}
    (hs : storesSince ns = some (List.range a.index)) :
    storesSince (.store origin a.index reading mv :: ns) = some (List.range (a.index + 1)) := by
  unfold storesSince
  rw [hs, List.range_succ]
  rfl

theorem NotesRight.store (h : NotesRight a ns) (hm : a.mode = .full) (hi : a.index < 4) {v reading : UInt16}
    (hl : lastVref ns = some v) (hv : a.vrefMv = v.toNat) (mode : AdcMode)
    (hnext : mode = .full ∧ a.index ≠ 3 ∨ mode = .idle ∧ a.index = 3) :
    NotesRight { stored a reading with mode := mode }
      (.store .full a.index reading (u16 (scaledMv a reading)) :: ns) where
  balanced := by
    have hb := h.balanced
    have hsens : mode ≠ .sens := by
      rcases hnext with ⟨rfl, _⟩ | ⟨rfl, _⟩ <;> decide
    rw [hm] at hb
    simp only [List.countP_cons, AdcNote.isTick, AdcNote.isPush, AdcNote.isDropped, hb, if_neg hsens]
    simp
  origins := List.forall_mem_cons.mpr ⟨rfl, h.origins⟩
  whole := ⟨⟨hi, h.during hm⟩, h.whole⟩
  during _ := storesSince_store (h.during hm)
  between hf := by
    right
    rw [storesSince_store (h.during hm)]
    rcases hnext with ⟨rfl, _⟩ | ⟨_, hlast⟩
    · exact absurd rfl hf
    · rw [hlast]
      rfl
  ended he := by
    have hlast : a.index = 3 := of_decide_eq_true he
    rcases hnext with ⟨_, hne⟩ | ⟨hidle, _⟩
    · exact absurd hlast hne
    · exact hidle
  scaled := ⟨⟨v, hl, by rw [scaledMv_eq hv]⟩, h.scaled⟩
  channels := by
    intro ch hch
    have hstore : millivolts { stored a reading with mode := mode } ch =
        millivolts (storeChannel a (u16 (scaledMv a reading))) ch := by
      match ch with
      | 0 => rfl
      | 1 => rfl
      | 2 => rfl
      | _ + 3 => rfl
    rw [hstore, millivolts_storeChannel hi _ hch, h.channels ch hch]
    rfl

end Notes

def awaited (a : Adc) : Option AdcSource :=
  match a.mode with
  | .idle => none
  | .sens => some .sensIn
  | .full => adcSources[a.index]?

def Awaits (b : Bench) (source : AdcSource) : Prop :=
  b.queue = [(.vref, b.helmet.adc.mode), (source, b.helmet.adc.mode)] ∨
    b.queue = [(source, b.helmet.adc.mode)] ∧
      ∃ v, lastVref b.notes = some v ∧ b.helmet.adc.vrefMv = v.toNat

structure BenchKept (w : World) (s : Vitals.State) (b : Bench) : Prop where
  task : b.helmet.adc.task = true
  idle : b.helmet.adc.mode = .idle → b.queue = []
  busy : b.helmet.adc.mode ≠ .idle → ∃ source, awaited b.helmet.adc = some source ∧ Awaits b source
  notes : NotesRight b.helmet.adc b.notes
  vitals : b.helmet.vitals = replayVitals w.build s b.notes

section Run

variable {w : World} {s : Vitals.State} {b : Bench}

theorem benchKept_start (w : World) (h : Helmet) : BenchKept w h.vitals (.start h) where
  task := rfl
  idle _ := rfl
  busy hb := absurd rfl hb
  notes := {
    balanced := rfl
    origins := fun n hn => absurd hn (by simp [Bench.start])
    whole := trivial
    during := fun hf => absurd (show AdcMode.idle = .full from hf) (by decide)
    between := fun _ => Or.inl rfl
    ended := fun he => absurd he Bool.false_ne_true
    scaled := trivial
    channels := by
      intro ch hch
      interval_cases ch <;> rfl }
  vitals := rfl

theorem BenchKept.sensTrigger (hk : BenchKept w s b) : BenchKept w s (b.act w .sensTrigger) := by
  by_cases hm : b.helmet.adc.mode = .idle
  · obtain ⟨hadc, hvitals, hqueue, hnotes⟩ := act_sensTrigger_idle w hk.task hm
    have hmode : (b.act w .sensTrigger).helmet.adc.mode = .sens := congrArg Adc.mode hadc
    rw [hk.idle hm, List.nil_append] at hqueue
    constructor
    · rw [hadc]
      exact hk.task
    · intro hidle
      rw [hmode] at hidle
      exact absurd hidle (by decide)
    · intro _
      refine ⟨.sensIn, by rw [awaited, hmode], Or.inl ?_⟩
      rw [hqueue, hmode]
    · rw [hadc, hnotes]
      exact hk.notes.tick_idle hm
    · rw [hvitals, hnotes]
      exact hk.vitals
  · obtain ⟨hadc, hvitals, hqueue, hnotes⟩ := act_sensTrigger_busy w hk.task hm
    constructor
    · rw [hadc]
      exact hk.task
    · intro hidle
      rw [hadc] at hidle
      exact absurd hidle hm
    · intro _
      unfold Awaits
      rw [hadc, hqueue, hnotes]
      exact hk.busy hm
    · rw [hadc, hnotes]
      exact hk.notes.tick_busy
    · rw [hvitals, hnotes, hk.vitals]
      rfl

theorem BenchKept.scan (hk : BenchKept w s b) {ev : AdcEvent} (hev : ev.asksScan = true) :
    BenchKept w s (b.act w ev) := by
  by_cases hm : b.helmet.adc.mode = .idle
  · obtain ⟨hadc, hvitals, hqueue, hnotes⟩ := act_scan_idle w hev hk.task hm
    have hmode : (b.act w ev).helmet.adc.mode = .full := congrArg Adc.mode hadc
    rw [hk.idle hm, List.nil_append] at hqueue
    constructor
    · rw [hadc]
      exact hk.task
    · intro hidle
      rw [hmode] at hidle
      exact absurd hidle (by decide)
    · intro _
      refine ⟨.sensIn, ?_, Or.inl ?_⟩
      · rw [hadc]
        rfl
      · rw [hqueue, hmode]
    · rw [hadc, hnotes]
      exact hk.notes.scan hm
    · rw [hvitals, hnotes]
      exact hk.vitals
  · obtain ⟨hadc, hvitals, hqueue, hnotes⟩ := act_scan_busy w _ hev hm
    constructor
    · rw [hadc]
      exact hk.task
    · intro hidle
      rw [hadc] at hidle
      exact absurd hidle hm
    · intro _
      unfold Awaits
      rw [hadc, hqueue, hnotes]
      exact hk.busy hm
    · rw [hadc, hnotes]
      exact hk.notes
    · rw [hvitals, hnotes]
      exact hk.vitals

theorem BenchKept.vref (hk : BenchKept w s b) {e : Env} {reading : UInt16} {source : AdcSource}
    (hm : b.helmet.adc.mode ≠ .idle) (haw : awaited b.helmet.adc = some source)
    (hq : b.queue = [(.vref, b.helmet.adc.mode), (source, b.helmet.adc.mode)]) :
    BenchKept w s (b.act w (.result e reading)) := by
  obtain ⟨hadc, hvitals, hqueue, hnotes⟩ := act_result_vref w e reading hq
  have hmode : (b.act w (.result e reading)).helmet.adc.mode = b.helmet.adc.mode := by
    rw [hadc]
  constructor
  · rw [hadc]
    exact hk.task
  · intro hidle
    rw [hmode] at hidle
    exact absurd hidle hm
  · intro _
    refine ⟨source, ?_, Or.inr ⟨?_, reading, ?_, ?_⟩⟩
    · rw [hadc]
      exact haw
    · rw [hqueue, hmode]
    · rw [hnotes]
      rfl
    · rw [hadc]
  · rw [hadc, hnotes]
    exact hk.notes.vref reading
  · rw [hvitals, hnotes]
    exact hk.vitals

theorem BenchKept.sens (hk : BenchKept w s b) {e : Env} {reading v : UInt16}
    (hm : b.helmet.adc.mode = .sens) (hq : b.queue = [(.sensIn, .sens)]) (hl : lastVref b.notes = some v)
    (hv : b.helmet.adc.vrefMv = v.toNat) : BenchKept w s (b.act w (.result e reading)) := by
  obtain ⟨hadc, hvitals, hqueue, hnotes⟩ := act_result_sens w e reading hm hq
  constructor
  · rw [hadc]
    exact hk.task
  · intro _
    exact hqueue
  · intro hbusy
    exact absurd (congrArg Adc.mode hadc) hbusy
  · rw [hadc, hnotes]
    exact hk.notes.push hm e.timeUs hl hv
  · rw [hvitals, hnotes, hk.vitals]
    rfl

theorem BenchKept.full (hk : BenchKept w s b) {e : Env} {reading v : UInt16} {source : AdcSource}
    (hm : b.helmet.adc.mode = .full) (hs : adcSources[b.helmet.adc.index]? = some source)
    (hq : b.queue = [(source, .full)]) (hl : lastVref b.notes = some v) (hv : b.helmet.adc.vrefMv = v.toNat) :
    BenchKept w s (b.act w (.result e reading)) := by
  have hi : b.helmet.adc.index < 4 := (List.getElem?_eq_some_iff.mp hs).1
  have htask : (stored b.helmet.adc reading).task = true := (mode_storeChannel _ _).2.1.trans hk.task
  have hmode : (stored b.helmet.adc reading).mode = .full := (mode_storeChannel _ _).1.trans hm
  cases hn : adcSources[b.helmet.adc.index + 1]? with
  | none =>
    have hlast : b.helmet.adc.index = 3 := by
      have hlen : 4 ≤ b.helmet.adc.index + 1 := List.getElem?_eq_none_iff.mp hn
      omega
    obtain ⟨hadc, hvitals, hqueue, hnotes⟩ := act_result_full_last w e reading hm hs hq hn
    constructor
    · rw [hadc]
      exact htask
    · intro _
      exact hqueue
    · intro hbusy
      exact absurd (congrArg Adc.mode hadc) hbusy
    · rw [hadc, hnotes]
      exact hk.notes.store hm hi hl hv .idle (Or.inr ⟨rfl, hlast⟩)
    · rw [hvitals, hnotes]
      exact hk.vitals
  | some next =>
    have hmore : b.helmet.adc.index ≠ 3 := by
      have hlen : b.helmet.adc.index + 1 < 4 := (List.getElem?_eq_some_iff.mp hn).1
      omega
    obtain ⟨hadc, hvitals, hqueue, hnotes⟩ := act_result_full_next w e reading hm hs hq hn
    have hfull : (b.act w (.result e reading)).helmet.adc.mode = .full := (congrArg Adc.mode hadc).trans hmode
    constructor
    · rw [hadc]
      exact htask
    · intro hidle
      rw [hfull] at hidle
      exact absurd hidle (by decide)
    · intro _
      refine ⟨next, ?_, Or.inl ?_⟩
      · rw [awaited, hfull, hadc]
        exact hn
      · rw [hqueue, hfull]
        rfl
    · have hsame : ({ stored b.helmet.adc reading with mode := .full } : Adc) = stored b.helmet.adc reading := by
        rw [← hmode]
      rw [hadc, hnotes, ← hsame]
      exact hk.notes.store hm hi hl hv .full (Or.inl ⟨rfl, hmore⟩)
    · rw [hvitals, hnotes]
      exact hk.vitals

theorem BenchKept.result (hk : BenchKept w s b) (e : Env) (reading : UInt16) :
    BenchKept w s (b.act w (.result e reading)) := by
  by_cases hm : b.helmet.adc.mode = .idle
  · have hact : b.act w (.result e reading) = b := by
      unfold Bench.act
      rw [hk.idle hm]
    rw [hact]
    exact hk
  · obtain ⟨source, haw, hq | ⟨hq, v, hl, hv⟩⟩ := hk.busy hm
    · exact hk.vref hm haw hq
    · cases hmode : b.helmet.adc.mode with
      | idle => exact absurd hmode hm
      | sens =>
        rw [awaited, hmode] at haw
        obtain rfl : .sensIn = source := Option.some.inj haw
        rw [hmode] at hq
        exact hk.sens hmode hq hl hv
      | full =>
        rw [awaited, hmode] at haw
        rw [hmode] at hq
        exact hk.full hmode haw hq hl hv

theorem BenchKept.act (hk : BenchKept w s b) (ev : AdcEvent) : BenchKept w s (b.act w ev) := by
  cases ev with
  | sensTrigger => exact hk.sensTrigger
  | internalTrigger => exact hk.scan rfl
  | requestScan => exact hk.scan rfl
  | result e reading => exact hk.result e reading

theorem benchKept_run (w : World) (h : Helmet) (events : List AdcEvent) :
    BenchKept w h.vitals (.run w h events) := by
  induction events using List.reverseRecOn with
  | nil => exact benchKept_start w h
  | append_singleton events ev ih =>
    rw [Bench.run, List.foldl_append]
    exact ih.act ev

end Run

def owed (b : Bench) : ℕ :=
  match b.helmet.adc.mode with
  | .idle => 0
  | .sens => b.queue.length
  | .full => b.queue.length + 2 * (3 - b.helmet.adc.index)

def AdcEvent.isResult : AdcEvent → Bool
  | .result _ _ => true
  | _ => false

def AdcEvent.isSensTrigger : AdcEvent → Bool
  | .sensTrigger => true
  | _ => false

theorem ticks_act (w : World) (b : Bench) (ev : AdcEvent) : (b.act w ev).notes.countP AdcNote.isTick =
    b.notes.countP AdcNote.isTick + if ev.isSensTrigger then 1 else 0 := by
  cases ev with
  | sensTrigger =>
    change (sensTriggerNotes b.helmet.adc ++ b.notes).countP AdcNote.isTick = _
    rw [List.countP_append, sensTriggerNotes, add_comm]
    split <;> rfl
  | internalTrigger =>
    change (scanNotes b.helmet.adc ++ b.notes).countP AdcNote.isTick = _
    rw [List.countP_append, scanNotes, add_comm]
    split <;> rfl
  | requestScan =>
    change (scanNotes b.helmet.adc ++ b.notes).countP AdcNote.isTick = _
    rw [List.countP_append, scanNotes, add_comm]
    split <;> rfl
  | result e reading =>
    unfold Bench.act
    dsimp only
    split
    · rfl
    · next req rest _ =>
      change (resultNote b.helmet.adc e req reading :: b.notes).countP AdcNote.isTick = _
      rw [List.countP_cons_of_neg]
      · rfl
      · unfold resultNote
        split_ifs <;> exact Bool.false_ne_true

theorem ticks_run (w : World) (h : Helmet) (events : List AdcEvent) :
    (Bench.run w h events).notes.countP AdcNote.isTick = events.countP AdcEvent.isSensTrigger := by
  induction events using List.reverseRecOn with
  | nil => rfl
  | append_singleton events ev ih =>
    have hrun : Bench.run w h (events ++ [ev]) = (Bench.run w h events).act w ev := by
      rw [Bench.run, List.foldl_append]
      rfl
    rw [hrun, ticks_act, ih, List.countP_append, List.countP_singleton]

section Progress

variable {w : World} {s : Vitals.State} {b : Bench}

theorem owed_pos (hk : BenchKept w s b) (hm : b.helmet.adc.mode ≠ .idle) : 0 < owed b := by
  have hlen : 0 < b.queue.length := by
    obtain ⟨source, _, hq | ⟨hq, _⟩⟩ := hk.busy hm
    · rw [hq]
      exact two_pos
    · rw [hq]
      exact one_pos
  unfold owed
  cases hmode : b.helmet.adc.mode with
  | idle => exact absurd hmode hm
  | sens => exact hlen
  | full => exact Nat.lt_of_lt_of_le hlen (Nat.le_add_right _ _)

theorem owed_other (hk : BenchKept w s b) (hm : b.helmet.adc.mode ≠ .idle) {ev : AdcEvent}
    (hev : ev.isResult = false) : owed (b.act w ev) = owed b := by
  have hsame (hadc : (b.act w ev).helmet.adc = b.helmet.adc) (hqueue : (b.act w ev).queue = b.queue) :
      owed (b.act w ev) = owed b := by
    unfold owed
    rw [hadc, hqueue]
  cases ev with
  | sensTrigger =>
    obtain ⟨hadc, _, hqueue, _⟩ := act_sensTrigger_busy w hk.task hm
    exact hsame hadc hqueue
  | result e reading => exact absurd hev.symm Bool.false_ne_true
  | internalTrigger =>
    obtain ⟨hadc, _, hqueue, _⟩ := act_scan_busy w .internalTrigger rfl hm
    exact hsame hadc hqueue
  | requestScan =>
    obtain ⟨hadc, _, hqueue, _⟩ := act_scan_busy w .requestScan rfl hm
    exact hsame hadc hqueue

theorem owed_result (hk : BenchKept w s b) (hm : b.helmet.adc.mode ≠ .idle) (e : Env) (reading : UInt16) :
    owed (b.act w (.result e reading)) + 1 = owed b := by
  obtain ⟨source, haw, hq | ⟨hq, v, _, _⟩⟩ := hk.busy hm
  · obtain ⟨hadc, _, hqueue, _⟩ := act_result_vref w e reading hq
    unfold owed
    rw [hadc, hqueue, hq]
    cases hmode : b.helmet.adc.mode with
    | idle => exact absurd hmode hm
    | sens => rfl
    | full =>
      simp only [List.length_cons, List.length_nil]
      omega
  · cases hmode : b.helmet.adc.mode with
    | idle => exact absurd hmode hm
    | sens =>
      rw [awaited, hmode] at haw
      obtain rfl : .sensIn = source := Option.some.inj haw
      obtain ⟨hadc, _, _, _⟩ := act_result_sens w e reading hmode hq
      unfold owed
      rw [hadc, hmode, hq]
      rfl
    | full =>
      rw [awaited, hmode] at haw
      have hlen : adcSources.length = 4 := rfl
      cases hn : adcSources[b.helmet.adc.index + 1]? with
      | none =>
        obtain ⟨hadc, _, _, _⟩ := act_result_full_last w e reading hmode haw hq hn
        have hlast := List.getElem?_eq_none_iff.mp hn
        unfold owed
        rw [hadc, hmode, hq]
        simp only [List.length_cons, List.length_nil]
        omega
      | some next =>
        obtain ⟨hadc, _, hqueue, _⟩ := act_result_full_next w e reading hmode haw hq hn
        have hmore := (List.getElem?_eq_some_iff.mp hn).1
        have hfull : (stored b.helmet.adc reading).mode = .full := (mode_storeChannel _ _).1.trans hmode
        have hindex : (stored b.helmet.adc reading).index = b.helmet.adc.index + 1 := rfl
        unfold owed
        rw [hadc, hqueue, hfull, hindex, hmode, hq]
        simp only [List.length_append, List.length_cons, List.length_nil]
        omega

theorem idle_after_results (hk : BenchKept w s b) (more : List AdcEvent)
    (hn : owed b ≤ more.countP AdcEvent.isResult) :
    ∃ before after, more = before ++ after ∧ (before.foldl (Bench.act w) b).helmet.adc.mode = .idle := by
  induction more generalizing b with
  | nil =>
    refine ⟨[], [], rfl, ?_⟩
    by_contra hm
    exact absurd hn (not_le.mpr (owed_pos hk hm))
  | cons ev more ih =>
    by_cases hm : b.helmet.adc.mode = .idle
    · exact ⟨[], ev :: more, rfl, hm⟩
    · have hnext : owed (b.act w ev) ≤ more.countP AdcEvent.isResult := by
        rw [List.countP_cons] at hn
        cases hev : ev.isResult with
        | false =>
          rw [hev] at hn
          rw [owed_other hk hm hev]
          exact hn
        | true =>
          rw [hev] at hn
          cases ev with
          | result e reading =>
            have howed := owed_result hk hm e reading
            simp only [↓reduceIte] at hn
            omega
          | _ => exact absurd hev Bool.false_ne_true
      obtain ⟨before, after, hsplit, hidle⟩ := ih (hk.act ev) hnext
      exact ⟨ev :: before, after, by rw [hsplit]; rfl, hidle⟩

end Progress

/-- Every SENS trigger is accounted for, no sample of a gas scan reaches the vitals, scans are whole,
values are scaled with the reference before them, and the sequencer never waits in vain. -/
theorem sens_ticks_accounted (w : World) (h : Helmet) (events : List AdcEvent) :
    let b := Bench.run w h events
    events.countP AdcEvent.isSensTrigger = b.notes.countP AdcNote.isPush + b.notes.countP AdcNote.isDropped +
        (if b.helmet.adc.mode = .sens then 1 else 0) ∧
      NotesRight b.helmet.adc b.notes ∧ b.helmet.vitals = replayVitals w.build h.vitals b.notes ∧
      (b.helmet.adc.mode ≠ .idle → ∃ source, awaited b.helmet.adc = some source ∧
        (source, b.helmet.adc.mode) ∈ b.queue) ∧
      ∀ more : List AdcEvent, owed b ≤ more.countP AdcEvent.isResult → ∃ before after, more = before ++ after ∧
        (Bench.run w h (events ++ before)).helmet.adc.mode = .idle := by
  intro b
  have hk : BenchKept w h.vitals b := benchKept_run w h events
  refine ⟨?_, hk.notes, hk.vitals, ?_, ?_⟩
  · rw [← ticks_run w h events]
    exact hk.notes.balanced
  · intro hm
    obtain ⟨source, haw, hq | ⟨hq, _⟩⟩ := hk.busy hm
    · refine ⟨source, haw, ?_⟩
      rw [hq]
      simp
    · refine ⟨source, haw, ?_⟩
      rw [hq]
      simp
  · intro more hn
    obtain ⟨before, after, hsplit, hidle⟩ := idle_after_results hk more hn
    refine ⟨before, after, hsplit, ?_⟩
    rw [Bench.run, List.foldl_append]
    exact hidle

example : (Bench.run plainWorld .boot [.sensTrigger, .internalTrigger, .result {} 1200, .result {} 50,
    .requestScan, .sensTrigger]).notes =
    [.dropped, .tick, .scan, .push .sens 0 50 50, .vref 1200, .tick] := by
  decide

end SmartHelmet.Firmware
