import SmartHelmet.History
import SmartHelmet.ModuleTask

/-!
The ADC sequencer with the converter behind it: each `AdcReadRequest` gives one result, in the
order of the requests, at any later point. The ledger notes what became of every trigger and
of every result.
-/

namespace SmartHelmet.Firmware

open MachineArith Config

inductive AdcEvent where
  | sensTrigger
  | internalTrigger
  | requestScan
  | result (e : Env) (reading : UInt16)

def Obs.adcRequest? : Obs → Option AdcSource
  | .adcRequest source => some source
  | _ => none

abbrev Request : Type := AdcSource × AdcMode

def newRequests (h h' : Helmet) : List Request :=
  ((h'.log.take (h'.log.length - h.log.length)).filterMap Obs.adcRequest?).reverse.map (fun s => (s, h'.adc.mode))

/-- What a step did, as the source decides it: a `push` is the call of
`SmartHelmet_VitalsPushSensInMvAt`, a `store` writes one channel of the gas scan. -/
inductive AdcNote where
  | tick
  | dropped
  | scan
  | vref (reading : UInt16)
  | push (origin : AdcMode) (timeUs : UInt32) (reading : UInt16) (mv : UInt16)
  | store (origin : AdcMode) (ch : ℕ) (reading : UInt16) (mv : ℕ)
  | ignored
  deriving DecidableEq

def sensTriggerNotes (a : Adc) : List AdcNote := if a.task ∧ a.mode ≠ .idle then [.dropped, .tick] else [.tick]

def scanNotes (a : Adc) : List AdcNote := if a.task ∧ a.mode = .idle then [.scan] else []

def resultNote (a : Adc) (e : Env) (req : Request) (reading : UInt16) : AdcNote :=
  if req.1 = .vref then .vref reading
  else if a.mode = .sens then
    if req.1 = .sensIn then .push req.2 e.timeUs reading (UInt16.ofNat (scaledMv a reading)) else .ignored
  else if a.mode = .full ∧ adcSources[a.index]? = some req.1 then
    .store req.2 a.index reading (u16 (scaledMv a reading))
  else .ignored

/-- The queue is oldest first, the ledger newest first. -/
structure Bench where
  helmet : Helmet
  queue : List Request
  notes : List AdcNote

namespace Bench

def move (b : Bench) (h' : Helmet) (queue : List Request) (notes : List AdcNote) : Bench :=
  ⟨h', queue ++ newRequests b.helmet h', notes ++ b.notes⟩

def act (w : World) (b : Bench) : AdcEvent → Bench
  | .sensTrigger => b.move (adcSensTick b.helmet) b.queue (sensTriggerNotes b.helmet.adc)
  | .internalTrigger => b.move (adcScanTick b.helmet) b.queue (scanNotes b.helmet.adc)
  | .requestScan => b.move (adcRequestScan b.helmet) b.queue (scanNotes b.helmet.adc)
  | .result e reading =>
    match b.queue with
    | [] => b
    | req :: rest =>
      b.move (adcResult w e req.1 reading b.helmet) rest [resultNote b.helmet.adc e req reading]

def start (h : Helmet) : Bench := ⟨adcInit h, [], []⟩

def run (w : World) (h : Helmet) (events : List AdcEvent) : Bench := events.foldl (act w) (start h)

end Bench

section Moves

variable (w : World) {b : Bench} {h' : Helmet} {queue : List Request} {notes : List AdcNote}

theorem newRequests_of_log {h : Helmet} (new : List Obs) (hl : h'.log = new ++ h.log) :
    newRequests h h' = (new.filterMap Obs.adcRequest?).reverse.map (fun s => (s, h'.adc.mode)) := by
  unfold newRequests
  rw [hl, List.length_append, Nat.add_sub_cancel, List.take_left]

theorem queue_move_same (hl : h'.log = b.helmet.log) : (b.move h' queue notes).queue = queue := by
  have hnew : newRequests b.helmet h' = [] := newRequests_of_log [] hl
  change queue ++ newRequests b.helmet h' = queue
  rw [hnew, List.append_nil]

theorem queue_move_pair {source : AdcSource} {mode : AdcMode}
    (hl : h'.log = .adcRequest source :: .adcRequest .vref :: b.helmet.log) (hm : h'.adc.mode = mode) :
    (b.move h' queue notes).queue = queue ++ [(.vref, mode), (source, mode)] := by
  have hnew : newRequests b.helmet h' = [(.vref, mode), (source, mode)] := by
    rw [newRequests_of_log [.adcRequest source, .adcRequest .vref] hl, hm]
    rfl
  change queue ++ newRequests b.helmet h' = _
  rw [hnew]

theorem act_sensTrigger_idle (ht : b.helmet.adc.task = true) (hm : b.helmet.adc.mode = .idle) :
    let b' := b.act w .sensTrigger
    b'.helmet.adc = { b.helmet.adc with mode := .sens, index := 0 } ∧ b'.helmet.vitals = b.helmet.vitals ∧
      b'.queue = b.queue ++ [(.vref, .sens), (.sensIn, .sens)] ∧ b'.notes = .tick :: b.notes := by
  have htick : adcSensTick b.helmet = Helmet.sendLater .adcSens (shAdcStartSens b.helmet) := by
    unfold adcSensTick adcRequestSensIn
    simp [ht, hm, shAdcStartSens, requestPair, Helmet.note]
  have hnotes : sensTriggerNotes b.helmet.adc = [.tick] := if_neg (fun h => h.2 hm)
  have hact : b.act w .sensTrigger =
      b.move (Helmet.sendLater .adcSens (shAdcStartSens b.helmet)) b.queue [.tick] := by
    rw [← htick, ← hnotes]
    rfl
  intro b'
  have hb' : b' = _ := hact
  rw [hb']
  exact ⟨rfl, rfl, queue_move_pair rfl rfl, rfl⟩

theorem act_sensTrigger_busy (ht : b.helmet.adc.task = true) (hm : b.helmet.adc.mode ≠ .idle) :
    let b' := b.act w .sensTrigger
    b'.helmet.adc = b.helmet.adc ∧ b'.helmet.vitals = Vitals.vitalsNoteSensDropped b.helmet.vitals ∧
      b'.queue = b.queue ∧ b'.notes = .dropped :: .tick :: b.notes := by
  let h' := Helmet.sendLater .adcSens
    { b.helmet with vitals := Vitals.vitalsNoteSensDropped b.helmet.vitals }
  have htick : adcSensTick b.helmet = h' := by
    unfold adcSensTick adcRequestSensIn
    simp [ht, hm, h']
  have hnotes : sensTriggerNotes b.helmet.adc = [.dropped, .tick] := if_pos ⟨ht, hm⟩
  have hact : b.act w .sensTrigger = b.move h' b.queue [.dropped, .tick] := by
    rw [← htick, ← hnotes]
    rfl
  intro b'
  have hb' : b' = _ := hact
  rw [hb']
  exact ⟨rfl, rfl, queue_move_same rfl, rfl⟩

def AdcEvent.asksScan : AdcEvent → Bool
  | .internalTrigger | .requestScan => true
  | _ => false

theorem act_scan {ev : AdcEvent} (hev : ev.asksScan = true) :
    ∃ h', b.act w ev = b.move h' b.queue (scanNotes b.helmet.adc) ∧ h'.adc = (adcRequestScan b.helmet).adc ∧
      h'.vitals = (adcRequestScan b.helmet).vitals ∧ h'.log = (adcRequestScan b.helmet).log := by
  cases ev with
  | internalTrigger =>
    refine ⟨adcScanTick b.helmet, rfl, ?_⟩
    unfold adcScanTick
    dsimp only
    split
    · exact ⟨rfl, rfl, rfl⟩
    · exact ⟨rfl, rfl, rfl⟩
  | requestScan => exact ⟨adcRequestScan b.helmet, rfl, rfl, rfl, rfl⟩
  | _ => exact absurd hev Bool.false_ne_true

theorem act_scan_idle {ev : AdcEvent} (hev : ev.asksScan = true) (ht : b.helmet.adc.task = true)
    (hm : b.helmet.adc.mode = .idle) :
    let b' := b.act w ev
    b'.helmet.adc = { b.helmet.adc with mode := .full, index := 0 } ∧ b'.helmet.vitals = b.helmet.vitals ∧
      b'.queue = b.queue ++ [(.vref, .full), (.sensIn, .full)] ∧ b'.notes = .scan :: b.notes := by
  have hscan : adcRequestScan b.helmet =
      requestPair .sensIn { b.helmet with adc := { b.helmet.adc with mode := .full, index := 0 } } := by
    unfold adcRequestScan
    rw [if_pos ⟨ht, hm⟩]
    rfl
  have hnotes : scanNotes b.helmet.adc = [.scan] := if_pos ⟨ht, hm⟩
  obtain ⟨h', hact, hadc, hvitals, hlog⟩ := act_scan w hev
  rw [hscan] at hadc hvitals hlog
  rw [hnotes] at hact
  intro b'
  have hb' : b' = _ := hact
  rw [hb']
  exact ⟨hadc, hvitals, queue_move_pair hlog (congrArg Adc.mode hadc), rfl⟩

theorem act_scan_busy (ev : AdcEvent) (hev : ev.asksScan = true) (hm : b.helmet.adc.mode ≠ .idle) :
    let b' := b.act w ev
    b'.helmet.adc = b.helmet.adc ∧ b'.helmet.vitals = b.helmet.vitals ∧ b'.queue = b.queue ∧
      b'.notes = b.notes := by
  have hscan : adcRequestScan b.helmet = b.helmet := if_neg (fun h => hm h.2)
  have hnotes : scanNotes b.helmet.adc = [] := if_neg (fun h => hm h.2)
  obtain ⟨h', hact, hadc, hvitals, hlog⟩ := act_scan w hev
  rw [hscan] at hadc hvitals hlog
  rw [hnotes] at hact
  intro b'
  have hb' : b' = _ := hact
  rw [hb']
  exact ⟨hadc, hvitals, queue_move_same hlog, rfl⟩

theorem act_result_vref (e : Env) (reading : UInt16) {mode : AdcMode} {rest : List Request}
    (hq : b.queue = (.vref, mode) :: rest) :
    let b' := b.act w (.result e reading)
    b'.helmet.adc = { b.helmet.adc with vrefMv := reading.toNat } ∧ b'.helmet.vitals = b.helmet.vitals ∧
      b'.queue = rest ∧ b'.notes = .vref reading :: b.notes := by
  have hact : b.act w (.result e reading) =
      b.move { b.helmet with adc := { b.helmet.adc with vrefMv := reading.toNat } } rest [.vref reading] := by
    unfold Bench.act
    rw [hq]
    rfl
  intro b'
  have hb' : b' = _ := hact
  rw [hb']
  exact ⟨rfl, rfl, queue_move_same rfl, rfl⟩

theorem act_result_sens (e : Env) (reading : UInt16) {mode : AdcMode} {rest : List Request}
    (hm : b.helmet.adc.mode = .sens) (hq : b.queue = (.sensIn, mode) :: rest) :
    let b' := b.act w (.result e reading)
    let mv := UInt16.ofNat (scaledMv b.helmet.adc reading)
    b'.helmet.adc = { b.helmet.adc with sensMv := mv.toNat, mode := .idle } ∧
      b'.helmet.vitals = Vitals.vitalsOnSensSample w.build
        (Vitals.vitalsPushSensInMvAt w.build b.helmet.vitals mv e.timeUs) ∧
      b'.queue = rest ∧ b'.notes = .push mode e.timeUs reading mv :: b.notes := by
  intro b' mv
  let h' := shAdcFeedVitalsSens w e mv
    { b.helmet with adc := { b.helmet.adc with sensMv := mv.toNat, mode := .idle } }
  have hresult : adcResult w e .sensIn reading b.helmet = h' := by
    unfold adcResult
    rw [hm]
    rfl
  have hnote : resultNote b.helmet.adc e (.sensIn, mode) reading = .push mode e.timeUs reading mv := by
    unfold resultNote
    rw [hm]
    rfl
  have hact : b' = b.move h' rest [.push mode e.timeUs reading mv] := by
    rw [← hresult, ← hnote]
    change b.act w (.result e reading) = _
    unfold Bench.act
    rw [hq]
  rw [hact]
  exact ⟨rfl, rfl, queue_move_same rfl, rfl⟩

theorem mode_storeChannel (a : Adc) (mv : ℕ) :
    (storeChannel a mv).mode = a.mode ∧ (storeChannel a mv).task = a.task ∧
      (storeChannel a mv).vrefMv = a.vrefMv := by
  unfold storeChannel
  split <;> exact ⟨rfl, rfl, rfl⟩

section Full

variable (e : Env) (reading : UInt16) {mode : AdcMode} {rest : List Request} {source : AdcSource}

def stored (a : Adc) (reading : UInt16) : Adc :=
  { storeChannel a (u16 (scaledMv a reading)) with index := a.index + 1 }

theorem act_result_full (hm : b.helmet.adc.mode = .full) (hs : adcSources[b.helmet.adc.index]? = some source)
    (hq : b.queue = (source, mode) :: rest) :
    b.act w (.result e reading) = b.move
      (shAdcRequestNextFull { b.helmet with adc := stored b.helmet.adc reading }) rest
      [.store mode b.helmet.adc.index reading (u16 (scaledMv b.helmet.adc reading))] := by
  have hvref : source ≠ .vref := by
    rintro rfl
    have hmem := List.mem_of_getElem? hs
    exact absurd hmem (by decide)
  have hsens : b.helmet.adc.mode ≠ .sens := by
    rw [hm]
    decide
  have hresult : adcResult w e source reading b.helmet =
      shAdcRequestNextFull { b.helmet with adc := stored b.helmet.adc reading } := by
    unfold adcResult
    rw [if_neg hvref, if_neg hsens, if_pos ⟨hm, hs⟩]
    rfl
  have hnote : resultNote b.helmet.adc e (source, mode) reading =
      .store mode b.helmet.adc.index reading (u16 (scaledMv b.helmet.adc reading)) := by
    unfold resultNote
    rw [if_neg hvref, if_neg hsens, if_pos ⟨hm, hs⟩]
  rw [← hresult, ← hnote]
  unfold Bench.act
  rw [hq]

theorem act_result_full_next {next : AdcSource} (hm : b.helmet.adc.mode = .full)
    (hs : adcSources[b.helmet.adc.index]? = some source) (hq : b.queue = (source, mode) :: rest)
    (hn : adcSources[b.helmet.adc.index + 1]? = some next) :
    let b' := b.act w (.result e reading)
    b'.helmet.adc = stored b.helmet.adc reading ∧ b'.helmet.vitals = b.helmet.vitals ∧
      b'.queue = rest ++ [(.vref, .full), (next, .full)] ∧
      b'.notes = .store mode b.helmet.adc.index reading (u16 (scaledMv b.helmet.adc reading)) :: b.notes := by
  have hnext : shAdcRequestNextFull { b.helmet with adc := stored b.helmet.adc reading } =
      requestPair next { b.helmet with adc := stored b.helmet.adc reading } := by
    unfold shAdcRequestNextFull
    rw [show adcSources[(stored b.helmet.adc reading).index]? = some next from hn]
  have hmode : (stored b.helmet.adc reading).mode = .full := (mode_storeChannel _ _).1.trans hm
  intro b'
  have hb' : b' = _ := act_result_full w e reading hm hs hq
  rw [hb', hnext]
  exact ⟨rfl, rfl, queue_move_pair rfl hmode, rfl⟩

theorem act_result_full_last (hm : b.helmet.adc.mode = .full)
    (hs : adcSources[b.helmet.adc.index]? = some source) (hq : b.queue = (source, mode) :: rest)
    (hn : adcSources[b.helmet.adc.index + 1]? = none) :
    let b' := b.act w (.result e reading)
    b'.helmet.adc = { stored b.helmet.adc reading with mode := .idle } ∧
      b'.helmet.vitals = b.helmet.vitals ∧ b'.queue = rest ∧
      b'.notes = .store mode b.helmet.adc.index reading (u16 (scaledMv b.helmet.adc reading)) :: b.notes := by
  have hnext : shAdcRequestNextFull { b.helmet with adc := stored b.helmet.adc reading } =
      { b.helmet with adc := { stored b.helmet.adc reading with mode := .idle } } := by
    unfold shAdcRequestNextFull
    rw [show adcSources[(stored b.helmet.adc reading).index]? = none from hn]
  intro b'
  have hb' : b' = _ := act_result_full w e reading hm hs hq
  rw [hb', hnext]
  exact ⟨rfl, rfl, queue_move_same rfl, rfl⟩

end Full

end Moves

end SmartHelmet.Firmware
