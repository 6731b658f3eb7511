import SmartHelmet.I2cBus

namespace SmartHelmet.I2c

/-- An open bus has its cached address programmed, and its next cycle carries it. -/
def Synced (st : BusState) : Prop :=
  st.isOpen = true → st.handle = some ⟨st.addr7, st.addr7⟩

/-- A successful transfer returns a cycle of the addressed device, unless it asked for none. -/
def TalkedTo (w : Wire) (s : Buses) (c : Call) : Prop :=
  let done := (i2cTransfer w c s).1
  done.ok = true → (c.txLen = 0 ∧ c.rxLen = 0) ∨
    ∃ cycle, done.cycle = some cycle ∧ cycle.addr = c.addr7 ∧ cycle.answer.result = .success

def Valid (s : Buses) (c : Call) : Prop :=
  c.bus < busCount ∧ (s c.bus).isOpen = true ∧ (c.txLen ≠ 0 → c.tx ≠ none) ∧
    (c.rxLen ≠ 0 → c.hasRx = true) ∧ ¬ (c.txLen = 0 ∧ c.rxLen = 0)

/-- The call changes the address on the open handle, and the device addressed before
acknowledges the first cycle. -/
def AnsweredByPrevious (w : Wire) (s : Buses) (c : Call) : Prop :=
  Valid s c ∧ (s c.bus).addr7 ≠ c.addr7 ∧ w.bitserialChangeParam c.addr7 = true ∧
    (w.reply 0 (s c.bus).addr7 c.request).result = .success

theorem synced_openHandle (w : Wire) (st : BusState) (addr7 : UInt8) :
    Synced (shI2cOpenHandle w st addr7).2 := by
  unfold shI2cOpenHandle
  split
  · exact fun _ => rfl
  · exact fun h => absurd h Bool.false_ne_true

theorem synced_openBus (w : Wire) {st : BusState} (hs : Synced st) (block : Block)
    (scl sda speedKhz : ℕ) : Synced (shI2cOpenBus w st block scl sda speedKhz).2 := by
  unfold shI2cOpenBus
  split
  · exact hs
  · next hclosed =>
    dsimp only
    split
    · exact fun h => absurd h hclosed
    · exact synced_openHandle w _ 0

theorem synced_closeBus {st : BusState} (hs : Synced st) : Synced (closeBus st) := by
  unfold closeBus
  split
  · exact fun h => absurd h Bool.false_ne_true
  · exact hs

theorem runXfer_some (w : Wire) (n : ℕ) (r : Request) {st : BusState} {b : Bitserial}
    (hb : st.handle = some b) :
    shI2cRunXfer w n r st = (some ⟨b.carried, w.reply n b.carried r⟩,
      { st with handle := some ⟨b.programmed, b.programmed⟩ }) := by
  unfold shI2cRunXfer
  rw [hb]
  rfl

inductive SetAddr (w : Wire) (st : BusState) (addr7 : UInt8) : Bool × BusState → Prop
  | same (heq : st.addr7 = addr7) : SetAddr w st addr7 (true, st)
  | changed (hne : st.addr7 ≠ addr7) (hok : w.bitserialChangeParam addr7 = true) :
      SetAddr w st addr7 (true, { st with
        handle := some ⟨addr7, st.addr7⟩
        addr7 := addr7
        addrReady := false })
  | reopened (hne : st.addr7 ≠ addr7) (hno : w.bitserialChangeParam addr7 = false) {st' : BusState}
      (haddr : st'.addr7 = addr7) (hhandle : st'.handle = some ⟨addr7, addr7⟩) :
      SetAddr w st addr7 (true, st')
  | closed (hno : w.bitserialChangeParam addr7 = false) {st' : BusState} (hclosed : st'.isOpen = false) :
      SetAddr w st addr7 (false, st')

theorem setAddr_cases (w : Wire) {st : BusState} (hs : Synced st) (hopen : st.isOpen = true)
    (addr7 : UInt8) : SetAddr w st addr7 (shI2cSetAddr w st addr7) := by
  unfold shI2cSetAddr
  rw [if_neg (not_not.mpr hopen)]
  by_cases heq : st.addr7 = addr7
  · rw [if_pos heq]
    exact .same heq
  · rw [if_neg heq]
    unfold shI2cChangeAddr
    cases hchange : w.bitserialChangeParam addr7 with
    | true =>
      simp only [if_true, hs hopen, Option.map_some]
      exact .changed heq hchange
    | false =>
      simp only [Bool.false_eq_true, if_false]
      split
      · exact .closed hchange rfl
      · unfold shI2cOpenHandle
        split
        · exact .reopened heq hchange rfl rfl
        · exact .closed hchange rfl

def Outcome.of (o : Outcome) (addr7 : UInt8) : Prop :=
  o.ok = true → ∃ cycle, o.cycle = some cycle ∧ cycle.addr = addr7 ∧ cycle.answer.result = .success

theorem outcome_of_iff (a addr7 : UInt8) (answer : Answer) :
    Outcome.of ⟨decide (answer.result = .success), some ⟨a, answer⟩⟩ addr7 ↔
      (answer.result = .success → a = addr7) := by
  constructor
  · intro h hok
    obtain ⟨cycle, hcycle, haddr, -⟩ := h (decide_eq_true hok)
    cases hcycle
    exact haddr
  · intro h hok
    have hsucc : answer.result = .success := of_decide_eq_true hok
    exact ⟨_, rfl, h hsucc, hsucc⟩

theorem transferOn_carried (w : Wire) (c : Call) {st st' : BusState}
    (hset : shI2cSetAddr w st c.addr7 = (true, st'))
    (hhandle : st'.handle = some ⟨c.addr7, c.addr7⟩) :
    (transferOn w c st).1.of c.addr7 ∧
      (transferOn w c st).2.handle = st'.handle ∧ (transferOn w c st).2.addr7 = st'.addr7 := by
  have hkeep : { st' with handle := some ⟨c.addr7, c.addr7⟩ } = st' := by
    rw [← hhandle]
  unfold transferOn
  rw [hset]
  dsimp only
  rw [if_neg (not_not.mpr rfl), runXfer_some w 0 c.request hhandle, hkeep,
    runXfer_some w 1 c.request hhandle, hkeep]
  split
  · exact ⟨(outcome_of_iff _ _ _).mpr fun _ => rfl, rfl, rfl⟩
  · exact ⟨(outcome_of_iff _ _ _).mpr fun _ => rfl, rfl, rfl⟩

theorem transferOn_changed (w : Wire) (c : Call) {st : BusState} (hne : st.addr7 ≠ c.addr7)
    (hset : shI2cSetAddr w st c.addr7 = (true, { st with
      handle := some ⟨c.addr7, st.addr7⟩
      addr7 := c.addr7
      addrReady := false })) :
    ((transferOn w c st).1.of c.addr7 ↔ (w.reply 0 st.addr7 c.request).result ≠ .success) ∧
      (transferOn w c st).2.handle = some ⟨c.addr7, c.addr7⟩ ∧ (transferOn w c st).2.addr7 = c.addr7 := by
  unfold transferOn
  rw [hset]
  dsimp only
  rw [if_neg (not_not.mpr rfl), runXfer_some w 0 c.request rfl]
  dsimp only
  rw [runXfer_some w 1 c.request rfl]
  by_cases hnack : (w.reply 0 st.addr7 c.request).result = .i2cNack
  · rw [if_pos ⟨hnack, Or.inl hne⟩]
    refine ⟨iff_of_true ((outcome_of_iff _ _ _).mpr fun _ => rfl) ?_, rfl, rfl⟩
    rw [hnack]
    exact BitserialResult.noConfusion
  · rw [if_neg fun h => hnack h.1]
    refine ⟨(outcome_of_iff _ _ _).trans ?_, rfl, rfl⟩
    exact ⟨fun h hok => hne (h hok), fun h hok => absurd hok h⟩

theorem transferOn_spec (w : Wire) (c : Call) {st : BusState} (hs : Synced st) (hopen : st.isOpen = true) :
    Synced (transferOn w c st).2 ∧
      ((transferOn w c st).1.of c.addr7 ↔ ¬ (st.addr7 ≠ c.addr7 ∧ w.bitserialChangeParam c.addr7 = true ∧
        (w.reply 0 st.addr7 c.request).result = .success)) := by
  have hcases := setAddr_cases w hs hopen c.addr7
  generalize hset : shI2cSetAddr w st c.addr7 = set at hcases
  cases hcases with
  | same heq =>
    obtain ⟨hof, hhandle, haddr⟩ := transferOn_carried w c hset (heq ▸ hs hopen)
    refine ⟨fun _ => ?_, iff_of_true hof fun h => h.1 heq⟩
    rw [hhandle, haddr]
    exact hs hopen
  | changed hne hok =>
    obtain ⟨hof, hhandle, haddr⟩ := transferOn_changed w c hne hset
    refine ⟨fun _ => ?_, hof.trans ?_⟩
    · rw [hhandle, haddr]
    · exact ⟨fun h h' => h h'.2.2, fun h hsucc => h ⟨hne, hok, hsucc⟩⟩
  | reopened hne hno haddr' hhandle' =>
    obtain ⟨hof, hhandle, haddr⟩ := transferOn_carried w c hset hhandle'
    refine ⟨fun _ => ?_, iff_of_true hof fun h => ?_⟩
    · rw [hhandle, haddr, haddr', hhandle']
    · exact Bool.false_ne_true (hno.symm.trans h.2.1)
  | @closed hno st' hclosed =>
    have hdone : transferOn w c st = (⟨false, none⟩, st') := by
      unfold transferOn
      rw [hset]
      rfl
    rw [hdone]
    refine ⟨fun h => absurd (hclosed.symm.trans h) Bool.false_ne_true, iff_of_true ?_ fun h => ?_⟩
    · exact fun hok => absurd hok Bool.false_ne_true
    · exact Bool.false_ne_true (hno.symm.trans h.2.1)

theorem transfer_valid (w : Wire) {s : Buses} {c : Call} (hv : Valid s c) :
    i2cTransfer w c s =
      ((transferOn w c (s c.bus)).1, Function.update s c.bus (transferOn w c (s c.bus)).2) := by
  obtain ⟨hbus, hopen, htx, hrx, hlen⟩ := hv
  unfold i2cTransfer
  rw [if_neg (by simp [hopen, hbus]), if_neg fun h => htx h.1 h.2, if_neg fun h => h.2 (hrx h.1), if_neg hlen]

theorem transfer_invalid (w : Wire) {s : Buses} {c : Call} (hv : ¬ Valid s c) :
    (i2cTransfer w c s).2 = s ∧
      ((i2cTransfer w c s).1.ok = true → c.txLen = 0 ∧ c.rxLen = 0) := by
  unfold i2cTransfer
  split
  · exact ⟨rfl, fun h => absurd h Bool.false_ne_true⟩
  · next hbus =>
    split
    · exact ⟨rfl, fun h => absurd h Bool.false_ne_true⟩
    · next htx =>
      split
      · exact ⟨rfl, fun h => absurd h Bool.false_ne_true⟩
      · next hrx =>
        split
        · next hlen => exact ⟨rfl, fun _ => hlen⟩
        · next hlen =>
          refine absurd ⟨?_, ?_, ?_, ?_, hlen⟩ hv
          · exact not_le.mp fun h => hbus (Or.inl h)
          · exact not_not.mp fun h => hbus (Or.inr h)
          · exact fun hn hnull => htx ⟨hn, hnull⟩
          · exact fun hn => not_not.mp fun hnull => hrx ⟨hn, hnull⟩

theorem talkedTo_iff (w : Wire) {s : Buses} (hs : ∀ bus, Synced (s bus)) (c : Call) :
    TalkedTo w s c ↔ ¬ AnsweredByPrevious w s c := by
  by_cases hv : Valid s c
  · have hspec := (transferOn_spec w c (hs c.bus) hv.2.1).2
    unfold TalkedTo AnsweredByPrevious
    rw [transfer_valid w hv]
    dsimp only
    constructor
    · intro h hprev
      refine hspec.mp (fun hok => ?_) hprev.2
      exact (h hok).resolve_left hv.2.2.2.2
    · intro h hok
      exact Or.inr (hspec.mpr (fun hprev => h ⟨hv, hprev⟩) hok)
  · refine iff_of_true (fun hok => Or.inl ((transfer_invalid w hv).2 hok)) fun h => hv h.1

theorem synced_step {s : Buses} (hs : ∀ bus, Synced (s bus)) (ev : Wire × Event) (bus : ℕ) :
    Synced (step s ev bus) := by
  obtain ⟨w, ev⟩ := ev
  cases ev with
  | init =>
    have h0 := synced_openBus w (hs 0) .block0 20 19 100
    have h1 := synced_openBus w (hs 1) .block1 16 15 100
    simp only [step, i2cInit, Function.update_apply]
    split_ifs
    · exact h1
    · exact h0
    · exact hs bus
  | close =>
    simp only [step, i2cClose]
    split
    · exact synced_closeBus (hs bus)
    · exact hs bus
  | transfer c =>
    simp only [step]
    by_cases hv : Valid s c
    · rw [transfer_valid w hv]
      dsimp only
      rw [Function.update_apply]
      split
      · exact (transferOn_spec w c (hs c.bus) hv.2.1).1
      · exact hs bus
    · rw [(transfer_invalid w hv).1]
      exact hs bus

theorem synced_run (evs : List (Wire × Event)) (bus : ℕ) : Synced (run evs bus) := by
  induction evs using List.reverseRecOn generalizing bus with
  | nil => exact fun h => absurd h Bool.false_ne_true
  | append_singleton evs ev ih =>
    rw [run, List.foldl_append, List.foldl_cons, List.foldl_nil]
    exact synced_step ih ev bus

/-- Every transfer of a run has talked to the device it names exactly when no transfer that
changes the address is answered by the device addressed before. On every open bus the cached
address is the one programmed last. -/
theorem transfers_talk_to_addressed_iff (evs : List (Wire × Event)) :
    ((∀ before w c after, evs = before ++ (w, .transfer c) :: after → TalkedTo w (run before) c) ↔
      ∀ before w c after, evs = before ++ (w, .transfer c) :: after →
        ¬ AnsweredByPrevious w (run before) c) ∧
    ∀ bus, (run evs bus).isOpen = true →
      ∃ handle, (run evs bus).handle = some handle ∧ handle.programmed = (run evs bus).addr7 := by
  constructor
  · constructor
    · intro h before w c after hevs
      exact (talkedTo_iff w (synced_run before) c).mp (h before w c after hevs)
    · intro h before w c after hevs
      exact (talkedTo_iff w (synced_run before) c).mpr (h before w c after hevs)
  · intro bus hopen
    exact ⟨_, synced_run evs bus hopen, rfl⟩

def sharedWire : Wire where
  present := fun addr => addr == 0x5a || addr == 0x40
  answer := fun _ addr _ => ⟨.success, [addr]⟩
  unmapPins := fun _ => true
  pioSetFunction := fun _ _ => true
  bitserialOpen := fun _ _ _ => true
  bitserialChangeParam := fun _ => true

def readReg (addr7 reg : UInt8) : Call := ⟨0, addr7, some [reg], 1, true, 1⟩

/-- The humidity sensor's register is read from the thermometer, which was addressed before. -/
theorem read_answered_by_previous :
    let s := run [(sharedWire, .init), (sharedWire, .transfer (readReg 0x5a 0x07))]
    let done := (i2cTransfer sharedWire (readReg 0x40 0x00) s).1
    done.ok = true ∧ done.cycle.map Cycle.addr = some 0x5a ∧ ¬ TalkedTo sharedWire s (readReg 0x40 0x00) := by
  refine ⟨by decide, by decide, fun h => ?_⟩
  obtain ⟨hlen, -⟩ | ⟨cycle, hcycle, haddr, -⟩ := h (by decide)
  · exact absurd hlen (by decide)
  · have hmap := congrArg (Option.map Cycle.addr) hcycle
    rw [Option.map_some, haddr] at hmap
    exact absurd hmap (by decide)

end SmartHelmet.I2c
