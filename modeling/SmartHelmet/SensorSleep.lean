import SmartHelmet.SensorConfig

namespace SmartHelmet.I2c

def powerDown : Request := .write [0x20, 0x00]

/-- The bus opens again with the address, after its handle could not be given it. -/
def reopens (w : Wire) (st : BusState) (addr7 : UInt8) : Bool :=
  shI2cConfigurePios w st.scl st.sda st.block && w.bitserialOpen st.block st.speedKhz addr7

def reaches (w : Wire) (st : BusState) (addr7 : UInt8) : Bool :=
  st.isOpen && (decide (st.addr7 = addr7) || w.bitserialChangeParam addr7 || reopens w st addr7)

/-- The address on the wire in the first cycle after a change of the address. -/
def firstAddr (w : Wire) (st : BusState) (addr7 : UInt8) : Option UInt8 :=
  if w.bitserialChangeParam addr7 then some st.addr7
  else if reopens w st addr7 then some addr7
  else none

def BusState.port (st : BusState) : Block × ℕ × ℕ × ℕ := (st.block, st.scl, st.sda, st.speedKhz)

section Switch

variable (w : Wire) (c : Call) {st : BusState}

theorem setAddr_switch (hopen : st.isOpen = true) {addr7 : UInt8} (hne : st.addr7 ≠ addr7) :
    shI2cSetAddr w st addr7 =
      if w.bitserialChangeParam addr7 then (true, { st with
        handle := st.handle.map fun b => { b with programmed := addr7 }
        addr7 := addr7
        addrReady := false })
      else if reopens w st addr7 then (true, { st with
        handle := some ⟨addr7, addr7⟩
        addr7 := addr7
        addrReady := false })
      else (false, { st with
        handle := none
        isOpen := false
        addr7 := 0
        addrReady := false }) := by
  unfold shI2cSetAddr shI2cChangeAddr
  rw [if_neg (not_not.mpr hopen), if_neg hne]
  cases w.bitserialChangeParam addr7 with
  | true => rfl
  | false =>
    unfold reopens shI2cOpenHandle
    simp only [Bool.false_eq_true, if_false]
    cases shI2cConfigurePios w st.scl st.sda st.block with
    | false => rfl
    | true =>
      cases w.bitserialOpen st.block st.speedKhz addr7 with
      | false => rfl
      | true => simp [hopen]

theorem setAddr_keeps (addr7 : UInt8) :
    (shI2cSetAddr w st addr7).2.isOpen = reaches w st addr7 ∧ (shI2cSetAddr w st addr7).2.port = st.port := by
  unfold reaches
  by_cases hopen : st.isOpen = true
  · rw [hopen, Bool.true_and]
    by_cases heq : st.addr7 = addr7
    · rw [decide_eq_true heq]
      unfold shI2cSetAddr
      rw [if_neg (not_not.mpr hopen), if_pos heq]
      exact ⟨hopen, rfl⟩
    · rw [setAddr_switch w hopen heq, decide_eq_false heq]
      cases w.bitserialChangeParam addr7 with
      | true => exact ⟨hopen, rfl⟩
      | false =>
        cases reopens w st addr7 with
        | true => exact ⟨hopen, rfl⟩
        | false => exact ⟨rfl, rfl⟩
  · unfold shI2cSetAddr
    rw [if_pos hopen]
    dsimp only
    rw [Bool.eq_false_iff.mpr hopen]
    exact ⟨rfl, rfl⟩

theorem runXfer_keeps (n : ℕ) (r : Request) (st : BusState) :
    (shI2cRunXfer w n r st).2.isOpen = st.isOpen ∧ (shI2cRunXfer w n r st).2.port = st.port := by
  unfold shI2cRunXfer
  cases st.handle <;> exact ⟨rfl, rfl⟩

theorem transferOn_keeps :
    (transferOn w c st).2.isOpen = reaches w st c.addr7 ∧ (transferOn w c st).2.port = st.port := by
  have hset : (shI2cSetAddr w st c.addr7).2.isOpen = reaches w st c.addr7 ∧ (shI2cSetAddr w st c.addr7).2.port = st.port :=
    setAddr_keeps w c.addr7
  have hfirst := runXfer_keeps w 0 c.request (shI2cSetAddr w st c.addr7).2
  have hsecond := runXfer_keeps w 1 c.request (shI2cRunXfer w 0 c.request (shI2cSetAddr w st c.addr7).2).2
  unfold transferOn
  dsimp only
  split
  · exact hset
  · dsimp only
    split
    · exact ⟨(hsecond.1.trans hfirst.1).trans hset.1, (hsecond.2.trans hfirst.2).trans hset.2⟩
    · exact ⟨hfirst.1.trans hset.1, hfirst.2.trans hset.2⟩

theorem reopens_congr {st' : BusState} (hport : st'.port = st.port) (addr7 : UInt8) :
    reopens w st' addr7 = reopens w st addr7 := by
  obtain ⟨hblock, hscl, hsda, hspeed⟩ : st'.block = st.block ∧ st'.scl = st.scl ∧ st'.sda = st.sda ∧ st'.speedKhz = st.speedKhz := by
    simpa only [BusState.port, Prod.mk.injEq] using hport
  unfold reopens
  rw [hblock, hscl, hsda, hspeed]

theorem cycle_of_carried (hne : st.addr7 ≠ c.addr7) {st' : BusState} {a : UInt8}
    (hset : shI2cSetAddr w st c.addr7 = (true, st')) (hhandle : st'.handle = some ⟨c.addr7, a⟩) :
    (transferOn w c st).1.cycle = some (if (w.reply 0 a c.request).result = .i2cNack then
      ⟨c.addr7, w.reply 1 c.addr7 c.request⟩ else ⟨a, w.reply 0 a c.request⟩) := by
  unfold transferOn
  rw [hset]
  dsimp only
  rw [if_neg (not_not.mpr rfl), runXfer_some w 0 c.request hhandle]
  dsimp only
  rw [runXfer_some w 1 c.request rfl]
  by_cases hnack : (w.reply 0 a c.request).result = .i2cNack
  · rw [if_pos ⟨hnack, Or.inl hne⟩, if_pos hnack]
  · rw [if_neg fun h => hnack h.1, if_neg hnack]

theorem switched_cycle (hs : Synced st) (hopen : st.isOpen = true) (hne : st.addr7 ≠ c.addr7) :
    (transferOn w c st).1.cycle = (firstAddr w st c.addr7).map fun a =>
      if (w.reply 0 a c.request).result = .i2cNack then ⟨c.addr7, w.reply 1 c.addr7 c.request⟩
      else ⟨a, w.reply 0 a c.request⟩ := by
  have hset := setAddr_switch w hopen hne
  rw [hs hopen] at hset
  unfold firstAddr
  cases hparam : w.bitserialChangeParam c.addr7 with
  | true =>
    rw [hparam, if_pos rfl] at hset
    exact cycle_of_carried w c hne hset rfl
  | false =>
    rw [hparam, if_neg Bool.false_ne_true] at hset
    cases hagain : reopens w st c.addr7 with
    | true =>
      rw [hagain, if_pos rfl] at hset
      exact cycle_of_carried w c hne hset rfl
    | false =>
      rw [hagain, if_neg Bool.false_ne_true] at hset
      unfold transferOn
      rw [hset]
      rfl

end Switch

/-- The write to the accelerometer after the one to the gas sensor is acknowledged by the
accelerometer. A handle that takes the new address still carries the gas sensor's in the first
cycle; a bus that is opened again carries the accelerometer's at once. -/
def PowersDown (w : Wire) (st : BusState) : Prop :=
  if w.bitserialChangeParam addrLis3dh = true then
    (w.reply 0 addrCcs811 powerDown).result = .i2cNack ∧ (w.reply 1 addrLis3dh powerDown).result = .success
  else
    reopens w st addrLis3dh = true ∧ ((w.reply 0 addrLis3dh powerDown).result = .success ∨
      (w.reply 0 addrLis3dh powerDown).result = .i2cNack ∧ (w.reply 1 addrLis3dh powerDown).result = .success)

section Sleep

variable (w : ℕ → Wire) {s : Hub}

theorem transfer_closed {c : Call} (hc : c.Sound) (hclosed : (s.buses 0).isOpen = false) :
    (transfer w c s).2.buses = s.buses ∧ (transfer w c s).2.effects = s.effects := by
  have hbus : i2cTransfer (w s.calls) c s.buses = (⟨false, none⟩, s.buses) := by
    unfold i2cTransfer
    rw [hc.bus, if_pos (Or.inr (Bool.eq_false_iff.mp hclosed))]
  unfold transfer
  dsimp only
  rw [hbus]
  exact ⟨rfl, rfl⟩

theorem writeReg_bus (addr7 reg : UInt8) {tx : List UInt8} (hlen : tx.length ≤ 16) :
    ((i2cWriteReg w addr7 reg tx s).2.buses 0).isOpen = reaches (w s.calls) (s.buses 0) addr7 ∧
      ((i2cWriteReg w addr7 reg tx s).2.buses 0).port = (s.buses 0).port := by
  have hsound := sound_writeReg addr7 reg tx
  rw [writeReg_eq w s hlen]
  cases hopen : (s.buses 0).isOpen with
  | true =>
    unfold transfer
    dsimp only
    rw [transfer_valid (w s.calls) (valid_of_open s hsound hopen)]
    dsimp only
    rw [Function.update_self]
    exact transferOn_keeps (w s.calls) _
  | false =>
    rw [(transfer_closed w hsound hopen).1]
    unfold reaches
    rw [hopen]
    exact ⟨rfl, rfl⟩

theorem powerDown_effects (hs : AllSynced s) (hopen : (s.buses 0).isOpen = true) (hlast : (s.buses 0).addr7 = addrCcs811) :
    (i2cWriteReg w addrLis3dh 0x20 [0x00] s).2.effects =
      effectOf powerDown ((firstAddr (w s.calls) (s.buses 0) addrLis3dh).map fun a =>
        if ((w s.calls).reply 0 a powerDown).result = .i2cNack then
          ⟨addrLis3dh, (w s.calls).reply 1 addrLis3dh powerDown⟩
        else ⟨a, (w s.calls).reply 0 a powerDown⟩) ++ s.effects := by
  have hsound := sound_writeReg addrLis3dh 0x20 [0x00]
  have hne : (s.buses 0).addr7 ≠ addrLis3dh := by
    rw [hlast]
    decide
  have hcycle := switched_cycle (w s.calls) ⟨0, addrLis3dh, some [0x20, 0x00], 1 + [(0x00 : UInt8)].length, false, 0⟩ (hs 0) hopen
    hne
  rw [writeReg_eq w s (by decide)]
  unfold transfer
  dsimp only
  rw [transfer_valid (w s.calls) (valid_of_open s hsound hopen)]
  dsimp only
  rw [hcycle, request_writeReg]
  rfl

theorem written_powerDown (a : UInt8) (answer : Answer) (effects : List Effect) :
    written addrLis3dh 0x20 (effectOf powerDown (some ⟨a, answer⟩) ++ effects) =
      if a = addrLis3dh ∧ answer.result = .success then some [0x00] else written addrLis3dh 0x20 effects := by
  unfold effectOf
  dsimp only
  by_cases hsucc : answer.result = .success
  · rw [if_pos hsucc]
    by_cases ha : a = addrLis3dh
    · rw [if_pos ⟨ha, hsucc⟩]
      exact if_pos ⟨ha, rfl, List.cons_ne_nil _ _⟩
    · rw [if_neg fun h => ha h.1]
      exact if_neg fun h => ha h.1
  · rw [if_neg hsucc, if_neg fun h => hsucc h.2]
    rfl

/-- What the write to the gas sensor leaves for the one to the accelerometer. -/
structure Ccs811Slept (s s' : Hub) : Prop where
  synced : AllSynced s'
  isOpen : (s'.buses 0).isOpen = reaches (w s.calls) (s.buses 0) addrCcs811
  port : (s'.buses 0).port = (s.buses 0).port
  last : (s'.buses 0).isOpen = true → (s'.buses 0).addr7 = addrCcs811
  calls : s'.calls = s.calls + 1
  written : written addrLis3dh 0x20 s'.effects = written addrLis3dh 0x20 s.effects
  lis3dhOk : s'.sensors.lis3dhOk = s.sensors.lis3dhOk

theorem ccs811_slept (hs : AllSynced s) (hccs : s.sensors.ccs811Ok = true) : Ccs811Slept w s (s.sleepCcs811 w) := by
  have hframe : Frame [0x01] s (i2cWriteReg w addrCcs811 0x01 [0x00] s).2 :=
    frame_writeReg w s (by decide) fun _ => List.mem_cons_self
  have haddressed : Addressed addrCcs811 (i2cWriteReg w addrCcs811 0x01 [0x00] s).2 :=
    addressed_writeReg w s (by decide) hs
  obtain ⟨hopen, hport⟩ := writeReg_bus w addrCcs811 0x01 (show [(0x00 : UInt8)].length ≤ 16 by decide)
  have hdone : s.sleepCcs811 w = (i2cWriteReg w addrCcs811 0x01 [0x00] s).2.setSensors (Device.mark .ccs811 false) :=
    if_pos hccs
  have hlis : (i2cWriteReg w addrCcs811 0x01 [0x00] s).2.sensors.lis3dhOk = s.sensors.lis3dhOk := by
    rw [hframe.sensors]
  rw [hdone]
  exact {
    synced := hframe.synced hs
    isOpen := hopen
    port := hport
    last := haddressed.last
    calls := rfl
    written := hframe.written addrLis3dh (by decide)
    lis3dhOk := hlis }

theorem powersDown_congr (now : Wire) {st st' : BusState} (hport : st'.port = st.port) :
    PowersDown now st' ↔ PowersDown now st := by
  unfold PowersDown
  rw [reopens_congr now hport]

theorem written_open (hs : AllSynced s) (hopen : (s.buses 0).isOpen = true) (hlast : (s.buses 0).addr7 = addrCcs811) :
    (PowersDown (w s.calls) (s.buses 0) → written addrLis3dh 0x20 (i2cWriteReg w addrLis3dh 0x20 [0x00] s).2.effects = some [0x00]) ∧
      (¬ PowersDown (w s.calls) (s.buses 0) → written addrLis3dh 0x20 (i2cWriteReg w addrLis3dh 0x20 [0x00] s).2.effects =
        written addrLis3dh 0x20 s.effects) := by
  rw [powerDown_effects w hs hopen hlast]
  generalize w s.calls = now
  unfold PowersDown firstAddr
  rw [hlast]
  have hne : addrCcs811 ≠ addrLis3dh := by decide
  cases now.bitserialChangeParam addrLis3dh with
  | true =>
    simp only [if_true, Option.map_some]
    by_cases hnack : (now.reply 0 addrCcs811 powerDown).result = .i2cNack
    · rw [if_pos hnack, written_powerDown]
      exact ⟨fun h => if_pos ⟨rfl, h.2⟩, fun h => if_neg fun hdone => h ⟨hnack, hdone.2⟩⟩
    · rw [if_neg hnack, written_powerDown, if_neg fun h => hne h.1]
      exact ⟨fun h => absurd h.1 hnack, fun _ => rfl⟩
  | false =>
    cases reopens now (s.buses 0) addrLis3dh with
    | false => exact ⟨fun h => absurd h.1 Bool.false_ne_true, fun _ => rfl⟩
    | true =>
      simp only [Bool.false_eq_true, if_false, if_true, Option.map_some, true_and]
      by_cases hnack : (now.reply 0 addrLis3dh powerDown).result = .i2cNack
      · have hfail : (now.reply 0 addrLis3dh powerDown).result ≠ .success := by
          rw [hnack]
          exact BitserialResult.noConfusion
        rw [if_pos hnack, written_powerDown]
        exact ⟨fun h => if_pos ⟨rfl, (h.resolve_left hfail).2⟩, fun h => if_neg fun hdone => h (Or.inr ⟨hnack, hdone.2⟩)⟩
      · rw [if_neg hnack, written_powerDown]
        exact ⟨fun h => if_pos ⟨rfl, h.resolve_right fun h => hnack h.1⟩, fun h => if_neg fun hdone => h (Or.inl hdone.2)⟩

theorem written_sleepLis3dh (hs : AllSynced s) (hlast : (s.buses 0).isOpen = true → (s.buses 0).addr7 = addrCcs811) :
    ((s.buses 0).isOpen = true ∧ PowersDown (w s.calls) (s.buses 0) →
      written addrLis3dh 0x20 (i2cWriteReg w addrLis3dh 0x20 [0x00] s).2.effects = some [0x00]) ∧
    (¬ ((s.buses 0).isOpen = true ∧ PowersDown (w s.calls) (s.buses 0)) →
      written addrLis3dh 0x20 (i2cWriteReg w addrLis3dh 0x20 [0x00] s).2.effects = written addrLis3dh 0x20 s.effects) := by
  by_cases hopen : (s.buses 0).isOpen = true
  · obtain ⟨hdown, hkept⟩ := written_open w hs hopen (hlast hopen)
    exact ⟨fun h => hdown h.2, fun h => hkept fun hdown => h ⟨hopen, hdown⟩⟩
  · rw [writeReg_eq w s (by decide),
      (transfer_closed w (sound_writeReg addrLis3dh 0x20 [0x00]) (Bool.eq_false_iff.mpr hopen)).2]
    exact ⟨fun h => absurd h.1 hopen, fun _ => rfl⟩

end Sleep

/-- On the way to sleep the accelerometer is stopped exactly when the gas sensor's write has
left the bus open and the accelerometer acknowledges its own one; otherwise it keeps measuring,
although it is flagged as stopped. -/
theorem sleep_stops_accelerometer_iff (evs : List (HubEnv × HubEvent)) (e : HubEnv)
    (hccs : (hubRun evs).sensors.ccs811Ok = true) (hlis : (hubRun evs).sensors.lis3dhOk = true) :
    let bus := (hubRun evs).buses 0
    let stops := reaches (e.wire (hubRun evs).calls) bus addrCcs811 = true ∧ PowersDown (e.wire ((hubRun evs).calls + 1)) bus
    let after := hubStep (hubRun evs) (e, .sensorsSleep)
    after.sensors.lis3dhOk = false ∧ (written addrLis3dh 0x20 after.effects = some [0x00] ↔ stops) ∧
      (written addrLis3dh 0x20 after.effects = some [0x57] ↔ ¬ stops) := by
  have hs := configured_hubRun evs
  generalize hubRun evs = s at hccs hlis hs ⊢
  dsimp only
  have hslept := ccs811_slept e.wire hs.synced hccs
  have hlis' : (s.sleepCcs811 e.wire).sensors.lis3dhOk = true := hslept.lis3dhOk.trans hlis
  have hsleep : hubStep s (e, .sensorsSleep) =
      ((i2cWriteReg e.wire addrLis3dh 0x20 [0x00] (s.sleepCcs811 e.wire)).2.setSensors (Device.mark .lis3dh false)).setSensors
        fun x => { x with hdc1080Ok := false, mlx90614Ok := false } :=
    congrArg (Hub.setSensors fun x => { x with hdc1080Ok := false, mlx90614Ok := false }) (if_pos hlis')
  have hafter : written addrLis3dh 0x20 (hubStep s (e, .sensorsSleep)).effects =
      written addrLis3dh 0x20 (i2cWriteReg e.wire addrLis3dh 0x20 [0x00] (s.sleepCcs811 e.wire)).2.effects := by
    rw [hsleep]
    rfl
  have hheld : written addrLis3dh 0x20 (s.sleepCcs811 e.wire).effects = some [0x57] :=
    hslept.written.trans (hs.holds .lis3dh hlis (0x20, [0x57]) (by decide))
  obtain ⟨hdown, hkept⟩ := written_sleepLis3dh e.wire hslept.synced hslept.last
  rw [hslept.isOpen, hslept.calls, powersDown_congr _ hslept.port] at hdown hkept
  refine ⟨by rw [hsleep]; rfl, ?_⟩
  rw [hafter]
  by_cases hstops : reaches (e.wire s.calls) (s.buses 0) addrCcs811 = true ∧ PowersDown (e.wire (s.calls + 1)) (s.buses 0)
  · rw [hdown hstops]
    exact ⟨iff_of_true rfl hstops, iff_of_false (by decide) (not_not.mpr hstops)⟩
  · rw [hkept hstops, hheld]
    exact ⟨iff_of_false (by decide) hstops, iff_of_true rfl hstops⟩

/-- The gas sensor takes the write that should stop the accelerometer. On a bus that had to be
opened again the accelerometer takes it. -/
theorem sleep_stops_accelerometer_example :
    written addrLis3dh 0x20 (hubStep (hubRun [(twoDevices, .busInit), (twoDevices, .sensorsInit)])
      (twoDevices, .sensorsSleep)).effects = some [0x57] ∧
    written addrLis3dh 0x20 (hubStep (hubRun [(twoDevices, .busInit), (twoDevices, .sensorsInit)])
      ({ twoDevices with wire := fun n => { twoDevices.wire n with bitserialChangeParam := fun _ => false } },
        .sensorsSleep)).effects = some [0x00] :=
  ⟨(sleep_stops_accelerometer_iff [(twoDevices, .busInit), (twoDevices, .sensorsInit)] twoDevices (by decide) (by decide)).2.2.mpr
      fun h => absurd h.2.1 (by decide),
    (sleep_stops_accelerometer_iff [(twoDevices, .busInit), (twoDevices, .sensorsInit)] _ (by decide) (by decide)).2.1.mpr
      ⟨by decide, by decide, Or.inl (by decide)⟩⟩

end SmartHelmet.I2c
