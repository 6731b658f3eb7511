import SmartHelmet.SensorWire

namespace SmartHelmet.I2c

open Firmware (Sensors)

/-- What a device has last acknowledged for one of its registers; a write without a payload
only sets the register pointer. -/
def written (addr reg : UInt8) : List Effect → Option (List UInt8)
  | [] => none
  | e :: log =>
    match e.request with
    | .write (r :: payload) => if e.addr = addr ∧ r = reg ∧ payload ≠ [] then some payload else written addr reg log
    | _ => written addr reg log

def Request.touches (regs : List UInt8) : Request → Prop
  | .write (r :: payload) => payload ≠ [] → r ∈ regs
  | _ => True

theorem written_cons {regs : List UInt8} {e : Effect} (he : e.request.touches regs) {addr reg : UInt8} (hreg : reg ∉ regs)
    (log : List Effect) : written addr reg (e :: log) = written addr reg log := by
  obtain ⟨a, request⟩ := e
  cases request with
  | transfer | read => rfl
  | write tx =>
    cases tx with
    | nil => rfl
    | cons r payload =>
      refine if_neg ?_
      rintro ⟨-, rfl, hpayload⟩
      exact hreg (he hpayload)

theorem written_append {regs : List UInt8} {new : List Effect} (hnew : ∀ e ∈ new, e.request.touches regs)
    {addr reg : UInt8} (hreg : reg ∉ regs) (log : List Effect) :
    written addr reg (new ++ log) = written addr reg log := by
  induction new with
  | nil => rfl
  | cons e new ih =>
    rw [List.cons_append, written_cons (hnew e List.mem_cons_self) hreg, ih fun e' he' => hnew e' (List.mem_cons_of_mem e he')]

abbrev AllSynced (s : Hub) : Prop := ∀ bus, Synced (s.buses bus)

structure Frame (regs : List UInt8) (s s' : Hub) : Prop where
  sensors : s'.sensors = s.sensors
  synced : AllSynced s → AllSynced s'
  effects : ∃ new, s'.effects = new ++ s.effects ∧ ∀ e ∈ new, e.request.touches regs

structure Addressed (addr : UInt8) (s : Hub) : Prop where
  synced : AllSynced s
  last : (s.buses 0).isOpen = true → (s.buses 0).addr7 = addr

namespace Frame

variable {regs regs' : List UInt8} {s s' s'' : Hub}

theorem refl (regs : List UInt8) (s : Hub) : Frame regs s s :=
  ⟨rfl, id, [], rfl, fun _ he => absurd he List.not_mem_nil⟩

theorem trans (h : Frame regs s s') (h' : Frame regs s' s'') : Frame regs s s'' := by
  obtain ⟨new, heffects, hnew⟩ := h.effects
  obtain ⟨new', heffects', hnew'⟩ := h'.effects
  refine ⟨h'.sensors.trans h.sensors, fun hs => h'.synced (h.synced hs), new' ++ new, ?_, fun e he => ?_⟩
  · rw [heffects', heffects, List.append_assoc]
  · exact (List.mem_append.mp he).elim (hnew' e) (hnew e)

theorem mono (hsub : ∀ r ∈ regs, r ∈ regs') (h : Frame regs s s') : Frame regs' s s' := by
  obtain ⟨new, heffects, hnew⟩ := h.effects
  refine ⟨h.sensors, h.synced, new, heffects, fun e he => ?_⟩
  have htouches := hnew e he
  obtain ⟨a, request⟩ := e
  cases request with
  | transfer | read => trivial
  | write tx =>
    cases tx with
    | nil => trivial
    | cons r payload => exact fun hpayload => hsub r (htouches hpayload)

theorem written (h : Frame regs s s') (addr : UInt8) {reg : UInt8} (hreg : reg ∉ regs) :
    I2c.written addr reg s'.effects = I2c.written addr reg s.effects := by
  obtain ⟨new, heffects, hnew⟩ := h.effects
  rw [heffects, written_append hnew hreg]

end Frame

section Transfer

variable (w : ℕ → Wire) (s : Hub)

theorem frame_transfer {regs : List UInt8} {c : Call} (htouches : c.request.touches regs) :
    Frame regs s (transfer w c s).2 := by
  refine ⟨rfl, fun hs bus => synced_step hs (w s.calls, .transfer c) bus, _, rfl, fun e he => ?_⟩
  have hrequest : e.request = c.request := by
    unfold effectOf at he
    split at he
    · split at he
      · rw [List.mem_singleton.mp he]
      · exact absurd he List.not_mem_nil
    · exact absurd he List.not_mem_nil
  rw [hrequest]
  exact htouches

structure Call.Sound (c : Call) : Prop where
  bus : c.bus = 0
  tx : c.txLen ≠ 0 → c.tx ≠ none
  rx : c.rxLen ≠ 0 → c.hasRx = true
  len : ¬ (c.txLen = 0 ∧ c.rxLen = 0)

theorem valid_of_open {c : Call} (hc : c.Sound) (hopen : (s.buses 0).isOpen = true) : Valid s.buses c := by
  refine ⟨?_, ?_, hc.tx, hc.rx, hc.len⟩
  · rw [hc.bus]
    decide
  · rw [hc.bus]
    exact hopen

theorem transferOn_last (w : Wire) (c : Call) {st : BusState} (hs : Synced st) (hopen : st.isOpen = true) :
    (transferOn w c st).2.isOpen = true → (transferOn w c st).2.addr7 = c.addr7 := by
  have hcases := setAddr_cases w hs hopen c.addr7
  generalize hset : shI2cSetAddr w st c.addr7 = set at hcases
  cases hcases with
  | same heq =>
    obtain ⟨-, -, haddr⟩ := transferOn_carried w c hset (heq ▸ hs hopen)
    exact fun _ => haddr.trans heq
  | changed hne _ => exact fun _ => (transferOn_changed w c hne hset).2.2
  | reopened _ _ haddr hhandle => exact fun _ => (transferOn_carried w c hset hhandle).2.2.trans haddr
  | @closed _ st' hclosed =>
    have hdone : transferOn w c st = (⟨false, none⟩, st') := by
      unfold transferOn
      rw [hset]
      rfl
    rw [hdone]
    exact fun h => absurd (hclosed.symm.trans h) Bool.false_ne_true

theorem addressed_transfer {c : Call} (hc : c.Sound) (hs : AllSynced s) : Addressed c.addr7 (transfer w c s).2 := by
  refine ⟨fun bus => synced_step hs (w s.calls, .transfer c) bus, ?_⟩
  change ((i2cTransfer (w s.calls) c s.buses).2 0).isOpen = true → ((i2cTransfer (w s.calls) c s.buses).2 0).addr7 = c.addr7
  by_cases hv : Valid s.buses c
  · rw [transfer_valid (w s.calls) hv, hc.bus]
    dsimp only
    rw [Function.update_self]
    exact transferOn_last (w s.calls) c (hs 0) (hc.bus ▸ hv.2.1)
  · rw [(transfer_invalid (w s.calls) hv).1]
    exact fun hopen => absurd (valid_of_open s hc hopen) hv

theorem effects_transfer {c : Call} (hc : c.Sound) (hs : Addressed c.addr7 s) (hok : (transfer w c s).1.isSome = true) :
    (transfer w c s).2.effects = ⟨c.addr7, c.request⟩ :: s.effects := by
  have hdone : (i2cTransfer (w s.calls) c s.buses).1.ok = true := by
    by_contra hfail
    unfold transfer at hok
    dsimp only at hok
    rw [if_neg hfail] at hok
    exact absurd hok nofun
  have htalked : TalkedTo (w s.calls) s.buses c := by
    rw [talkedTo_iff (w s.calls) hs.synced]
    rintro ⟨hv, hne, -⟩
    rw [hc.bus] at hne
    exact hne (hs.last (hc.bus ▸ hv.2.1))
  obtain hlen | ⟨cycle, hcycle, haddr, hsucc⟩ := htalked hdone
  · exact absurd hlen hc.len
  · unfold transfer effectOf
    dsimp only
    rw [hcycle]
    dsimp only
    rw [if_pos hsucc, haddr]
    rfl

end Transfer

section Registers

variable (w : ℕ → Wire) (s : Hub)

theorem sound_transfer (addr7 reg : UInt8) (rxLen : ℕ) : Call.Sound ⟨0, addr7, some [reg], 1, true, rxLen⟩ :=
  ⟨rfl, nofun, fun _ => rfl, fun h => absurd h.1 Nat.one_ne_zero⟩

theorem frame_readReg (addr7 reg : UInt8) {rxLen : ℕ} (hlen : rxLen ≠ 0) : Frame [] s (i2cReadReg w addr7 reg rxLen s).2 := by
  refine frame_transfer w s ?_
  unfold Call.request
  rw [if_pos ⟨Nat.one_ne_zero, hlen⟩]
  trivial

theorem frame_read (addr7 : UInt8) (rxLen : ℕ) : Frame [] s (i2cRead w addr7 rxLen s).2 := by
  refine frame_transfer w s ?_
  unfold Call.request
  rw [if_neg fun h => h.1 rfl, if_neg fun h => h rfl]
  trivial

theorem frame_write (addr7 reg : UInt8) : Frame [] s (i2cWrite w addr7 [reg] s).2 := frame_transfer w s fun h => absurd rfl h

theorem request_writeReg (addr7 reg : UInt8) (tx : List UInt8) :
    Call.request ⟨0, addr7, some (reg :: tx), 1 + tx.length, false, 0⟩ = .write (reg :: tx) := by
  have hall : (reg :: tx).take (1 + tx.length) = reg :: tx := by
    rw [Nat.add_comm, ← List.length_cons (a := reg), List.take_length]
  unfold Call.request
  rw [if_neg fun h => h.2 rfl, if_pos (show 1 + tx.length ≠ 0 by omega)]
  exact congrArg Request.write hall

variable {addr7 reg : UInt8} {tx : List UInt8}

theorem writeReg_eq (hlen : tx.length ≤ 16) :
    i2cWriteReg w addr7 reg tx s = transfer w ⟨0, addr7, some (reg :: tx), 1 + tx.length, false, 0⟩ s :=
  if_neg (not_lt.mpr hlen)

theorem sound_writeReg (addr7 reg : UInt8) (tx : List UInt8) :
    Call.Sound ⟨0, addr7, some (reg :: tx), 1 + tx.length, false, 0⟩ :=
  ⟨rfl, nofun, fun h => absurd rfl h, fun h => absurd h.1 (by dsimp only; omega)⟩

theorem frame_writeReg {regs : List UInt8} (hlen : tx.length ≤ 16) (hreg : tx ≠ [] → reg ∈ regs) :
    Frame regs s (i2cWriteReg w addr7 reg tx s).2 := by
  rw [writeReg_eq w s hlen]
  refine frame_transfer w s ?_
  rw [request_writeReg]
  exact hreg

theorem addressed_writeReg (hlen : tx.length ≤ 16) (hs : AllSynced s) :
    Addressed addr7 (i2cWriteReg w addr7 reg tx s).2 := by
  rw [writeReg_eq w s hlen]
  exact addressed_transfer w s (sound_writeReg addr7 reg tx) hs

theorem written_writeReg (hlen : tx.length ≤ 16) (htx : tx ≠ []) (hs : Addressed addr7 s)
    (hok : (i2cWriteReg w addr7 reg tx s).1.isSome = true) :
    written addr7 reg (i2cWriteReg w addr7 reg tx s).2.effects = some tx := by
  rw [writeReg_eq w s hlen] at hok ⊢
  rw [effects_transfer w s (sound_writeReg addr7 reg tx) hs hok, request_writeReg]
  exact if_pos ⟨rfl, rfl, htx⟩

end Registers

section Probes

variable (w : ℕ → Wire) (s : Hub)

theorem frame_probeCcs811 : Frame [] s (shProbeCcs811 w s).2 := frame_readReg w s addrCcs811 0x20 Nat.one_ne_zero

theorem addressed_probeCcs811 (hs : AllSynced s) : Addressed addrCcs811 (shProbeCcs811 w s).2 :=
  addressed_transfer w s (sound_transfer addrCcs811 0x20 1) hs

theorem frame_probeLis3dh : Frame [] s (shProbeLis3dh w s).2 := frame_readReg w s addrLis3dh 0x0F Nat.one_ne_zero

theorem addressed_probeLis3dh (hs : AllSynced s) : Addressed addrLis3dh (shProbeLis3dh w s).2 :=
  addressed_transfer w s (sound_transfer addrLis3dh 0x0F 1) hs

theorem frame_hdcReadU16 (reg : UInt8) : Frame [] s (shHdcReadU16 w reg s).2 := by
  have hpointed := frame_write w s addrHdc1080 reg
  have hfirst := hpointed.trans (frame_read w _ addrHdc1080 2)
  have hsecond := hfirst.trans (frame_read w _ addrHdc1080 2)
  unfold shHdcReadU16
  dsimp only
  split
  · exact hpointed
  · split
    · exact hfirst
    · exact hsecond

theorem sound_write (addr7 reg : UInt8) : Call.Sound ⟨0, addr7, some [reg], [reg].length, false, 0⟩ :=
  ⟨rfl, nofun, fun h => absurd rfl h, fun h => absurd h.1 Nat.one_ne_zero⟩

theorem sound_read (addr7 : UInt8) {rxLen : ℕ} (hlen : rxLen ≠ 0) : Call.Sound ⟨0, addr7, none, 0, true, rxLen⟩ :=
  ⟨rfl, fun h => absurd rfl h, fun _ => rfl, fun h => hlen h.2⟩

theorem addressed_hdcReadU16 (reg : UInt8) (hs : AllSynced s) : Addressed addrHdc1080 (shHdcReadU16 w reg s).2 := by
  have hpointed : Addressed addrHdc1080 (i2cWrite w addrHdc1080 [reg] s).2 :=
    addressed_transfer w s (sound_write addrHdc1080 reg) hs
  have hread : ∀ s : Hub, Addressed addrHdc1080 s → Addressed addrHdc1080 (i2cRead w addrHdc1080 2 s).2 := fun s hs =>
    addressed_transfer w s (sound_read addrHdc1080 two_ne_zero) hs.synced
  have hfirst := hread _ hpointed
  have hsecond := hread _ hfirst
  unfold shHdcReadU16
  dsimp only
  split
  · exact hpointed
  · split
    · exact hfirst
    · exact hsecond

theorem frame_probeHdc1080 : Frame [] s (shProbeHdc1080 w s).2 :=
  (frame_hdcReadU16 w s 0xFE).trans (frame_hdcReadU16 w _ 0xFF)

theorem addressed_probeHdc1080 (hs : AllSynced s) : Addressed addrHdc1080 (shProbeHdc1080 w s).2 :=
  addressed_hdcReadU16 w _ 0xFF ((frame_hdcReadU16 w s 0xFE).synced hs)

theorem frame_mlxRaw (ramAddr : UInt8) : Frame [] s (mlxRaw w ramAddr s).2 := by
  refine frame_transfer w s ?_
  unfold Call.request
  rw [if_pos ⟨Nat.one_ne_zero, three_ne_zero⟩]
  trivial

end Probes

section Starts

variable (w : ℕ → Wire) (s : Hub)

theorem frame_initCcs811 : Frame [0x01] s (shInitCcs811 w s).2 :=
  (frame_writeReg w s (by decide) (fun h => absurd rfl h)).trans
    (frame_writeReg w _ (by decide) fun _ => List.mem_cons_self)

theorem written_initCcs811 (hs : Addressed addrCcs811 s) (hok : (shInitCcs811 w s).1 = true) :
    written addrCcs811 0x01 (shInitCcs811 w s).2.effects = some [0x10] :=
  written_writeReg w _ (by decide) (by decide) (addressed_writeReg w s (by decide) hs.synced) hok

theorem frame_initHdc1080 : Frame [0x02] s (shInitHdc1080 w s).2 :=
  frame_writeReg w s (by decide) fun _ => List.mem_cons_self

theorem written_initHdc1080 (hs : Addressed addrHdc1080 s) (hok : (shInitHdc1080 w s).1 = true) :
    written addrHdc1080 0x02 (shInitHdc1080 w s).2.effects = some [0x10, 0x00] :=
  written_writeReg w s (by decide) (by decide) hs hok

theorem frame_initLis3dh : Frame [0x23, 0x20] s (shInitLis3dh w s).2 := by
  have hctrl4 : Frame [0x23, 0x20] s (i2cWriteReg w addrLis3dh 0x23 [0x80] s).2 :=
    frame_writeReg w s (by decide) fun _ => by decide
  unfold shInitLis3dh
  dsimp only
  split
  · exact hctrl4
  · exact hctrl4.trans (frame_writeReg w _ (by decide) fun _ => by decide)

theorem written_initLis3dh (hs : Addressed addrLis3dh s) (hok : (shInitLis3dh w s).1 = true) :
    written addrLis3dh 0x23 (shInitLis3dh w s).2.effects = some [0x80] ∧
      written addrLis3dh 0x20 (shInitLis3dh w s).2.effects = some [0x57] := by
  have haddressed : Addressed addrLis3dh (i2cWriteReg w addrLis3dh 0x23 [0x80] s).2 :=
    addressed_writeReg w s (by decide) hs.synced
  unfold shInitLis3dh at hok ⊢
  dsimp only at hok ⊢
  split at hok
  · exact absurd hok nofun
  · rename_i hctrl4
    rw [if_neg hctrl4]
    have hframe : Frame [0x20] _ (i2cWriteReg w addrLis3dh 0x20 [0x57] (i2cWriteReg w addrLis3dh 0x23 [0x80] s).2).2 :=
      frame_writeReg w _ (by decide) fun _ => List.mem_cons_self
    constructor
    · rw [hframe.written addrLis3dh (by decide)]
      refine written_writeReg w s (by decide) (by decide) hs ?_
      cases hsome : (i2cWriteReg w addrLis3dh 0x23 [0x80] s).1 with
      | none =>
        rw [hsome] at hctrl4
        exact absurd rfl hctrl4
      | some rx => rfl
    · exact written_writeReg w _ (by decide) (by decide) haddressed hok

end Starts

def Device.addr : Device → UInt8
  | .ccs811 => addrCcs811
  | .hdc1080 => addrHdc1080
  | .lis3dh => addrLis3dh

/-- The registers that a driver writes, with what it writes: one measurement a second; both
measurements at 14 bits; block update at 2 g, and 100 Hz on all axes. -/
def Device.config : Device → List (UInt8 × List UInt8)
  | .ccs811 => [(0x01, [0x10])]
  | .hdc1080 => [(0x02, [0x10, 0x00])]
  | .lis3dh => [(0x23, [0x80]), (0x20, [0x57])]

def Device.registers (device : Device) : List UInt8 := device.config.map Prod.fst

def Device.Holds (device : Device) (s : Hub) : Prop :=
  ∀ c ∈ device.config, written device.addr c.1 s.effects = some c.2

/-- The devices that are flagged as found hold their configuration. -/
structure Configured (s : Hub) : Prop where
  synced : AllSynced s
  holds : ∀ device : Device, device.found s.sensors = true → device.Holds s

section Keeping

variable {s s' : Hub} {device device' : Device}

theorem registers_disjoint (hne : device' ≠ device) : ∀ c ∈ device'.config, c.1 ∉ device.registers := by
  cases device <;> cases device' <;> first | exact absurd rfl hne | decide

theorem found_mark (hne : device' ≠ device) (ok : Bool) (x : Sensors) :
    device'.found (device.mark ok x) = device'.found x := by
  cases device <;> cases device' <;> first | exact absurd rfl hne | rfl

theorem found_mark_self (ok : Bool) (x : Sensors) : device.found (device.mark ok x) = ok := by
  cases device <;> rfl

theorem found_accel (x : Sensors) (a b c : Int16) : device.found { x with x := a, y := b, z := c } = device.found x := by
  cases device <;> rfl

theorem Configured.frame (hs : Configured s) (hf : Frame [] s s') : Configured s' := by
  refine ⟨hf.synced hs.synced, fun device hfound c hc => ?_⟩
  rw [hf.sensors] at hfound
  rw [hf.written _ List.not_mem_nil]
  exact hs.holds device hfound c hc

theorem Configured.setSensors (hs : Configured s) (f : Sensors → Sensors)
    (hf : ∀ device : Device, device.found (f s.sensors) = true → device.found s.sensors = true) :
    Configured (s.setSensors f) := ⟨hs.synced, fun device hfound => hs.holds device (hf device hfound)⟩

theorem Configured.mark (hs : Configured s) (hf : Frame device.registers s s') {ok : Bool}
    (hok : ok = true → device.Holds s') : Configured (s'.setSensors (device.mark ok)) := by
  refine ⟨hf.synced hs.synced, fun device' hfound => ?_⟩
  change device'.found (device.mark ok s'.sensors) = true at hfound
  by_cases hsame : device' = device
  · subst hsame
    rw [found_mark_self] at hfound
    exact hok hfound
  · rw [found_mark hsame, hf.sensors] at hfound
    intro c hc
    change written device'.addr c.1 s'.effects = some c.2
    rw [hf.written _ (registers_disjoint hsame c hc)]
    exact hs.holds device' hfound c hc

theorem configured_bringUpDevice {probe init : Hub → Bool × Hub} (hs : Configured s) (hprobe : Frame [] s (probe s).2)
    (hinit : Frame device.registers (probe s).2 (init (probe s).2).2)
    (hholds : (init (probe s).2).1 = true → device.Holds (init (probe s).2).2) :
    Configured (s.bringUpDevice device probe init) := by
  unfold Hub.bringUpDevice
  dsimp only
  split
  · exact hs
  · split
    · exact (hs.frame hprobe).mark hinit hholds
    · exact hs.frame hprobe

end Keeping

section Events

variable (w : ℕ → Wire) {s : Hub} (hs : Configured s)
include hs

theorem configured_bringUpCcs811 : Configured (s.bringUpCcs811 w) := by
  have haddressed := addressed_probeCcs811 w s hs.synced
  refine configured_bringUpDevice hs (frame_probeCcs811 w s) (frame_initCcs811 w _) fun hok c hc => ?_
  rw [List.mem_singleton.mp hc]
  exact written_initCcs811 w _ haddressed hok

theorem configured_bringUpHdc1080 : Configured (s.bringUpHdc1080 w) := by
  have haddressed := addressed_probeHdc1080 w s hs.synced
  refine configured_bringUpDevice hs (frame_probeHdc1080 w s) (frame_initHdc1080 w _) fun hok c hc => ?_
  rw [List.mem_singleton.mp hc]
  exact written_initHdc1080 w _ haddressed hok

theorem configured_bringUpLis3dh : Configured (s.bringUpLis3dh w) := by
  have haddressed := addressed_probeLis3dh w s hs.synced
  refine configured_bringUpDevice hs (frame_probeLis3dh w s) (frame_initLis3dh w _) fun hok c hc => ?_
  obtain ⟨hctrl4, hctrl1⟩ := written_initLis3dh w _ haddressed hok
  obtain rfl | hc := List.mem_cons.mp hc
  · exact hctrl4
  · rw [List.mem_singleton.mp hc]
    exact hctrl1

theorem configured_bringUpMlx90614 : Configured (s.bringUpMlx90614 w) := by
  unfold Hub.bringUpMlx90614
  dsimp only
  split
  · exact hs
  · refine (hs.frame (frame_mlxRaw w s 0x06)).setSensors _ fun device => ?_
    cases Firmware.shReadMlx90614 (mlxRaw w 0x06 s).1 <;> cases device <;> exact id

theorem configured_bringUp (ssd : Bool) : Configured (s.bringUp w ssd) := by
  have hccs := configured_bringUpCcs811 w hs
  have hhdc := configured_bringUpHdc1080 w hccs
  have hlis := configured_bringUpLis3dh w hhdc
  unfold Hub.bringUp Hub.bringUpSsd1315
  refine (configured_bringUpMlx90614 w hlis).setSensors _ fun device => ?_
  cases device <;> exact id

theorem configured_sensorsInit (ssd : Bool) : Configured (s.sensorsInit w ssd) := by
  refine configured_bringUp w (hs.setSensors _ fun device hfound => ?_) ssd
  cases device <;> exact absurd hfound nofun

theorem configured_verifyPass (ssd : Bool) : Configured (s.shSensorsVerifyPass w ssd) := by
  refine configured_bringUp w (hs.setSensors _ fun device => ?_) ssd
  cases device <;> exact id

theorem configured_sensorsSleep : Configured (s.sensorsSleep w) := by
  have hccs : Configured (s.sleepCcs811 w) := by
    unfold Hub.sleepCcs811
    split
    · exact hs.mark (frame_writeReg w s (by decide) fun _ => by decide) nofun
    · exact hs
  have hlis : Configured ((s.sleepCcs811 w).sleepLis3dh w) := by
    unfold Hub.sleepLis3dh
    split
    · exact hccs.mark (frame_writeReg w _ (by decide) fun _ => by decide) nofun
    · exact hccs
  refine hlis.setSensors _ fun device hfound => ?_
  cases device
  · exact hfound
  · exact absurd hfound nofun
  · exact hfound

theorem configured_pollCcs811 : Configured (s.pollCcs811 w) := by
  have hstatus := frame_readReg w s addrCcs811 0x00 Nat.one_ne_zero
  have hresult := hstatus.trans (frame_readReg w _ addrCcs811 0x02 (show 4 ≠ 0 by decide))
  unfold Hub.pollCcs811
  dsimp only
  split
  · split
    · refine (hs.frame hresult).setSensors _ fun device => ?_
      split <;> cases device <;> exact id
    · exact hs.frame hstatus
  · exact hs

theorem configured_pollLis3dh : Configured (s.sensorsPollLis3dh w) := by
  unfold Hub.sensorsPollLis3dh
  dsimp only
  split
  · refine (hs.frame (frame_readReg w s addrLis3dh 0xA8 (by decide))).setSensors _ fun device => ?_
    split
    · rw [found_accel]
      exact id
    · exact id
  · exact hs

theorem configured_pollHdc1080 : Configured (s.pollHdc1080 w) := by
  have hpointed := frame_write w s addrHdc1080 0x00
  have hfirst := hpointed.trans (frame_read w _ addrHdc1080 4)
  have hsecond := hfirst.trans (frame_read w _ addrHdc1080 4)
  unfold Hub.pollHdc1080
  dsimp only
  split
  · split
    · exact hs.frame hpointed
    · split
      · exact hs.frame hfirst
      · refine (hs.frame hsecond).setSensors _ fun device => ?_
        cases device <;> exact id
  · exact hs

theorem configured_pollMlx90614 : Configured (s.pollMlx90614 w) := by
  unfold Hub.pollMlx90614
  dsimp only
  split
  · refine (hs.frame ((frame_mlxRaw w s 0x06).trans (frame_mlxRaw w _ 0x07))).setSensors _ fun device => ?_
    cases device <;> exact id
  · exact hs

theorem configured_sensorsPoll : Configured (s.sensorsPoll w) :=
  configured_pollMlx90614 w (configured_pollHdc1080 w (configured_pollLis3dh w (configured_pollCcs811 w hs)))

theorem configured_logSample : Configured (s.shLis3dhLogSample w) := by
  have hid := frame_readReg w s addrLis3dh 0x0F Nat.one_ne_zero
  have hout := hid.trans (frame_readReg w _ addrLis3dh 0xA8 (show 6 ≠ 0 by decide))
  unfold Hub.shLis3dhLogSample
  dsimp only
  refine (hs.frame hout).setSensors _ fun device => ?_
  split
  · rw [found_accel]
    exact id
  · exact id

theorem configured_hubStep (ev : HubEnv × HubEvent) : Configured (hubStep s ev) := by
  obtain ⟨e, ev⟩ := ev
  cases ev with
  | busInit => exact ⟨synced_step hs.synced (e.wire s.calls, .init), hs.holds⟩
  | busClose => exact ⟨synced_step hs.synced (e.wire s.calls, .close), hs.holds⟩
  | sensorsInit => exact configured_sensorsInit e.wire hs e.ssd
  | verifyPass => exact configured_verifyPass e.wire hs e.ssd
  | sensorsSleep => exact configured_sensorsSleep e.wire hs
  | sensorsPoll => exact configured_sensorsPoll e.wire hs
  | pollLis3dh => exact configured_pollLis3dh e.wire hs
  | logSample => exact configured_logSample e.wire hs

end Events

theorem configured_hubRun (evs : List (HubEnv × HubEvent)) : Configured (hubRun evs) := by
  induction evs using List.reverseRecOn with
  | nil =>
    refine ⟨fun bus hopen => absurd hopen Bool.false_ne_true, fun device hfound => ?_⟩
    cases device <;> exact absurd hfound nofun
  | append_singleton evs ev ih =>
    rw [hubRun, List.foldl_append, List.foldl_cons, List.foldl_nil]
    exact configured_hubStep ih ev

/-- In every run of the drivers over any wire, a device that is flagged as found holds the
configuration of its driver: what it acknowledged last for these registers is what the driver
writes, although a write may land on the device addressed before. -/
theorem found_devices_configured (evs : List (HubEnv × HubEvent)) (device : Device)
    (hfound : device.found (hubRun evs).sensors = true) :
    ∀ c ∈ device.config, written device.addr c.1 (hubRun evs).effects = some c.2 :=
  (configured_hubRun evs).holds device hfound

def twoDevices : HubEnv where
  wire := fun _ => {
    present := fun addr => addr == addrCcs811 || addr == addrLis3dh
    answer := fun _ addr _ => ⟨.success, [if addr == addrCcs811 then 0x81 else 0x33]⟩
    unmapPins := fun _ => true
    pioSetFunction := fun _ _ => true
    bitserialOpen := fun _ _ _ => true
    bitserialChangeParam := fun _ => true }
  ssd := true

theorem found_devices_example :
    written addrLis3dh 0x20 (hubRun [(twoDevices, .busInit), (twoDevices, .sensorsInit)]).effects = some [0x57] :=
  found_devices_configured [(twoDevices, .busInit), (twoDevices, .sensorsInit)] .lis3dh (by decide) (0x20, [0x57])
    (by decide)

end SmartHelmet.I2c
