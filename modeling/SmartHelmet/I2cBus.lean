import Mathlib

/-!
The dual I2C master of `smart_helmet_i2c.c` over the Bitserial blocks. A block keeps the
address it was given last and the address that its next cycle carries: a change of the
address on an open handle reaches the wire one cycle late.
-/

namespace SmartHelmet.I2c

inductive BitserialResult
  | success
  | i2cNack
  | failed
  deriving DecidableEq

inductive Block
  | block0
  | block1
  deriving DecidableEq

inductive PinFunction
  | clockOut (b : Block)
  | clockIn (b : Block)
  | dataOut (b : Block)
  | dataIn (b : Block)
  deriving DecidableEq

inductive Request
  | transfer (tx : List UInt8) (rxLen : ℕ)
  | write (tx : List UInt8)
  | read (rxLen : ℕ)

structure Answer where
  result : BitserialResult
  rx : List UInt8

/-- The devices on the wire and what the pads and the Bitserial library return during one
call. A present device answers the `n`-th cycle of the call as it likes. -/
structure Wire where
  present : UInt8 → Bool
  answer : ℕ → UInt8 → Request → Answer
  unmapPins : ℕ → Bool
  pioSetFunction : ℕ → PinFunction → Bool
  bitserialOpen : Block → ℕ → UInt8 → Bool
  bitserialChangeParam : UInt8 → Bool

def Wire.reply (w : Wire) (n : ℕ) (addr : UInt8) (r : Request) : Answer :=
  if w.present addr then w.answer n addr r else ⟨.i2cNack, []⟩

structure Bitserial where
  programmed : UInt8
  carried : UInt8

structure Cycle where
  addr : UInt8
  answer : Answer

def Bitserial.cycle (w : Wire) (n : ℕ) (r : Request) (b : Bitserial) : Cycle × Bitserial :=
  (⟨b.carried, w.reply n b.carried r⟩, { b with carried := b.programmed })

/-- `sh_i2c_bus_state_t`; no handle is `BITSERIAL_HANDLE_ERROR`. -/
structure BusState where
  handle : Option Bitserial
  block : Block
  scl : ℕ
  sda : ℕ
  speedKhz : ℕ
  addr7 : UInt8
  isOpen : Bool
  addrReady : Bool

abbrev busCount : ℕ := 2

abbrev Buses : Type := ℕ → BusState

def Buses.boot : Buses := fun _ => ⟨none, .block0, 0, 0, 0, 0, false, false⟩

def shI2cConfigurePios (w : Wire) (scl sda : ℕ) (block : Block) : Bool :=
  w.unmapPins scl && w.unmapPins sda &&
    w.pioSetFunction scl (.clockOut block) && w.pioSetFunction scl (.clockIn block) &&
    w.pioSetFunction sda (.dataOut block) && w.pioSetFunction sda (.dataIn block)

def shI2cOpenHandle (w : Wire) (st : BusState) (addr7 : UInt8) : Bool × BusState :=
  if w.bitserialOpen st.block st.speedKhz addr7 then
    (true, { st with handle := some ⟨addr7, addr7⟩, addr7 := addr7, isOpen := true })
  else (false, { st with handle := none, isOpen := false })

def shI2cChangeAddr (w : Wire) (st : BusState) (addr7 : UInt8) : Bool × BusState :=
  if w.bitserialChangeParam addr7 then
    (true, { st with handle := st.handle.map fun b => { b with programmed := addr7 } })
  else (false, st)

def shI2cSetAddr (w : Wire) (st : BusState) (addr7 : UInt8) : Bool × BusState :=
  if ¬ st.isOpen then (false, st)
  else if st.addr7 = addr7 then (true, st)
  else
    let changed := shI2cChangeAddr w st addr7
    if changed.1 then (true, { changed.2 with addr7 := addr7, addrReady := false })
    else
      let closed := { st with handle := none, isOpen := false, addr7 := 0, addrReady := false }
      if ¬ shI2cConfigurePios w closed.scl closed.sda closed.block then (false, closed)
      else
        let opened := shI2cOpenHandle w closed addr7
        if opened.1 then (true, { opened.2 with addrReady := false }) else opened

def shI2cOpenBus (w : Wire) (st : BusState) (block : Block) (scl sda speedKhz : ℕ) : Bool × BusState :=
  if st.isOpen then (true, st)
  else
    let st := { st with
      block := block
      scl := scl
      sda := sda
      speedKhz := speedKhz
      addr7 := 0
      handle := none }
    if ¬ shI2cConfigurePios w scl sda block then (false, st) else shI2cOpenHandle w st 0

def i2cInit (w : Wire) (s : Buses) : Bool × Buses :=
  let bus0 := shI2cOpenBus w (s 0) .block0 20 19 100
  let bus1 := shI2cOpenBus w (s 1) .block1 16 15 100
  (bus1.1 && bus0.1, Function.update (Function.update s 0 bus0.2) 1 bus1.2)

def closeBus (st : BusState) : BusState :=
  if st.isOpen ∧ st.handle.isSome then { st with handle := none, isOpen := false, addr7 := 0 } else st

def i2cClose (s : Buses) : Buses := fun i => if i < busCount then closeBus (s i) else s i

structure Call where
  bus : ℕ
  addr7 : UInt8
  tx : Option (List UInt8)
  txLen : ℕ
  hasRx : Bool
  rxLen : ℕ

def Call.request (c : Call) : Request :=
  let tx := (c.tx.getD []).take c.txLen
  if c.txLen ≠ 0 ∧ c.rxLen ≠ 0 then .transfer tx c.rxLen
  else if c.txLen ≠ 0 then .write tx
  else .read c.rxLen

/-- What a transfer returns; `cycle` is the one whose result and bytes reach the caller. -/
structure Outcome where
  ok : Bool
  cycle : Option Cycle

def Outcome.result (cycle : Option Cycle) : BitserialResult :=
  match cycle with
  | some c => c.answer.result
  | none => .failed

def shI2cRunXfer (w : Wire) (n : ℕ) (r : Request) (st : BusState) : Option Cycle × BusState :=
  match st.handle with
  | some b => (some (b.cycle w n r).1, { st with handle := some (b.cycle w n r).2 })
  | none => (none, st)

def transferOn (w : Wire) (c : Call) (st : BusState) : Outcome × BusState :=
  let set := shI2cSetAddr w st c.addr7
  if ¬ set.1 then (⟨false, none⟩, set.2)
  else
    let switched := st.addr7 ≠ c.addr7
    let first := shI2cRunXfer w 0 c.request set.2
    let last := if Outcome.result first.1 = .i2cNack ∧ (switched ∨ ¬ first.2.addrReady) then
        -- the first cycle is taken for the one that still carries the previous address
        shI2cRunXfer w 1 c.request first.2
      else first
    (⟨decide (Outcome.result last.1 = .success), last.1⟩, { last.2 with addrReady := true })

def i2cTransfer (w : Wire) (c : Call) (s : Buses) : Outcome × Buses :=
  if c.bus ≥ busCount ∨ ¬ (s c.bus).isOpen then (⟨false, none⟩, s)
  else if c.txLen ≠ 0 ∧ c.tx = none then (⟨false, none⟩, s)
  else if c.rxLen ≠ 0 ∧ ¬ c.hasRx then (⟨false, none⟩, s)
  else if c.txLen = 0 ∧ c.rxLen = 0 then (⟨true, none⟩, s)
  else
    let done := transferOn w c (s c.bus)
    (done.1, Function.update s c.bus done.2)

inductive Event
  | init
  | close
  | transfer (c : Call)

def step (s : Buses) (ev : Wire × Event) : Buses :=
  match ev.2 with
  | .init => (i2cInit ev.1 s).2
  | .close => i2cClose s
  | .transfer c => (i2cTransfer ev.1 c s).2

def run (evs : List (Wire × Event)) : Buses := evs.foldl step Buses.boot

end SmartHelmet.I2c
