import SmartHelmet.Attempts
import SmartHelmet.KeywordSearch

/-!
The SSD1315 panel and the functions of `smart_helmet_sensors.c` that draw on it. The panel is its
display memory of 8 pages by 128 columns with the page and column that data goes to. Any write
on the bus may fail, after any number of its bytes.
-/

namespace SmartHelmet.Oled

open Attempt Firmware

abbrev width : ℕ := 128

structure Panel where
  ram : ℕ → ℕ → UInt8
  page : ℕ
  col : ℕ

inductive Command where
  | page (n : ℕ)
  | colLow (n : ℕ)
  | colHigh (n : ℕ)
  | other
  deriving DecidableEq

def decode (c : UInt8) : Command :=
  if 0xb0 ≤ c ∧ c ≤ 0xb7 then .page (c.toNat % 8)
  else if c < 0x10 then .colLow c.toNat
  else if c < 0x20 then .colHigh (c.toNat % 16)
  else .other

def takesArgument (c : UInt8) : Bool :=
  decide (c ∈ [0x20, 0x81, 0x8d, 0xa8, 0xd3, 0xd5, 0xd9, 0xda, 0xdb])

namespace Panel

def command (c : UInt8) (p : Panel) : Panel :=
  match decode c with
  | .page n => { p with page := n }
  | .colLow n => { p with col := p.col / 16 * 16 + n }
  | .colHigh n => { p with col := n * 16 + p.col % 16 }
  | .other => p

def commands : List UInt8 → Panel → Panel
  | [], p => p
  | [c], p => p.command c
  | c :: a :: rest, p => if takesArgument c then commands rest p else commands (a :: rest) (p.command c)

def put (p : Panel) (b : UInt8) : Panel :=
  { p with
    ram := Function.update p.ram p.page (Function.update (p.ram p.page) p.col b)
    col := (p.col + 1) % width }

def write (bytes : List UInt8) (p : Panel) : Panel := bytes.foldl put p

def receive : List UInt8 → Panel → Panel
  | [], p => p
  | control :: rest, p =>
    if control = 0x00 then p.commands rest else if control = 0x40 then p.write rest else p

end Panel

structure Bus where
  panel : Panel
  writes : ℕ
  failures : ℕ

/-- `some k` where the write fails after `k` bytes have reached the panel. -/
abbrev Outcomes : Type := ℕ → Option ℕ

section Writes

variable (i2c : Outcomes)

def shSsdRaw (tx : List UInt8) (b : Bus) : Bool × Bus :=
  match i2c b.writes with
  | none => (true, { b with panel := b.panel.receive tx, writes := b.writes + 1 })
  | some k => (false, ⟨b.panel.receive (tx.take k), b.writes + 1, b.failures + 1⟩)

def shSsdCmd (cmd : UInt8) : Bus → Bool × Bus := shSsdRaw i2c [0x00, cmd]

/-- The loop of `shSsdCmdList` and of `shSsdData`: at most 16 bytes a write. -/
def shSsdChunks (control : UInt8) : ℕ → List UInt8 → Bus → Bool × Bus
  | 0, _ => fun b => (true, b)
  | n + 1, bytes =>
    if bytes = [] then fun b => (true, b)
    else andThen (shSsdRaw i2c (control :: bytes.take 16)) (shSsdChunks control n (bytes.drop 16))

def shSsdCmdList (cmds : List UInt8) : Bus → Bool × Bus := shSsdChunks i2c 0x00 cmds.length cmds

def shSsdData (data : List UInt8) : Bus → Bool × Bus := shSsdChunks i2c 0x40 data.length data

def shSsdSetPageCol (page col : UInt8) : Bus → Bool × Bus :=
  shSsdCmdList i2c
    [(0xb0 : UInt8) ||| (page &&& 0x07), (0x00 : UInt8) ||| (col &&& 0x0f), (0x10 : UInt8) ||| ((col >>> 4) &&& 0x0f)]

def zeros : List UInt8 := List.replicate 16 0

def shSsdClearPage (page : UInt8) : Bus → Bool × Bus :=
  andThen (shSsdSetPageCol i2c page 0) (all (List.replicate 8 (shSsdData i2c zeros)))

def shSsdClear : Bus → Bool × Bus := all ([0, 1, 2, 3, 4, 5, 6, 7].map (shSsdClearPage i2c))

end Writes

/-- 5x7 glyphs from the space to `Z`, the top pixel lowest. -/
def shFont5x7 : List (List UInt8) :=
  [[0x00,0x00,0x00,0x00,0x00], [0x00,0x00,0x5F,0x00,0x00], [0x00,0x07,0x00,0x07,0x00],
   [0x14,0x7F,0x14,0x7F,0x14], [0x24,0x2A,0x7F,0x2A,0x12], [0x23,0x13,0x08,0x64,0x62],
   [0x36,0x49,0x55,0x22,0x50], [0x00,0x05,0x03,0x00,0x00], [0x00,0x1C,0x22,0x41,0x00],
   [0x00,0x41,0x22,0x1C,0x00], [0x14,0x08,0x3E,0x08,0x14], [0x08,0x08,0x3E,0x08,0x08],
   [0x00,0x50,0x30,0x00,0x00], [0x08,0x08,0x08,0x08,0x08], [0x00,0x60,0x60,0x00,0x00],
   [0x20,0x10,0x08,0x04,0x02], [0x3E,0x51,0x49,0x45,0x3E], [0x00,0x42,0x7F,0x40,0x00],
   [0x42,0x61,0x51,0x49,0x46], [0x21,0x41,0x45,0x4B,0x31], [0x18,0x14,0x12,0x7F,0x10],
   [0x27,0x45,0x45,0x45,0x39], [0x3C,0x4A,0x49,0x49,0x30], [0x01,0x71,0x09,0x05,0x03],
   [0x36,0x49,0x49,0x49,0x36], [0x06,0x49,0x49,0x29,0x1E], [0x00,0x36,0x36,0x00,0x00],
   [0x00,0x56,0x36,0x00,0x00], [0x08,0x14,0x22,0x41,0x00], [0x14,0x14,0x14,0x14,0x14],
   [0x00,0x41,0x22,0x14,0x08], [0x02,0x01,0x51,0x09,0x06], [0x32,0x49,0x79,0x41,0x3E],
   [0x7E,0x11,0x11,0x11,0x7E], [0x7F,0x49,0x49,0x49,0x36], [0x3E,0x41,0x41,0x41,0x22],
   [0x7F,0x41,0x41,0x22,0x1C], [0x7F,0x49,0x49,0x49,0x41], [0x7F,0x09,0x09,0x09,0x01],
   [0x3E,0x41,0x49,0x49,0x7A], [0x7F,0x08,0x08,0x08,0x7F], [0x00,0x41,0x7F,0x41,0x00],
   [0x20,0x40,0x41,0x3F,0x01], [0x7F,0x08,0x14,0x22,0x41], [0x7F,0x40,0x40,0x40,0x40],
   [0x7F,0x02,0x0C,0x02,0x7F], [0x7F,0x04,0x08,0x10,0x7F], [0x3E,0x41,0x41,0x41,0x3E],
   [0x7F,0x09,0x09,0x09,0x06], [0x3E,0x41,0x51,0x21,0x5E], [0x7F,0x09,0x19,0x29,0x46],
   [0x46,0x49,0x49,0x49,0x31], [0x01,0x01,0x7F,0x01,0x01], [0x3F,0x40,0x40,0x40,0x3F],
   [0x1F,0x20,0x40,0x20,0x1F], [0x3F,0x40,0x38,0x40,0x3F], [0x63,0x14,0x08,0x14,0x63],
   [0x07,0x08,0x70,0x08,0x07], [0x61,0x51,0x49,0x45,0x43]]

def glyph (ch : UInt8) : List UInt8 :=
  let ch := if ch < 0x20 ∨ ch > 0x5a then 0x20 else ch
  shFont5x7.getD (ch - 0x20).toNat []

section Drawing

variable (i2c : Outcomes)

def shSsdDrawText (page col : UInt8) (s : List UInt8) : Bus → Bool × Bus :=
  andThen (shSsdSetPageCol i2c page col)
    (all (s.map fun ch => andThen (shSsdData i2c (glyph ch)) (shSsdData i2c [0])))

def initCmds : List UInt8 :=
  [0xAE, 0xD5, 0x80, 0xA8, 0x3F, 0xD3, 0x00, 0x40, 0x8D, 0x14, 0x20, 0x02, 0xA0, 0xC0, 0xDA, 0x12,
   0x81, 0xCF, 0xD9, 0xF1, 0xDB, 0x40, 0xA4, 0xA6, 0x2E, 0xAF]

def shSsdInitPanel : Bus → Bool × Bus := shSsdCmdList i2c initCmds

def shSsdShowSplash : Bus → Bool × Bus :=
  all [shSsdClear i2c, shSsdDrawText i2c 2 28 (bytes "SMART HELMET"),
    shSsdDrawText i2c 4 40 (bytes "QCC3044"), shSsdDrawText i2c 6 46 (bytes "READY")]

def shProbeSsd1315 : Bus → Bool × Bus := shSsdCmd i2c 0xAE

def shInitSsd1315 : Bus → Bool × Bus := andThen (shSsdInitPanel i2c) (shSsdShowSplash i2c)

end Drawing

end SmartHelmet.Oled
