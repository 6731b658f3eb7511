import SmartHelmet.OledPanel

namespace SmartHelmet.Oled

open Attempt Firmware

namespace Panel

theorem ram_command (c : UInt8) (p : Panel) : (p.command c).ram = p.ram := by
  unfold command
  cases decode c <;> rfl

theorem ram_commands (cmds : List UInt8) (p : Panel) : (p.commands cmds).ram = p.ram := by
  induction cmds, p using commands.induct with
  | case1 p => rfl
  | case2 c p => exact ram_command c p
  | case3 c a rest p harg ih =>
    rw [commands, if_pos harg]
    exact ih
  | case4 c a rest p harg ih =>
    rw [commands, if_neg harg, ih]
    exact ram_command c p

theorem write_append (a b : List UInt8) (p : Panel) : p.write (a ++ b) = (p.write a).write b :=
  List.foldl_append

theorem ram_write_of_ne {q : ℕ} (bytes : List UInt8) {p : Panel} (hq : q ≠ p.page) :
    (p.write bytes).ram q = p.ram q := by
  induction bytes generalizing p with
  | nil => rfl
  | cons b bytes ih =>
    have hput : (p.put b).ram q = p.ram q := Function.update_of_ne hq _ _
    exact (ih (p := p.put b) hq).trans hput

theorem ram_put (p : Panel) (b : UInt8) (c : ℕ) :
    (p.put b).ram p.page c = if c = p.col then b else p.ram p.page c := by
  simp [put, Function.update_apply]

theorem ram_write (bytes : List UInt8) {p : Panel} (hfit : p.col + bytes.length ≤ width) (c : ℕ) :
    (p.write bytes).ram p.page c =
      if p.col ≤ c ∧ c < p.col + bytes.length then bytes.getD (c - p.col) 0 else p.ram p.page c := by
  induction bytes generalizing p with
  | nil =>
    rw [if_neg (by simp)]
    rfl
  | cons b bytes ih =>
    have hstep : (p.write (b :: bytes)).ram p.page c = ((p.put b).write bytes).ram (p.put b).page c := rfl
    rw [hstep]
    rw [List.length_cons] at hfit ⊢
    by_cases hnil : bytes = []
    · subst hnil
      have hput := ram_put p b c
      have hwrite : ((p.put b).write []).ram (p.put b).page c = (p.put b).ram p.page c := rfl
      rw [hwrite, hput]
      by_cases hc : c = p.col
      · subst hc
        rw [if_pos rfl, if_pos (by simp), Nat.sub_self]
        rfl
      · rw [if_neg hc, if_neg]
        simp only [List.length_nil]
        omega
    · have hpos : 0 < bytes.length := List.length_pos_of_ne_nil hnil
      have hcol : (p.put b).col = p.col + 1 := Nat.mod_eq_of_lt (by omega)
      rw [ih (by rw [hcol]; omega), hcol]
      have hpage : (p.put b).page = p.page := rfl
      rw [hpage, ram_put]
      by_cases hc : c = p.col
      · subst hc
        rw [if_neg (by omega), if_pos rfl, if_pos (by omega), Nat.sub_self]
        rfl
      · rw [if_neg hc]
        by_cases hlater : p.col + 1 ≤ c ∧ c < p.col + 1 + bytes.length
        · have hsub : c - p.col = (c - (p.col + 1)) + 1 := by omega
          rw [if_pos hlater, if_pos (by omega), hsub, List.getD_cons_succ]
        · rw [if_neg hlater, if_neg (by omega)]

end Panel

section Commands

variable (i2c : Outcomes)

theorem tallies_raw (tx : List UInt8) : Tallies Bus.failures (shSsdRaw i2c tx) := by
  intro b
  unfold shSsdRaw
  cases i2c b.writes with
  | none => exact ⟨le_rfl, fun h => absurd h.symm Bool.false_ne_true⟩
  | some k => exact ⟨Nat.le_succ _, fun _ => Nat.lt_succ_self _⟩

theorem tallies_chunks (control : UInt8) (n : ℕ) (bytes : List UInt8) :
    Tallies Bus.failures (shSsdChunks i2c control n bytes) := by
  induction n generalizing bytes with
  | zero => exact tallies_done
  | succ n ih =>
    unfold shSsdChunks
    split
    · exact tallies_done
    · exact (tallies_raw i2c _).andThen (ih _)

theorem receive_command (rest : List UInt8) (p : Panel) : p.receive (0x00 :: rest) = p.commands rest := rfl

theorem ram_raw_command (cmds : List UInt8) (b : Bus) :
    (shSsdRaw i2c (0x00 :: cmds) b).2.panel.ram = b.panel.ram := by
  unfold shSsdRaw
  cases i2c b.writes with
  | none => exact Panel.ram_commands cmds b.panel
  | some k =>
    cases k with
    | zero => rfl
    | succ k => exact Panel.ram_commands (cmds.take k) b.panel

theorem ram_cmdChunks (n : ℕ) (cmds : List UInt8) :
    ∀ b, (shSsdChunks i2c 0x00 n cmds b).2.panel.ram = b.panel.ram := by
  induction n generalizing cmds with
  | zero => exact fun _ => rfl
  | succ n ih =>
    unfold shSsdChunks
    split
    · exact fun _ => rfl
    · exact andThen_keeps (R := fun a b : Bus => b.panel.ram = a.panel.ram) (fun _ _ _ h h' => h'.trans h)
        (ram_raw_command i2c _) (ih _)

theorem ram_cmdList (cmds : List UInt8) (b : Bus) : (shSsdCmdList i2c cmds b).2.panel.ram = b.panel.ram :=
  ram_cmdChunks i2c cmds.length cmds b

theorem raw_ok {tx : List UInt8} {b : Bus} (hok : (shSsdRaw i2c tx b).1 = true) :
    (shSsdRaw i2c tx b).2.panel = b.panel.receive tx := by
  unfold shSsdRaw at hok ⊢
  cases hout : i2c b.writes with
  | none => rfl
  | some k =>
    rw [hout] at hok
    exact absurd hok Bool.false_ne_true

theorem chunks_nil (control : UInt8) (n : ℕ) (b : Bus) : shSsdChunks i2c control n [] b = (true, b) := by
  cases n with
  | zero => rfl
  | succ n => rfl

theorem chunks_short (control : UInt8) {bytes : List UInt8} (hne : bytes ≠ []) (hlen : bytes.length ≤ 16) (b : Bus) :
    shSsdChunks i2c control bytes.length bytes b = shSsdRaw i2c (control :: bytes) b := by
  obtain ⟨n, hn⟩ := Nat.exists_eq_succ_of_ne_zero (List.length_pos_of_ne_nil hne).ne'
  rw [hn, shSsdChunks, if_neg hne, List.take_of_length_le hlen, List.drop_of_length_le hlen]
  cases hok : (shSsdRaw i2c (control :: bytes) b).1 with
  | true =>
    rw [andThen_of_ok hok, chunks_nil, ← hok]
  | false => rw [andThen_of_fail hok]

theorem decode_page : ∀ page < 8, decode ((0xb0 : UInt8) ||| (UInt8.ofNat page &&& 0x07)) = .page page ∧
    takesArgument ((0xb0 : UInt8) ||| (UInt8.ofNat page &&& 0x07)) = false := by decide

theorem decode_colLow : ∀ col < 128, decode ((0x00 : UInt8) ||| (UInt8.ofNat col &&& 0x0f)) = .colLow (col % 16) ∧
    takesArgument ((0x00 : UInt8) ||| (UInt8.ofNat col &&& 0x0f)) = false := by decide

theorem decode_colHigh : ∀ col < 128,
    decode ((0x10 : UInt8) ||| ((UInt8.ofNat col >>> 4) &&& 0x0f)) = .colHigh (col / 16) := by decide

theorem setPageCol_ok {page col : UInt8} (hpage : page.toNat < 8) (hcol : col.toNat < 128) {b : Bus}
    (hok : (shSsdSetPageCol i2c page col b).1 = true) :
    (shSsdSetPageCol i2c page col b).2.panel.page = page.toNat ∧
      (shSsdSetPageCol i2c page col b).2.panel.col = col.toNat := by
  unfold shSsdSetPageCol shSsdCmdList at hok ⊢
  rw [chunks_short i2c 0x00 (List.cons_ne_nil _ _) (by simp)] at hok ⊢
  rw [raw_ok i2c hok, receive_command]
  obtain ⟨hp, hpa⟩ := decode_page page.toNat hpage
  obtain ⟨hl, hla⟩ := decode_colLow col.toNat hcol
  have hh := decode_colHigh col.toNat hcol
  rw [UInt8.ofNat_toNat] at hp hpa hl hla hh
  simp only [Panel.commands, hpa, hla, Bool.false_eq_true, if_false, Panel.command, hp, hl, hh]
  refine ⟨trivial, ?_⟩
  omega

theorem ram_setPageCol (page col : UInt8) (b : Bus) :
    (shSsdSetPageCol i2c page col b).2.panel.ram = b.panel.ram :=
  ram_cmdList i2c _ b

end Commands

section Data

variable (i2c : Outcomes)

def Writes (f : Bus → Bool × Bus) (data : List UInt8) : Prop :=
  ∀ b, ∃ sent, sent <+: data ∧ (f b).2.panel = b.panel.write sent ∧ ((f b).1 = true → sent = data)

theorem writes_raw (data : List UInt8) : Writes (shSsdRaw i2c (0x40 :: data)) data := by
  intro b
  unfold shSsdRaw
  cases i2c b.writes with
  | none => exact ⟨data, List.prefix_rfl, rfl, fun _ => rfl⟩
  | some k =>
    cases k with
    | zero => exact ⟨[], List.nil_prefix, rfl, fun h => absurd h Bool.false_ne_true⟩
    | succ k => exact ⟨data.take k, List.take_prefix k data, rfl, fun h => absurd h Bool.false_ne_true⟩

theorem Writes.andThen {f g : Bus → Bool × Bus} {x y : List UInt8} (hf : Writes f x) (hg : Writes g y) :
    Writes (Attempt.andThen f g) (x ++ y) := by
  intro b
  obtain ⟨sent, hpre, hpanel, hall⟩ := hf b
  cases hok : (f b).1 with
  | true =>
    rw [andThen_of_ok hok]
    obtain ⟨sent', hpre', hpanel', hall'⟩ := hg (f b).2
    refine ⟨x ++ sent', (List.prefix_append_right_inj x).mpr hpre', ?_, fun h => ?_⟩
    · rw [hpanel', hpanel, hall hok, Panel.write_append]
    · rw [hall' h]
  | false =>
    rw [andThen_of_fail hok]
    refine ⟨sent, hpre.trans (List.prefix_append x y), hpanel, fun h => ?_⟩
    exact absurd (hok.symm.trans h) Bool.false_ne_true

theorem writes_nil {f : Bus → Bool × Bus} (hf : ∀ b, f b = (true, b)) : Writes f [] := by
  intro b
  rw [hf b]
  exact ⟨[], List.nil_prefix, rfl, fun _ => rfl⟩

theorem writes_data {data : List UInt8} (hlen : data.length ≤ 16) : Writes (shSsdData i2c data) data := by
  by_cases hne : data = []
  · subst hne
    exact writes_nil fun b => chunks_nil i2c 0x40 0 b
  · intro b
    unfold shSsdData
    rw [chunks_short i2c 0x40 hne hlen]
    exact writes_raw i2c data b

theorem writes_all {α : Type} (f : α → Bus → Bool × Bus) (x : α → List UInt8) (hf : ∀ a, Writes (f a) (x a))
    (as : List α) : Writes (all (as.map f)) (as.flatMap x) := by
  induction as with
  | nil => exact writes_nil fun b => rfl
  | cons a as ih =>
    rw [List.map_cons, all_cons, List.flatMap_cons]
    exact (hf a).andThen ih

end Data

section Pages

variable (i2c : Outcomes) {page col : UInt8} (hpage : page.toNat < 8) (hcol : col.toNat < width)
  {g : Bus → Bool × Bus} {data : List UInt8} (hg : Writes g data)

include hpage hcol hg

theorem ram_placed_of_ne (b : Bus) {q : ℕ} (hq : q ≠ page.toNat) :
    (andThen (shSsdSetPageCol i2c page col) g b).2.panel.ram q = b.panel.ram q := by
  have hset := ram_setPageCol i2c page col b
  cases hok : (shSsdSetPageCol i2c page col b).1 with
  | true =>
    obtain ⟨hp, -⟩ := setPageCol_ok i2c hpage hcol hok
    obtain ⟨sent, -, hpanel, -⟩ := hg (shSsdSetPageCol i2c page col b).2
    rw [andThen_of_ok hok, hpanel, Panel.ram_write_of_ne sent (hp ▸ hq), hset]
  | false => rw [andThen_of_fail hok, hset]

theorem ram_placed (hfit : col.toNat + data.length ≤ width) {b : Bus}
    (hok : (andThen (shSsdSetPageCol i2c page col) g b).1 = true) (c : ℕ) :
    (andThen (shSsdSetPageCol i2c page col) g b).2.panel.ram page.toNat c =
      if col.toNat ≤ c ∧ c < col.toNat + data.length then data.getD (c - col.toNat) 0
      else b.panel.ram page.toNat c := by
  obtain ⟨hset, hdata⟩ := ok_of_andThen hok
  obtain ⟨hp, hc⟩ := setPageCol_ok i2c hpage hcol hset
  obtain ⟨sent, -, hpanel, hall⟩ := hg (shSsdSetPageCol i2c page col b).2
  rw [andThen_of_ok hset, hpanel, hall hdata, ← hp, Panel.ram_write data (hc.symm ▸ hfit), hc, hp,
    ram_setPageCol]

end Pages

theorem length_glyph (ch : UInt8) : (glyph ch).length = 5 := by
  have htable : ∀ n < 256, (glyph (UInt8.ofNat n)).length = 5 := by decide +kernel
  have h := htable ch.toNat ch.toNat_lt
  rwa [UInt8.ofNat_toNat] at h

def strokes (text : List UInt8) : List UInt8 := text.flatMap fun ch => glyph ch ++ [0]

theorem length_strokes (text : List UInt8) : (strokes text).length = 6 * text.length := by
  induction text with
  | nil => rfl
  | cons ch text ih =>
    have hcons : strokes (ch :: text) = glyph ch ++ [0] ++ strokes text := List.flatMap_cons
    rw [hcons, List.length_append, List.length_append, length_glyph, ih, List.length_singleton, List.length_cons]
    omega

/-- The page shows the text from the fifth column on, and nothing else. -/
def Shows (p : Panel) (page : ℕ) (text : List UInt8) : Prop :=
  ∀ c < width, p.ram page c = (List.replicate 4 0 ++ strokes text).getD c 0

section Drawing

variable (i2c : Outcomes) {page : UInt8} (hpage : page.toNat < 8)

theorem writes_clear : Writes (all (List.replicate 8 (shSsdData i2c zeros))) (List.replicate width 0) := by
  have h := writes_all (fun _ : Unit => shSsdData i2c zeros) (fun _ => zeros)
    (fun _ => writes_data i2c (by decide)) (List.replicate 8 ())
  rwa [List.map_replicate] at h

theorem writes_text (text : List UInt8) :
    Writes (all (text.map fun ch => andThen (shSsdData i2c (glyph ch)) (shSsdData i2c [0]))) (strokes text) := by
  apply writes_all
  intro ch
  apply Writes.andThen
  · exact writes_data i2c (by rw [length_glyph]; decide)
  · exact writes_data i2c (by decide)

include hpage

theorem ram_clearPage_of_ne (b : Bus) {q : ℕ} (hq : q ≠ page.toNat) :
    (shSsdClearPage i2c page b).2.panel.ram q = b.panel.ram q :=
  ram_placed_of_ne i2c hpage (by decide) (writes_clear i2c) b hq

theorem ram_clearPage {b : Bus} (hok : (shSsdClearPage i2c page b).1 = true) {c : ℕ} (hc : c < width) :
    (shSsdClearPage i2c page b).2.panel.ram page.toNat c = 0 := by
  have hfit : (0 : UInt8).toNat + (List.replicate width (0 : UInt8)).length ≤ width := by simp
  have h := ram_placed i2c hpage (by decide) (writes_clear i2c) hfit hok c
  have hcol : (0 : UInt8).toNat = 0 := rfl
  rw [hcol, List.length_replicate, if_pos ⟨Nat.zero_le c, by omega⟩, List.getD_replicate _ (by omega)] at h
  exact h

theorem ram_drawText_of_ne {col : UInt8} (hcol : col.toNat < width) (text : List UInt8) (b : Bus) {q : ℕ}
    (hq : q ≠ page.toNat) : (shSsdDrawText i2c page col text b).2.panel.ram q = b.panel.ram q :=
  ram_placed_of_ne i2c hpage hcol (writes_text i2c text) b hq

omit hpage in
theorem shows_nil {p : Panel} {q : ℕ} (hclear : ∀ c < width, p.ram q c = 0) : Shows p q [] := by
  intro c hc
  rw [hclear c hc]
  by_cases hleft : c < 4
  · exact (List.getD_replicate _ hleft).symm
  · exact (List.getD_eq_default _ _ (by simpa [strokes] using hleft)).symm

theorem shows_drawText {text : List UInt8} (hlen : text.length ≤ 15) {b : Bus}
    (hclear : ∀ c < width, b.panel.ram page.toNat c = 0) (hok : (shSsdDrawText i2c page 4 text b).1 = true) :
    Shows (shSsdDrawText i2c page 4 text b).2.panel page.toNat text := by
  intro c hc
  have hcol : (4 : UInt8).toNat = 4 := rfl
  have hwidth : width = 128 := rfl
  have hfit : (4 : UInt8).toNat + (strokes text).length ≤ width := by
    rw [length_strokes]
    omega
  have h := ram_placed i2c hpage (by decide) (writes_text i2c text) hfit hok c
  rw [hclear c hc, hcol] at h
  refine h.trans ?_
  by_cases hleft : c < 4
  · rw [if_neg (by omega), List.getD_append _ _ _ _ (by simpa using hleft), List.getD_replicate _ hleft]
  · rw [List.getD_append_right _ _ _ _ (by simpa using hleft), List.length_replicate]
    by_cases hright : c < 4 + (strokes text).length
    · rw [if_pos ⟨by omega, hright⟩]
    · rw [if_neg (by omega), List.getD_eq_default _ _ (by omega)]

end Drawing

section Failures

variable (i2c : Outcomes)

theorem tallies_clearPage (page : UInt8) : Tallies Bus.failures (shSsdClearPage i2c page) := by
  apply Tallies.andThen
  · exact tallies_chunks i2c _ _ _
  · apply tallies_all
    intro f hf
    rw [List.eq_of_mem_replicate hf]
    exact tallies_chunks i2c _ _ _

theorem tallies_drawText (page col : UInt8) (text : List UInt8) :
    Tallies Bus.failures (shSsdDrawText i2c page col text) := by
  apply Tallies.andThen
  · exact tallies_chunks i2c _ _ _
  · apply tallies_all
    intro f hf
    obtain ⟨ch, -, rfl⟩ := List.mem_map.mp hf
    exact (tallies_chunks i2c _ _ _).andThen (tallies_chunks i2c _ _ _)

end Failures

end SmartHelmet.Oled
