import SmartHelmet.DecimalText
import SmartHelmet.ReportStart

namespace SmartHelmet.Firmware

open MachineArith DecimalText

abbrev colon : UInt8 := 58

structure Report where
  moving : Bool
  restart : Bool
  fall : Bool
  pulse : String
  body : Option ℤ
  amb : Option ℤ
  rh : Option ℤ
  voc : Option ℕ
  co : ℕ
  nh3 : ℕ
  no2 : ℤ

def readWord {α : Type} (words : List (String × α)) (bs : List UInt8) : Option α :=
  (words.find? (fun p => bytes p.1 == bs)).map Prod.snd

def readUnit {α : Type} (unit : String) (read : List UInt8 → Option α) (bs : List UInt8) : Option α :=
  if (bytes unit).isSuffixOf bs then read (bs.take (bs.length - (bytes unit).length)) else none

def readOrNa {α : Type} (read : List UInt8 → Option α) (bs : List UInt8) : Option (Option α) :=
  if bs = bytes "na" then some none else (read bs).map some

def readKeyed {α : Type} (key : String) (read : List UInt8 → Option α) (line : List UInt8) : Option α :=
  match line.splitOn colon with
  | [k, v] => if k = bytes key then read v else none
  | _ => none

def yesNoWords : List (String × Bool) := [("yes", true), ("no", false)]

def pulseWords : List (String × String) :=
  [("none", "none"), ("unknown", "unknown"), ("rising", "rising"), ("falling", "falling"), ("stable", "stable")]

def parseReport (text : List UInt8) : Option Report :=
  match splitCrlf text with
  | [motion, restart, fall, pulse, body, amb, rh, voc, co, nh3, no2, []] => do
    let moving ← readKeyed "motion" (readWord [("moving", true), ("still", false)]) motion
    let restart ← readKeyed "restart" (readWord yesNoWords) restart
    let fall ← readKeyed "fall" (readWord yesNoWords) fall
    let pulse ← readKeyed "pulse" (readWord pulseWords) pulse
    let body ← readKeyed "body" (readOrNa (readUnit "C" readFixed2)) body
    let amb ← readKeyed "amb" (readOrNa (readUnit "C" readFixed2)) amb
    let rh ← readKeyed "rh" (readOrNa (readUnit "%" readFixed2)) rh
    let voc ← readKeyed "voc" (readOrNa (readUnit "ppb" readNat)) voc
    let co ← readKeyed "co" (readUnit "ppm" readNat) co
    let nh3 ← readKeyed "nh3" (readUnit "ppm" readNat) nh3
    let no2 ← readKeyed "no2" (readUnit "ppm" readFixed2) no2
    return ⟨moving, restart, fall, pulse, body, amb, rh, voc, co, nh3, no2⟩
  | _ => none

def reportKeys : List String :=
  ["motion", "restart", "fall", "pulse", "body", "amb", "rh", "voc", "co", "nh3", "no2"]

def keyed (key : String) (value : List UInt8) : List UInt8 := bytes key ++ colon :: value

def orNa (ok : Bool) (text : List UInt8) : List UInt8 := if ok then text else bytes "na"

@[simp] theorem orNa_true (text : List UInt8) : orNa true text = text := rfl

@[simp] theorem orNa_false (text : List UInt8) : orNa false text = bytes "na" := rfl

def present {α : Type} (ok : Bool) (v : α) : Option α := if ok then some v else none

section Values

variable (h : Helmet) (restart fall : Bool) (co nh3 no2 : ℕ)

def valuesOf : Report where
  moving := h.motionHolding
  restart := restart
  fall := fall
  pulse := pulseText h.vitals.status
  body := present h.sensors.mlx90614Ok h.sensors.objectTempX100
  amb := present h.sensors.hdc1080Ok (i16 (h.sensors.hdcTempX100 + ambOffsetX100))
  rh := present h.sensors.hdc1080Ok (i16 h.sensors.hdcHumidityX100)
  voc := present h.sensors.ccs811Ok h.sensors.ccs811Tvoc
  co := shCoPpm co
  nh3 := shNh3Ppm nh3
  no2 := shNo2PpmX100 no2

def payloadsOf : List (List UInt8) :=
  [bytes (if h.motionHolding then "moving" else "still"), bytes (yesNo restart), bytes (yesNo fall),
   bytes (pulseText h.vitals.status),
   orNa h.sensors.mlx90614Ok (fixed2 h.sensors.objectTempX100 ++ bytes "C"),
   orNa h.sensors.hdc1080Ok (fixed2 (i16 (h.sensors.hdcTempX100 + ambOffsetX100)) ++ bytes "C"),
   orNa h.sensors.hdc1080Ok (fixed2 (i16 h.sensors.hdcHumidityX100) ++ bytes "%"),
   orNa h.sensors.ccs811Ok (decimal h.sensors.ccs811Tvoc ++ bytes "ppb"),
   decimal (shCoPpm co) ++ bytes "ppm", decimal (shNh3Ppm nh3) ++ bytes "ppm",
   fixed2 (shNo2PpmX100 no2) ++ bytes "ppm"]

def linesOf : List (List UInt8) := List.zipWith keyed reportKeys (payloadsOf h restart fall co nh3 no2)

end Values

def cut (text : List UInt8) : List UInt8 := text.take (reportMax - 1)

theorem shAppend_nil (s : String) : shAppend [] s = cut (bytes s) := rfl

theorem shAppend_cut (text : List UInt8) (s : String) : shAppend (cut text) s = cut (text ++ bytes s) := by
  unfold shAppend cut
  rw [List.take_append, List.length_take]
  congr 2
  omega

theorem bytes_toString (v : ℕ) : bytes (toString v) = decimal v := by
  rw [bytes, Nat.toString_eq_repr, Nat.toList_repr, map_toDigits]

theorem shAppendU_cut (text : List UInt8) (v : ℕ) : shAppendU (cut text) v = cut (text ++ decimal v) := by
  rw [shAppendU, shAppend_cut, bytes_toString]

theorem shAppendX100_cut (text : List UInt8) {v : ℤ} (hv : -32768 ≤ v ∧ v < 32768) :
    shAppendX100 (cut text) v = cut (text ++ fixed2 v) := by
  have hmag : (if v < 0 then u16OfInt (-v) else u16OfInt v) = v.natAbs := by
    unfold u16OfInt
    split_ifs <;> omega
  have hsign : (if v < 0 then shAppend (cut text) "-" else cut text) =
      cut (text ++ if v < 0 then [minus] else []) := by
    split_ifs
    · exact shAppend_cut text "-"
    · rw [List.append_nil]
  have hpoint : bytes "." = [point] := rfl
  rw [shAppendX100, hmag, hsign]
  simp only [shAppendU_cut, shAppend_cut, hpoint, fixed2, List.append_assoc, List.cons_append, List.nil_append]

theorem appendX100Or_cut (text : List UInt8) (ok : Bool) {v : ℤ} (hv : -32768 ≤ v ∧ v < 32768) (unit : String) :
    appendX100Or (cut text) ok v unit = cut (text ++ orNa ok (fixed2 v ++ bytes unit)) := by
  cases ok with
  | true => rw [appendX100Or, if_pos rfl, shAppendX100_cut text hv, shAppend_cut, List.append_assoc, orNa_true]
  | false => exact shAppend_cut text "na"

theorem shNo2PpmX100_range (ratio : ℕ) :
    -32768 ≤ (shNo2PpmX100 ratio : ℤ) ∧ (shNo2PpmX100 ratio : ℤ) < 32768 := by
  unfold shNo2PpmX100
  split_ifs <;> norm_num

theorem reportLine_cut {h : Helmet} (hobject : -32768 ≤ h.sensors.objectTempX100 ∧ h.sensors.objectTempX100 < 32768)
    (restart fall : Bool) (co nh3 no2 : ℕ) :
    reportLine h restart fall co nh3 no2 = cut ((linesOf h restart fall co nh3 no2).flatMap (· ++ [cr, lf])) := by
  have hfirst : bytes "motion:" = bytes "motion" ++ [colon] := rfl
  have hlast : bytes "\r\n" = [cr, lf] := rfl
  have hrestart : bytes "\r\nrestart:" = cr :: lf :: (bytes "restart" ++ [colon]) := rfl
  have hfall : bytes "\r\nfall:" = cr :: lf :: (bytes "fall" ++ [colon]) := rfl
  have hpulse : bytes "\r\npulse:" = cr :: lf :: (bytes "pulse" ++ [colon]) := rfl
  have hbody : bytes "\r\nbody:" = cr :: lf :: (bytes "body" ++ [colon]) := rfl
  have hamb : bytes "\r\namb:" = cr :: lf :: (bytes "amb" ++ [colon]) := rfl
  have hrh : bytes "\r\nrh:" = cr :: lf :: (bytes "rh" ++ [colon]) := rfl
  have hvoc : bytes "\r\nvoc:" = cr :: lf :: (bytes "voc" ++ [colon]) := rfl
  have hco : bytes "\r\nco:" = cr :: lf :: (bytes "co" ++ [colon]) := rfl
  have hnh3 : bytes "\r\nnh3:" = cr :: lf :: (bytes "nh3" ++ [colon]) := rfl
  have hno2 : bytes "\r\nno2:" = cr :: lf :: (bytes "no2" ++ [colon]) := rfl
  unfold reportLine linesOf payloadsOf reportKeys
  generalize h.sensors.ccs811Ok = ccsOk
  cases ccsOk <;> simp only [orNa_true, orNa_false, Bool.false_eq_true, ↓reduceIte, shAppend_nil, shAppend_cut,
    appendX100Or_cut _ _ hobject, appendX100Or_cut _ _ (i16_range _), shAppendU_cut,
    shAppendX100_cut _ (shNo2PpmX100_range no2), hfirst, hlast, hrestart, hfall, hpulse, hbody, hamb, hrh, hvoc, hco, hnh3, hno2, List.zipWith_cons_cons,
    List.zipWith_nil_left, keyed, List.flatMap_cons, List.flatMap_nil,
    List.append_assoc, List.cons_append, List.nil_append, List.append_nil]

def Clean (bs : List UInt8) : Prop := ∀ b ∈ bs, b ≠ cr ∧ b ≠ lf ∧ b ≠ colon

theorem clean_of_not_mem {bs : List UInt8} (hcr : cr ∉ bs) (hlf : lf ∉ bs) (hcolon : colon ∉ bs) : Clean bs := by
  intro b hb
  exact ⟨fun h => hcr (h ▸ hb), fun h => hlf (h ▸ hb), fun h => hcolon (h ▸ hb)⟩

theorem clean_append {a b : List UInt8} (ha : Clean a) (hb : Clean b) : Clean (a ++ b) := by
  intro x hx
  exact (List.mem_append.mp hx).elim (ha x) (hb x)

theorem clean_decimal (n : ℕ) : Clean (decimal n) :=
  clean_of_not_mem (not_mem_decimal (by decide) n) (not_mem_decimal (by decide) n) (not_mem_decimal (by decide) n)

theorem clean_fixed2 (v : ℤ) : Clean (fixed2 v) :=
  clean_of_not_mem (not_mem_fixed2 (by decide) (by decide) (by decide) v)
    (not_mem_fixed2 (by decide) (by decide) (by decide) v) (not_mem_fixed2 (by decide) (by decide) (by decide) v)

instance (bs : List UInt8) : Decidable (Clean bs) := inferInstanceAs (Decidable (∀ b ∈ bs, _))

theorem clean_orNa (ok : Bool) {text : List UInt8} (h : Clean text) : Clean (orNa ok text) := by
  cases ok with
  | true => exact h
  | false => exact (by decide +kernel : Clean (bytes "na"))

theorem length_orNa_le (ok : Bool) {text : List UInt8} {k : ℕ} (hk : 2 ≤ k) (h : text.length ≤ k) :
    (orNa ok text).length ≤ k := by
  cases ok with
  | true => exact h
  | false => exact hk

theorem pulseText_mem (st : Vitals.Status) : pulseText st ∈ pulseWords.map Prod.fst := by
  unfold pulseText
  split_ifs <;> decide

section Payloads

variable (h : Helmet) (restart fall : Bool) (co nh3 no2 : ℕ)

theorem payloads_clean : ∀ v ∈ payloadsOf h restart fall co nh3 no2, Clean v := by
  have hword (t : String) (ht : t ∈ pulseWords.map Prod.fst) : Clean (bytes t) := by
    revert t
    decide +kernel
  have hyes (b : Bool) : Clean (bytes (yesNo b)) := by cases b <;> decide +kernel
  have hmoving : Clean (bytes (if h.motionHolding then "moving" else "still")) := by
    cases h.motionHolding <;> decide +kernel
  have hppm : Clean (bytes "ppm") := by decide +kernel
  simp only [payloadsOf, List.forall_mem_cons, List.not_mem_nil, false_imp_iff, implies_true, and_true]
  exact ⟨hmoving, hyes restart, hyes fall, hword _ (pulseText_mem _),
    clean_orNa _ (clean_append (clean_fixed2 _) (by decide +kernel)),
    clean_orNa _ (clean_append (clean_fixed2 _) (by decide +kernel)),
    clean_orNa _ (clean_append (clean_fixed2 _) (by decide +kernel)),
    clean_orNa _ (clean_append (clean_decimal _) (by decide +kernel)),
    clean_append (clean_decimal _) hppm, clean_append (clean_decimal _) hppm,
    clean_append (clean_fixed2 _) hppm⟩

theorem length_keyed_le {key : String} {v : List UInt8} {n w : ℕ} (hkey : (bytes key).length = n)
    (hv : v.length ≤ w) : (keyed key v).length ≤ n + 1 + w := by
  rw [keyed, List.length_append, List.length_cons]
  omega

theorem length_unit_le {v : List UInt8} {unit : String} {n w : ℕ} (hv : v.length ≤ n)
    (hunit : (bytes unit).length = w) : (v ++ bytes unit).length ≤ n + w := by
  rw [List.length_append]
  omega

theorem lines_widths {h : Helmet}
    (hobject : -32768 ≤ h.sensors.objectTempX100 ∧ h.sensors.objectTempX100 < 32768)
    (htvoc : h.sensors.ccs811Tvoc < 65536) :
    List.Forall₂ (fun l w => l.length ≤ w) (linesOf h restart fall co nh3 no2)
      [6 + 1 + 6, 7 + 1 + 3, 4 + 1 + 3, 5 + 1 + 7, 4 + 1 + (7 + 1), 3 + 1 + (7 + 1), 2 + 1 + (7 + 1),
       3 + 1 + (5 + 3), 2 + 1 + (4 + 3), 3 + 1 + (3 + 3), 3 + 1 + (7 + 3)] := by
  have hword (t : String) (ht : t ∈ pulseWords.map Prod.fst) : (bytes t).length ≤ 7 := by
    revert t
    decide
  have hyes (b : Bool) : (bytes (yesNo b)).length ≤ 3 := by cases b <;> decide
  have hmoving : (bytes (if h.motionHolding then "moving" else "still")).length ≤ 6 := by
    cases h.motionHolding <;> decide
  have hcenti {v : ℤ} (hv : -32768 ≤ v ∧ v < 32768) : (fixed2 v).length ≤ 7 := length_fixed2_le (by omega)
  have hco : (decimal (shCoPpm co)).length ≤ 4 := by
    apply length_decimal_le (by norm_num)
    unfold shCoPpm
    split_ifs <;> norm_num
  have hnh3 : (decimal (shNh3Ppm nh3)).length ≤ 3 := by
    apply length_decimal_le (by norm_num)
    unfold shNh3Ppm
    split_ifs <;> norm_num
  have hvoc : (decimal h.sensors.ccs811Tvoc).length ≤ 5 := length_decimal_le (by norm_num) (by omega)
  refine .cons (length_keyed_le rfl hmoving) (.cons (length_keyed_le rfl (hyes restart)) ?_)
  refine .cons (length_keyed_le rfl (hyes fall)) (.cons (length_keyed_le rfl (hword _ (pulseText_mem _))) ?_)
  refine .cons (length_keyed_le rfl (length_orNa_le _ (by norm_num) (length_unit_le (hcenti hobject) rfl))) ?_
  refine .cons (length_keyed_le rfl (length_orNa_le _ (by norm_num) (length_unit_le (hcenti (i16_range _)) rfl))) ?_
  refine .cons (length_keyed_le rfl (length_orNa_le _ (by norm_num) (length_unit_le (hcenti (i16_range _)) rfl))) ?_
  refine .cons (length_keyed_le rfl (length_orNa_le _ (by norm_num) (length_unit_le hvoc rfl))) ?_
  refine .cons (length_keyed_le rfl (length_unit_le hco rfl)) (.cons (length_keyed_le rfl (length_unit_le hnh3 rfl)) ?_)
  exact .cons (length_keyed_le rfl (length_unit_le (hcenti (shNo2PpmX100_range no2)) rfl)) .nil

theorem lines_clean : ∀ l ∈ linesOf h restart fall co nh3 no2, cr ∉ l ∧ lf ∉ l ∧ l ≠ [] := by
  have hkeys (k : String) (hk : k ∈ reportKeys) : Clean (bytes k) := by
    revert k
    decide +kernel
  intro l hl
  rw [linesOf, ← List.map_uncurry_zip_eq_zipWith, List.mem_map] at hl
  obtain ⟨⟨k, v⟩, hkv, rfl⟩ := hl
  have hk := hkeys k (List.of_mem_zip hkv).1
  have hv := payloads_clean h restart fall co nh3 no2 v (List.of_mem_zip hkv).2
  have hline (b : UInt8) (hb : b ∈ keyed k v) : b ≠ cr ∧ b ≠ lf := by
    rcases List.mem_append.mp hb with hb | hb
    · exact ⟨(hk b hb).1, (hk b hb).2.1⟩
    · rcases List.mem_cons.mp hb with rfl | hb
      · decide
      · exact ⟨(hv b hb).1, (hv b hb).2.1⟩
  exact ⟨fun hc => (hline cr hc).1 rfl, fun hc => (hline lf hc).2 rfl, by simp [keyed]⟩

end Payloads

section Readers

variable {α : Type} {read : List UInt8 → Option α}

theorem readKeyed_keyed {key : String} {v : List UInt8} (hkey : Clean (bytes key)) (hv : Clean v) :
    readKeyed key read (keyed key v) = read v := by
  have hk : colon ∉ bytes key := fun h => (hkey colon h).2.2 rfl
  have hc : colon ∉ v := fun h => (hv colon h).2.2 rfl
  rw [readKeyed, keyed, List.splitOn_append_cons_self_of_not_mem hk, List.splitOn_eq_singleton hc]
  exact if_pos rfl

theorem readUnit_append (unit : String) (v : List UInt8) : readUnit unit read (v ++ bytes unit) = read v := by
  have hsuffix : (bytes unit).isSuffixOf (v ++ bytes unit) = true :=
    List.isSuffixOf_iff_suffix.mpr (List.suffix_append v (bytes unit))
  rw [readUnit, if_pos hsuffix, List.length_append, Nat.add_sub_cancel, List.take_left]

theorem readOrNa_orNa (ok : Bool) {v : List UInt8} {unit : String} {a : α} (hread : read v = some a)
    (hunit : (bytes unit).getLast? ≠ some 97 ∧ bytes unit ≠ []) :
    readOrNa (readUnit unit read) (orNa ok (v ++ bytes unit)) = some (present ok a) := by
  cases ok with
  | false => exact if_pos rfl
  | true =>
    have hne : v ++ bytes unit ≠ bytes "na" := by
      intro he
      have hlast := congrArg List.getLast? he
      rw [List.getLast?_append_of_ne_nil _ hunit.2] at hlast
      exact hunit.1 hlast
    rw [orNa_true, readOrNa, if_neg hne, readUnit_append, hread]
    rfl

end Readers

theorem parse_lines (h : Helmet) (restart fall : Bool) (co nh3 no2 : ℕ) :
    parseReport ((linesOf h restart fall co nh3 no2).flatMap (· ++ [cr, lf])) =
      some (valuesOf h restart fall co nh3 no2) := by
  have hpulse (t : String) (ht : t ∈ pulseWords.map Prod.fst) : readWord pulseWords (bytes t) = some t := by
    revert t
    decide
  have hyes (b : Bool) : readWord yesNoWords (bytes (yesNo b)) = some b := by cases b <;> decide
  have hmoving : readWord [("moving", true), ("still", false)]
      (bytes (if h.motionHolding then "moving" else "still")) = some h.motionHolding := by
    cases h.motionHolding <;> decide
  have hclean := payloads_clean h restart fall co nh3 no2
  simp only [payloadsOf, List.forall_mem_cons, List.not_mem_nil, false_imp_iff, implies_true, and_true] at hclean
  obtain ⟨h1, h2, h3, h4, h5, h6, h7, h8, h9, h10, h11⟩ := hclean
  rw [parseReport, splitCrlf_lines (fun l hl => (lines_clean h restart fall co nh3 no2 l hl).1)]
  simp only [linesOf, payloadsOf, reportKeys, List.zipWith_cons_cons, List.zipWith_nil_left, List.cons_append,
    List.nil_append]
  rw [readKeyed_keyed (by decide +kernel) h1, readKeyed_keyed (by decide +kernel) h2,
    readKeyed_keyed (by decide +kernel) h3, readKeyed_keyed (by decide +kernel) h4,
    readKeyed_keyed (by decide +kernel) h5, readKeyed_keyed (by decide +kernel) h6,
    readKeyed_keyed (by decide +kernel) h7, readKeyed_keyed (by decide +kernel) h8,
    readKeyed_keyed (by decide +kernel) h9, readKeyed_keyed (by decide +kernel) h10,
    readKeyed_keyed (by decide +kernel) h11, hmoving, hyes, hyes, hpulse _ (pulseText_mem _),
    readOrNa_orNa _ (readFixed2_fixed2 _) (by decide +kernel), readOrNa_orNa _ (readFixed2_fixed2 _) (by decide +kernel),
    readOrNa_orNa _ (readFixed2_fixed2 _) (by decide), readOrNa_orNa _ (readNat_decimal _) (by decide),
    readUnit_append, readUnit_append, readUnit_append, readNat_decimal, readNat_decimal, readFixed2_fixed2]
  rfl

end SmartHelmet.Firmware
