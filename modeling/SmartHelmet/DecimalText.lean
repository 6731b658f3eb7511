import Mathlib

namespace DecimalText

def digit (d : ℕ) : UInt8 := UInt8.ofNat (48 + d)

def isDigit (b : UInt8) : Bool := decide (48 ≤ b.toNat ∧ b.toNat ≤ 57)

abbrev minus : UInt8 := 45

def decimal (n : ℕ) : List UInt8 :=
  if n = 0 then [digit 0] else ((Nat.digits 10 n).map digit).reverse

def signed (v : ℤ) : List UInt8 := if v < 0 then minus :: decimal v.natAbs else decimal v.natAbs

def value (bs : List UInt8) : ℕ := bs.foldl (fun a b => 10 * a + (b.toNat - 48)) 0

def readNat (bs : List UInt8) : Option ℕ :=
  if bs ≠ [] ∧ bs.all isDigit = true then some (value bs) else none

def readInt (bs : List UInt8) : Option ℤ :=
  if bs.head? = some minus then (readNat bs.tail).map (fun n : ℕ => -(n : ℤ))
  else (readNat bs).map (fun n : ℕ => (n : ℤ))

def readRow {α : Type} (read : List UInt8 → Option α) (sep : UInt8) (line : List UInt8) : Option (List α) :=
  (line.splitOn sep).mapM read

def remainders : ℕ → ℕ → List UInt8
  | 0, _ => []
  | fuel + 1, v => if v = 0 then [] else digit (v % 10) :: remainders fuel (v / 10)

theorem toNat_digit {d : ℕ} (h : d < 10) : (digit d).toNat = 48 + d := by
  rw [digit, UInt8.toNat_ofNat']
  omega

theorem isDigit_digit {d : ℕ} (h : d < 10) : isDigit (digit d) = true := by
  simp only [isDigit, toNat_digit h, decide_eq_true_eq]
  omega

theorem digits_lt {n d : ℕ} (h : d ∈ Nat.digits 10 n) : d < 10 := Nat.digits_lt_base (by norm_num) h

theorem remainders_eq {fuel v : ℕ} (h : v < 10 ^ fuel) : remainders fuel v = (Nat.digits 10 v).map digit := by
  induction fuel generalizing v with
  | zero =>
    obtain rfl : v = 0 := by omega
    rfl
  | succ fuel ih =>
    by_cases hv : v = 0
    · subst hv
      rfl
    · have hdiv : v / 10 < 10 ^ fuel := Nat.div_lt_of_lt_mul (by rw [pow_succ] at h; omega)
      rw [remainders, if_neg hv, ih hdiv, Nat.digits_def' (by norm_num) (Nat.pos_of_ne_zero hv), List.map_cons]

theorem decimal_ne_nil (n : ℕ) : decimal n ≠ [] := by
  unfold decimal
  split_ifs with h
  · exact List.cons_ne_nil _ _
  · simpa [Nat.digits_ne_nil_iff_ne_zero] using h

theorem isDigit_of_mem_decimal {n : ℕ} {b : UInt8} (h : b ∈ decimal n) : isDigit b = true := by
  unfold decimal at h
  split_ifs at h with hn
  · rw [List.mem_singleton.mp h]
    exact isDigit_digit (by norm_num)
  · obtain ⟨d, hd, rfl⟩ := List.mem_map.mp (List.mem_reverse.mp h)
    exact isDigit_digit (digits_lt hd)

theorem value_reverse_digits {l : List ℕ} (h : ∀ d ∈ l, d < 10) :
    value (l.map digit).reverse = Nat.ofDigits 10 l := by
  induction l with
  | nil => rfl
  | cons d l ih =>
    have hd := toNat_digit (h d List.mem_cons_self)
    have hl := ih (fun d hd => h d (List.mem_cons_of_mem _ hd))
    simp only [value] at hl
    simp only [value, List.map_cons, List.reverse_cons, List.foldl_append, List.foldl_cons, List.foldl_nil,
      hl, hd, Nat.ofDigits_cons]
    omega

theorem value_decimal (n : ℕ) : value (decimal n) = n := by
  unfold decimal
  split_ifs with h
  · rw [h]
    rfl
  · rw [value_reverse_digits (fun d hd => digits_lt hd), Nat.ofDigits_digits]

theorem readNat_decimal (n : ℕ) : readNat (decimal n) = some n := by
  rw [readNat, if_pos ⟨decimal_ne_nil n, List.all_eq_true.mpr (fun b hb => isDigit_of_mem_decimal hb)⟩,
    value_decimal]

theorem readNat_minus (bs : List UInt8) : readNat (minus :: bs) = none := by
  rw [readNat, if_neg]
  rintro ⟨_, hall⟩
  exact absurd (List.all_eq_true.mp hall minus List.mem_cons_self) (by decide)

theorem head_decimal_ne_minus (n : ℕ) : (decimal n).head? ≠ some minus := by
  intro h
  exact absurd (isDigit_of_mem_decimal (List.mem_of_mem_head? (Option.mem_def.mpr h))) (by decide)

theorem readInt_signed (v : ℤ) : readInt (signed v) = some v := by
  unfold signed
  split_ifs with h
  · rw [readInt, if_pos List.head?_cons, List.tail_cons, readNat_decimal, Option.map_some]
    congr 1
    omega
  · rw [readInt, if_neg (head_decimal_ne_minus _), readNat_decimal, Option.map_some]
    congr 1
    omega

theorem readNat_signed {v : ℤ} (h : 0 ≤ v) : readNat (signed v) = some v.toNat := by
  rw [signed, if_neg (by omega), readNat_decimal]
  congr 1
  omega

theorem readNat_signed_neg {v : ℤ} (h : v < 0) : readNat (signed v) = none := by
  rw [signed, if_pos h, readNat_minus]

theorem not_mem_decimal {b : UInt8} (hb : isDigit b = false) (n : ℕ) : b ∉ decimal n := by
  intro h
  rw [isDigit_of_mem_decimal h] at hb
  exact Bool.noConfusion hb

theorem not_mem_signed {b : UInt8} (hb : isDigit b = false) (hm : b ≠ minus) (v : ℤ) : b ∉ signed v := by
  unfold signed
  split_ifs
  · intro h
    rcases List.mem_cons.mp h with h | h
    · exact hm h
    · exact not_mem_decimal hb _ h
  · exact not_mem_decimal hb _

theorem signed_ne_nil (v : ℤ) : signed v ≠ [] := by
  unfold signed
  split_ifs
  · exact List.cons_ne_nil _ _
  · exact decimal_ne_nil _

theorem length_decimal_le {n k : ℕ} (hk : 0 < k) (h : n < 10 ^ k) : (decimal n).length ≤ k := by
  unfold decimal
  split_ifs
  · exact hk
  · rw [List.length_reverse, List.length_map]
    exact (Nat.digits_length_le_iff (by norm_num) n).mpr h

theorem length_signed_le {v : ℤ} {k : ℕ} (hk : 0 < k) (h : v.natAbs < 10 ^ k) :
    (signed v).length ≤ k + if v < 0 then 1 else 0 := by
  have hd := length_decimal_le hk h
  unfold signed
  split_ifs
  · exact Nat.succ_le_succ hd
  · exact hd

def rowText (sep : UInt8) (fields : List (List UInt8)) : List UInt8 := [sep].intercalate fields

theorem rowText_cons (sep : UInt8) (f : List UInt8) (fields : List (List UInt8)) :
    rowText sep (f :: fields) = f ++ fields.flatMap (fun g => sep :: g) := by
  induction fields generalizing f with
  | nil => simp [rowText]
  | cons g fields ih =>
    have h := ih g
    simp only [rowText] at h
    simp [rowText, h]

theorem length_rowText_le (sep : UInt8) {fields : List (List UInt8)} {widths : List ℕ}
    (h : List.Forall₂ (fun f w => f.length ≤ w) fields widths) :
    (rowText sep fields).length ≤ (widths.map (· + 1)).sum := by
  have htail {fields : List (List UInt8)} {widths : List ℕ}
      (h : List.Forall₂ (fun f w => f.length ≤ w) fields widths) :
      (fields.flatMap (fun g => sep :: g)).length ≤ (widths.map (· + 1)).sum := by
    induction h with
    | nil => simp
    | cons hf _ ih =>
      simp only [List.flatMap_cons, List.length_append, List.length_cons, List.map_cons, List.sum_cons]
      omega
  cases h with
  | nil => simp [rowText]
  | cons hf hfs =>
    have := htail hfs
    rw [rowText_cons, List.length_append, List.map_cons, List.sum_cons]
    omega

theorem mapM_eq_some_iff {α : Type} {read : List UInt8 → Option α} {fields : List (List UInt8)} {row : List α} :
    fields.mapM read = some row ↔ List.Forall₂ (fun f a => read f = some a) fields row := by
  induction fields generalizing row with
  | nil => simp
  | cons f fields ih => cases row <;> simp [Option.bind_eq_some_iff, ih]

section Rows

variable {sep : UInt8} (hdigit : isDigit sep = false) (hminus : sep ≠ minus) {row : List ℤ} (hne : row ≠ [])
include hdigit hminus hne

theorem splitOn_signed : (rowText sep (row.map signed)).splitOn sep = row.map signed := by
  apply List.splitOn_intercalate
  · intro f hf
    obtain ⟨v, _, rfl⟩ := List.mem_map.mp hf
    exact not_mem_signed hdigit hminus v
  · simpa using hne

theorem readRow_signed : readRow readInt sep (rowText sep (row.map signed)) = some row := by
  rw [readRow, splitOn_signed hdigit hminus hne, mapM_eq_some_iff, List.forall₂_map_left_iff, List.forall₂_same]
  exact fun v _ => readInt_signed v

end Rows

section FixedPoint

abbrev point : UInt8 := 46

def fixed2 (v : ℤ) : List UInt8 :=
  (if v < 0 then [minus] else []) ++
    (decimal (v.natAbs / 100) ++ point :: (decimal (v.natAbs / 10 % 10) ++ decimal (v.natAbs % 10)))

def readHundredths (bs : List UInt8) : Option ℕ :=
  match bs.splitOn point with
  | [whole, frac] =>
    if frac.length = 2 then (readNat whole).bind (fun a => (readNat frac).map (fun c => 100 * a + c)) else none
  | _ => none

def readFixed2 (bs : List UInt8) : Option ℤ :=
  if bs.head? = some minus then (readHundredths bs.tail).map (fun n : ℕ => -(n : ℤ))
  else (readHundredths bs).map (fun n : ℕ => (n : ℤ))

theorem decimal_of_lt {n : ℕ} (h : n < 10) : decimal n = [digit n] := by
  unfold decimal
  split_ifs with hz
  · rw [hz]
  · rw [Nat.digits_of_lt 10 n hz h]
    rfl

theorem decimal_of_ge {n : ℕ} (h : 10 ≤ n) : decimal n = decimal (n / 10) ++ [digit (n % 10)] := by
  have hdiv : n / 10 ≠ 0 := by omega
  rw [decimal, if_neg (by omega), decimal, if_neg hdiv, Nat.digits_def' (by norm_num) (by omega), List.map_cons,
    List.reverse_cons]

theorem map_toDigits (n : ℕ) : (Nat.toDigits 10 n).map (fun c => UInt8.ofNat c.toNat) = decimal n := by
  have hchar {d : ℕ} (h : d < 10) : UInt8.ofNat d.digitChar.toNat = digit d := by
    rw [Nat.toNat_digitChar_of_lt_ten h, digit]
  induction n using Nat.strong_induction_on with
  | _ n ih =>
    rw [Nat.toDigits_eq_if (by norm_num)]
    split_ifs with h
    · rw [decimal_of_lt h, List.map_singleton, hchar h]
    · rw [decimal_of_ge (by omega), List.map_append, ih (n / 10) (by omega), List.map_singleton,
        hchar (Nat.mod_lt _ (by norm_num))]

theorem readNat_two_digits {a c : ℕ} (ha : a < 10) (hc : c < 10) :
    readNat (decimal a ++ decimal c) = some (10 * a + c) := by
  have hall : (decimal a ++ decimal c).all isDigit = true := by
    rw [List.all_append, List.all_eq_true.mpr (fun _ => isDigit_of_mem_decimal),
      List.all_eq_true.mpr (fun _ => isDigit_of_mem_decimal), Bool.and_true]
  rw [readNat, if_pos ⟨by simp [decimal_ne_nil], hall⟩, decimal_of_lt ha, decimal_of_lt hc]
  simp only [value, List.singleton_append, List.foldl_cons, List.foldl_nil, toNat_digit ha, toNat_digit hc]
  congr 1
  omega

theorem readHundredths_decimal (n : ℕ) :
    readHundredths (decimal (n / 100) ++ point :: (decimal (n / 10 % 10) ++ decimal (n % 10))) = some n := by
  have htens : n / 10 % 10 < 10 := Nat.mod_lt _ (by norm_num)
  have hones : n % 10 < 10 := Nat.mod_lt _ (by norm_num)
  have hfrac : point ∉ decimal (n / 10 % 10) ++ decimal (n % 10) := by
    rw [List.mem_append, not_or]
    exact ⟨not_mem_decimal (by decide) _, not_mem_decimal (by decide) _⟩
  have hlen : (decimal (n / 10 % 10) ++ decimal (n % 10)).length = 2 := by
    rw [decimal_of_lt htens, decimal_of_lt hones]
    rfl
  rw [readHundredths, List.splitOn_append_cons_self_of_not_mem (not_mem_decimal (by decide) _),
    List.splitOn_eq_singleton hfrac]
  simp only [hlen, ↓reduceIte, readNat_decimal, readNat_two_digits htens hones, Option.bind_some, Option.map_some]
  congr 1
  omega

theorem readFixed2_fixed2 (v : ℤ) : readFixed2 (fixed2 v) = some v := by
  have hhead (n : ℕ) (bs : List UInt8) : (decimal n ++ bs).head? ≠ some minus := by
    rw [List.head?_append_of_ne_nil _ (decimal_ne_nil n)]
    exact head_decimal_ne_minus n
  unfold fixed2
  split_ifs with h
  · rw [readFixed2, List.singleton_append, if_pos List.head?_cons, List.tail_cons, readHundredths_decimal, Option.map_some]
    congr 1
    omega
  · rw [readFixed2, List.nil_append, if_neg (hhead _ _), readHundredths_decimal, Option.map_some]
    congr 1
    omega

theorem length_fixed2_le {v : ℤ} (h : v.natAbs < 100000) : (fixed2 v).length ≤ 7 := by
  have hw := length_decimal_le (n := v.natAbs / 100) (k := 3) (by norm_num) (by omega)
  unfold fixed2
  rw [decimal_of_lt (n := v.natAbs / 10 % 10) (Nat.mod_lt _ (by norm_num)),
    decimal_of_lt (n := v.natAbs % 10) (Nat.mod_lt _ (by norm_num))]
  split_ifs <;> simp <;> omega

theorem not_mem_fixed2 {b : UInt8} (hb : isDigit b = false) (hm : b ≠ minus) (hp : b ≠ point) (v : ℤ) :
    b ∉ fixed2 v := by
  have hd := not_mem_decimal hb
  unfold fixed2
  split_ifs <;> simp [hd, hm, hp]

end FixedPoint

section Lines

abbrev cr : UInt8 := 13
abbrev lf : UInt8 := 10

def splitCrlf : List UInt8 → List (List UInt8)
  | [] => [[]]
  | [b] => [[b]]
  | b :: c :: rest =>
    if b = cr ∧ c = lf then [] :: splitCrlf rest else (splitCrlf (c :: rest)).modifyHead (b :: ·)

theorem splitCrlf_cons {b : UInt8} (h : b ≠ cr) (l : List UInt8) :
    splitCrlf (b :: l) = (splitCrlf l).modifyHead (b :: ·) := by
  cases l with
  | nil => rfl
  | cons c rest => exact if_neg (fun hb => h hb.1)

theorem splitCrlf_line {line : List UInt8} (h : cr ∉ line) (rest : List UInt8) :
    splitCrlf (line ++ cr :: lf :: rest) = line :: splitCrlf rest := by
  induction line with
  | nil => exact if_pos ⟨rfl, rfl⟩
  | cons b line ih =>
    rw [List.mem_cons, not_or] at h
    rw [List.cons_append, splitCrlf_cons (Ne.symm h.1), ih h.2, List.modifyHead_cons]

theorem splitCrlf_lines {lines : List (List UInt8)} (h : ∀ l ∈ lines, cr ∉ l) :
    splitCrlf (lines.flatMap (· ++ [cr, lf])) = lines ++ [[]] := by
  induction lines with
  | nil => rfl
  | cons line lines ih =>
    rw [List.flatMap_cons, List.append_assoc, List.cons_append, List.cons_append, List.nil_append,
      splitCrlf_line (h line List.mem_cons_self), ih (fun l hl => h l (List.mem_cons_of_mem _ hl)),
      List.cons_append]

theorem length_lines_le {lines : List (List UInt8)} {widths : List ℕ}
    (h : List.Forall₂ (fun l w => l.length ≤ w) lines widths) :
    (lines.flatMap (· ++ [cr, lf])).length ≤ (widths.map (· + 2)).sum := by
  induction h with
  | nil => simp
  | cons hl _ ih =>
    simp only [List.flatMap_cons, List.length_append, List.length_cons, List.length_nil, List.map_cons, List.sum_cons]
    omega

theorem line_le_of_widths {lines : List (List UInt8)} {widths : List ℕ} {n : ℕ}
    (h : List.Forall₂ (fun l w => l.length ≤ w) lines widths) (hn : ∀ w ∈ widths, w ≤ n) :
    ∀ l ∈ lines, l.length ≤ n := by
  induction h with
  | nil => simp
  | cons hl _ ih =>
    obtain ⟨hw, hws⟩ := List.forall_mem_cons.mp hn
    exact List.forall_mem_cons.mpr ⟨hl.trans hw, ih hws⟩

end Lines

end DecimalText
