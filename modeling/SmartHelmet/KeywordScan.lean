import SmartHelmet.KeywordSearch
import SmartHelmet.MachineArith

namespace SmartHelmet.Firmware

open MachineArith

inductive Stop where
  | outside | unfinished
  deriving DecidableEq

def readByte (mem : List UInt8) (i : ℕ) : Except Stop UInt8 :=
  match mem[i]? with
  | some b => .ok b
  | none => .error .outside

def needleLength (mem : List UInt8) : ℕ → ℕ → Except Stop ℕ
  | 0, _ => .error .unfinished
  | fuel + 1, nlen => do
    let b ← readByte mem nlen
    if b = 0 then .ok nlen else needleLength mem fuel (u16 (nlen + 1))

def matchLoop (data mem : List UInt8) (nlen i : ℕ) : ℕ → ℕ → Except Stop Bool
  | 0, _ => .error .unfinished
  | fuel + 1, j =>
    if j < nlen then do
      let a ← readByte data (i + j)
      let b ← readByte mem j
      if foldByte a = foldByte b then matchLoop data mem nlen i fuel (u16 (j + 1)) else .ok false
    else .ok true

def scanLoop (limit : ℕ) (data mem : List UInt8) (nlen : ℕ) : ℕ → ℕ → Except Stop Bool
  | 0, _ => .error .unfinished
  | fuel + 1, i =>
    if i + nlen ≤ data.length then do
      let found ← matchLoop data mem nlen i limit 0
      if found then .ok true else scanLoop limit data mem nlen fuel (u16 (i + 1))
    else .ok false

/-- `shContainsFold` with at most `fuel` rounds of each loop; the needle lies before its `NUL`. -/
def containsFold (fuel : ℕ) (data needle : Option (List UInt8)) : Except Stop Bool :=
  match data, needle with
  | some data, some needle => do
    let nlen ← needleLength (needle ++ [0]) fuel 0
    if nlen = 0 ∨ data.length < nlen then .ok false
    else scanLoop fuel data (needle ++ [0]) nlen fuel 0
  | _, _ => .ok false

/-- The loop has ended with its value, or it has used up its rounds. -/
def Ends {α : Type} (short : Prop) (r : Except Stop α) (v : α) : Prop := r = .ok v ∨ short ∧ r = .error .unfinished

section Reads

variable {data needle : List UInt8}

theorem readByte_of_lt {i : ℕ} (h : i < data.length) : readByte data i = .ok data[i] := by
  rw [readByte, List.getElem?_eq_getElem h]

theorem readByte_needle {j : ℕ} (h : j < needle.length) : readByte (needle ++ [0]) j = .ok needle[j] := by
  rw [readByte_of_lt (by rw [List.length_append]; omega), List.getElem_append_left h]

theorem readByte_terminator : readByte (needle ++ [0]) needle.length = .ok 0 := by
  rw [readByte_of_lt (by rw [List.length_append]; exact Nat.lt_succ_self _), List.getElem_concat_length rfl]

end Reads

section Length

variable {needle : List UInt8}

theorem needleLength_ends (hzero : ∀ b ∈ needle, b ≠ 0) (hlen : needle.length ≤ 65535) (fuel k : ℕ)
    (hk : k ≤ needle.length) :
    Ends (fuel + k ≤ needle.length) (needleLength (needle ++ [0]) fuel k) needle.length := by
  induction fuel generalizing k with
  | zero => exact Or.inr ⟨by omega, rfl⟩
  | succ fuel ih =>
    rcases hk.lt_or_eq with hlt | rfl
    · have hnext : u16 (k + 1) = k + 1 := u16_of_lt (by omega)
      have hne := hzero _ (List.getElem_mem hlt)
      rw [needleLength, readByte_needle hlt]
      change Ends _ (if needle[k] = 0 then _ else _) _
      rw [if_neg hne, hnext]
      exact (ih (k + 1) hlt).imp_right (And.imp_left (by omega))
    · rw [needleLength, readByte_terminator]
      exact Or.inl rfl

theorem needleLength_of_long (hzero : ∀ b ∈ needle, b ≠ 0) (hlen : 65536 ≤ needle.length) (fuel k : ℕ)
    (hk : k < 65536) :
    needleLength (needle ++ [0]) fuel k = .error .unfinished := by
  induction fuel generalizing k with
  | zero => rfl
  | succ fuel ih =>
    have hlt : k < needle.length := by omega
    have hne := hzero _ (List.getElem_mem hlt)
    rw [needleLength, readByte_needle hlt]
    change (if needle[k] = 0 then _ else _) = _
    rw [if_neg hne]
    exact ih _ (u16_lt _)

end Length

section Search

variable {data needle : List UInt8}

theorem matchLoop_ends (hlen : needle.length ≤ 65535) {i : ℕ} (hi : i + needle.length ≤ data.length) (fuel j : ℕ)
    (hj : j ≤ needle.length) :
    Ends (fuel + j ≤ needle.length) (matchLoop data (needle ++ [0]) needle.length i fuel j)
      (startsFold (data.drop (i + j)) (needle.drop j)) := by
  induction fuel generalizing j with
  | zero => exact Or.inr ⟨by omega, rfl⟩
  | succ fuel ih =>
    rcases hj.lt_or_eq with hlt | rfl
    · have hnext : u16 (j + 1) = j + 1 := u16_of_lt (by omega)
      have hdata : i + j < data.length := by omega
      rw [matchLoop, if_pos hlt, readByte_of_lt hdata, readByte_needle hlt, hnext, List.drop_eq_getElem_cons hdata,
        List.drop_eq_getElem_cons hlt, startsFold]
      change Ends _ (if foldByte data[i + j] = foldByte needle[j] then _ else _) _
      split_ifs with heq
      · rw [beq_iff_eq.mpr heq, Bool.true_and]
        exact (ih (j + 1) hlt).imp_right (And.imp_left (by omega))
      · rw [beq_eq_false_iff_ne.mpr heq, Bool.false_and]
        exact Or.inl rfl
    · rw [matchLoop, if_neg (lt_irrefl _), List.drop_length]
      cases data.drop (i + needle.length) with
      | nil => exact Or.inl rfl
      | cons a rest => exact Or.inl rfl

theorem searchFold_of_short (hne : needle ≠ []) (h : data.length < needle.length) : searchFold needle data = false := by
  rw [Bool.eq_false_iff]
  intro hfound
  have := ((searchFold_iff hne data).mp hfound).length_le
  rw [List.length_map, List.length_map] at this
  omega

theorem scanLoop_ends (hne : needle ≠ []) (hlen : needle.length ≤ 65535) (hdata : data.length ≤ 65535) (limit fuel i : ℕ)
    (hi : i ≤ data.length) :
    Ends (limit ≤ needle.length ∨ fuel + i ≤ data.length) (scanLoop limit data (needle ++ [0]) needle.length fuel i)
      (searchFold needle (data.drop i)) := by
  have hpos := List.length_pos_iff.mpr hne
  induction fuel generalizing i with
  | zero => exact Or.inr ⟨Or.inr (by omega), rfl⟩
  | succ fuel ih =>
    rw [scanLoop]
    split_ifs with hroom
    · have hnext : u16 (i + 1) = i + 1 := u16_of_lt (by omega)
      have hsearch : searchFold needle (data.drop i) =
          (startsFold (data.drop i) needle || searchFold needle (data.drop (i + 1))) := by
        rw [List.drop_eq_getElem_cons (by omega : i < data.length), searchFold]
      rw [hsearch, hnext]
      rcases matchLoop_ends hlen hroom limit 0 (Nat.zero_le _) with hmatch | ⟨hshort, hmatch⟩
      · rw [hmatch, Nat.add_zero, List.drop_zero]
        change Ends _ (if startsFold (data.drop i) needle = true then _ else _) _
        split_ifs with hstarts
        · rw [hstarts, Bool.true_or]
          exact Or.inl rfl
        · rw [Bool.eq_false_iff.mpr hstarts, Bool.false_or]
          exact (ih (i + 1) (by omega)).imp_right (And.imp_left (Or.imp_right (by omega)))
      · rw [hmatch]
        exact Or.inr ⟨Or.inl (by omega), rfl⟩
    · rw [searchFold_of_short hne (by rw [List.length_drop]; omega)]
      exact Or.inl rfl

theorem containsFold_ends (hzero : ∀ b ∈ needle, b ≠ 0) (hlen : needle.length ≤ 65535) (hdata : data.length ≤ 65535)
    (fuel : ℕ) :
    Ends (fuel ≤ 65535) (containsFold fuel (some data) (some needle)) (!needle.isEmpty && searchFold needle data) := by
  rw [containsFold]
  rcases needleLength_ends hzero hlen fuel 0 (Nat.zero_le _) with hcount | ⟨hshort, hcount⟩
  · rw [hcount]
    change Ends _ (if needle.length = 0 ∨ data.length < needle.length then _ else _) _
    split_ifs with hnone
    · left
      rcases hnone with hempty | hlong
      · rw [List.length_eq_zero_iff.mp hempty]
        rfl
      · have hne : needle ≠ [] := List.length_pos_iff.mp (by omega)
        rw [searchFold_of_short hne hlong, Bool.and_false]
    · have hne : needle ≠ [] := fun h => hnone (Or.inl (List.length_eq_zero_iff.mpr h))
      have hemp : needle.isEmpty = false := by
        rw [Bool.eq_false_iff, Ne, List.isEmpty_iff]
        exact hne
      rw [hemp, Bool.not_false, Bool.true_and]
      exact (scanLoop_ends hne hlen hdata fuel fuel 0 (Nat.zero_le _)).imp_right (And.imp_left (by omega))
  · rw [hcount]
    exact Or.inr ⟨by omega, rfl⟩

theorem containsFold_of_long (hzero : ∀ b ∈ needle, b ≠ 0) (hlen : 65536 ≤ needle.length) (fuel : ℕ) :
    containsFold fuel (some data) (some needle) = .error .unfinished := by
  rw [containsFold, needleLength_of_long hzero hlen fuel 0 (by norm_num)]
  rfl

theorem occurs_iff (needle data : List UInt8) :
    (!needle.isEmpty && searchFold needle data) = true ↔
      needle ≠ [] ∧ needle.map foldByte <:+: data.map foldByte := by
  rw [Bool.and_eq_true, Bool.not_eq_true', Bool.eq_false_iff, Ne, List.isEmpty_iff]
  exact and_congr_right (fun hne => searchFold_iff hne data)

end Search

section Exact

variable {data needle : List UInt8}

theorem containsFold_of_rounds (hzero : ∀ b ∈ needle, b ≠ 0) (hlen : needle.length ≤ 65535)
    (hdata : data.length ≤ 65535) {fuel : ℕ} (hfuel : 65536 ≤ fuel) :
    containsFold fuel (some data) (some needle) = .ok (!needle.isEmpty && searchFold needle data) := by
  rcases containsFold_ends hzero hlen hdata fuel with hok | ⟨hshort, -⟩
  · exact hok
  · omega

theorem containsFold_ne_outside (hzero : ∀ b ∈ needle, b ≠ 0) (hdata : data.length ≤ 65535) (fuel : ℕ) :
    containsFold fuel (some data) (some needle) ≠ .error .outside := by
  rcases Nat.lt_or_ge needle.length 65536 with hlen | hlen
  · rcases containsFold_ends hzero (by omega) hdata fuel with hok | ⟨-, hshort⟩
    · rw [hok]
      exact fun h => nomatch h
    · rw [hshort]
      exact fun h => nomatch h
  · rw [containsFold_of_long hzero hlen]
    exact fun h => nomatch h

theorem containsFold_true_iff (hzero : ∀ b ∈ needle, b ≠ 0) (hdata : data.length ≤ 65535) :
    (∃ fuel, containsFold fuel (some data) (some needle) = .ok true) ↔
      needle ≠ [] ∧ needle.map foldByte <:+: data.map foldByte := by
  rw [← occurs_iff]
  rcases Nat.lt_or_ge needle.length 65536 with hlen | hlen
  · constructor
    · rintro ⟨fuel, hfound⟩
      rcases containsFold_ends hzero (by omega) hdata fuel with hok | ⟨-, hshort⟩
      · rw [hok] at hfound
        exact Except.ok.inj hfound
      · rw [hshort] at hfound
        exact nomatch hfound
    · intro hoccurs
      refine ⟨65536, ?_⟩
      rw [containsFold_of_rounds hzero (by omega) hdata le_rfl, hoccurs]
  · constructor
    · rintro ⟨fuel, hfound⟩
      rw [containsFold_of_long hzero hlen] at hfound
      exact nomatch hfound
    · intro hoccurs
      have hne : needle ≠ [] := ((occurs_iff needle data).mp hoccurs).1
      rw [searchFold_of_short hne (by omega), Bool.and_false] at hoccurs
      exact absurd hoccurs Bool.false_ne_true

end Exact

end SmartHelmet.Firmware
