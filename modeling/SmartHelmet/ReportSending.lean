import SmartHelmet.ReportDecode

namespace SmartHelmet.Firmware

open MachineArith DecimalText

def isEol (b : UInt8) : Bool := b == 13 || b == 10

def takeFrame (rest : List UInt8) : List UInt8 × List UInt8 :=
  let rest := rest.dropWhile isEol
  ((rest.takeWhile (fun b => !isEol b)).take 37, rest.dropWhile (fun b => !isEol b))

section Loop

variable {σ : Type} (send : List UInt8 → σ → σ × Bool) (noteSent : Bool → σ → σ)

def sendLoop : ℕ → List UInt8 → σ → σ
  | 0, _, s => s
  | fuel + 1, rest, s =>
    if rest = [] then noteSent true s
    else if (takeFrame rest).1 = [] then sendLoop fuel (takeFrame rest).2 s
    else
      let (s, ok) := send ((takeFrame rest).1 ++ [13, 10]) s
      if ok then sendLoop fuel (takeFrame rest).2 s else noteSent false s

def sendAll : List (List UInt8) → σ → σ × Bool
  | [], s => (s, true)
  | frame :: frames, s =>
    let (s, ok) := send frame s
    if ok then sendAll frames s else (s, false)

end Loop

inductive ReportCall where
  | uartSend (frame : List UInt8)
  | noteReportSent (ok : Bool)

def recordSend (ok : ℕ → Bool) (frame : List UInt8) (calls : List ReportCall) : List ReportCall × Bool :=
  (calls ++ [.uartSend frame], ok calls.length)

def recordNote (sent : Bool) (calls : List ReportCall) : List ReportCall := calls ++ [.noteReportSent sent]

/-- The calls for a text, where the `n`-th `SmartHelmet_UartSend` answers `ok n`. -/
def reportCalls (ok : ℕ → Bool) (line : List UInt8) : List ReportCall :=
  sendLoop (recordSend ok) recordNote (line.length + 1) line []

theorem splitLines_eol {b : UInt8} (hb : isEol b = true) (rest : List UInt8) :
    splitLines (b :: rest) = splitLines rest := by
  have hp : (b == 13 || b == 10) = true := hb
  unfold splitLines
  rw [List.splitOnP_cons_eq_if_modifyHead, if_pos hp]
  rfl

theorem splitLines_dropWhile (rest : List UInt8) : splitLines (rest.dropWhile isEol) = splitLines rest := by
  induction rest with
  | nil => rfl
  | cons b rest ih =>
    cases hb : isEol b with
    | true => rw [List.dropWhile_cons_of_pos hb, ih, splitLines_eol hb]
    | false => rw [List.dropWhile_cons_of_neg (by simp [hb])]

theorem splitLines_segment {seg rest : List UInt8} (hseg : ∀ b ∈ seg, isEol b = false) (hne : seg ≠ [])
    (hrest : ∀ b ∈ rest.head?, isEol b = true) : splitLines (seg ++ rest) = seg :: splitLines rest := by
  have hinner : ∀ b ∈ seg, (b == 13 || b == 10) = false := hseg
  have hkeep (l : List (List UInt8)) : (seg :: l).filter (fun seg => !seg.isEmpty) =
      seg :: l.filter (fun seg => !seg.isEmpty) := List.filter_cons_of_pos (by simpa using hne)
  cases rest with
  | nil =>
    unfold splitLines
    rw [List.append_nil, List.splitOnP_eq_singleton hinner, hkeep]
    rfl
  | cons b rest =>
    have hb : (b == 13 || b == 10) = true := hrest b rfl
    rw [splitLines_eol hb]
    unfold splitLines
    rw [List.splitOnP_append_cons_of_forall_mem hinner b hb, hkeep]

theorem head_dropWhile_eol {rest tail : List UInt8} {b : UInt8} (h : rest.dropWhile isEol = b :: tail) :
    isEol b = false := by
  have hhead := List.head?_dropWhile_not isEol rest
  rw [h, List.head?_cons] at hhead
  simpa using hhead

theorem takeFrame_rest_lt {rest : List UInt8} (h : rest ≠ []) : (takeFrame rest).2.length < rest.length := by
  have hdrop := (List.dropWhile_suffix (l := rest) isEol).length_le
  cases hr : rest.dropWhile isEol with
  | nil =>
    simp only [takeFrame, hr, List.dropWhile_nil, List.length_nil]
    exact List.length_pos_of_ne_nil h
  | cons b tail =>
    have htail := (List.dropWhile_suffix (l := tail) (fun b => !isEol b)).length_le
    rw [hr, List.length_cons] at hdrop
    simp only [takeFrame, hr]
    rw [List.dropWhile_cons_of_pos (by simp [head_dropWhile_eol hr])]
    omega

theorem takeFrame_cases (rest : List UInt8) :
    (takeFrame rest = ([], []) ∧ reportFrames rest = []) ∨
      ((takeFrame rest).1 ≠ [] ∧
        reportFrames rest = ((takeFrame rest).1 ++ [13, 10]) :: reportFrames (takeFrame rest).2) := by
  unfold reportFrames
  rw [← splitLines_dropWhile rest]
  cases hr : rest.dropWhile isEol with
  | nil => exact Or.inl ⟨by rw [takeFrame, hr]; rfl, rfl⟩
  | cons b tail =>
    have hseg : (b :: tail).takeWhile (fun b => !isEol b) ≠ [] := by simp [head_dropWhile_eol hr]
    have hmem : ∀ c ∈ (b :: tail).takeWhile (fun b => !isEol b), isEol c = false := by
      intro c hc
      simpa using List.mem_takeWhile_imp hc
    have hhead : ∀ c ∈ ((b :: tail).dropWhile (fun b => !isEol b)).head?, isEol c = true := by
      intro c hc
      have hnot := List.head?_dropWhile_not (fun b => !isEol b) (b :: tail)
      rw [Option.mem_def.mp hc] at hnot
      simpa using hnot
    have hsplit := splitLines_segment hmem hseg hhead
    rw [List.takeWhile_append_dropWhile] at hsplit
    have hframe : ((b :: tail).takeWhile (fun b => !isEol b)).take 37 ≠ [] := by
      simpa [List.take_eq_nil_iff] using hseg
    simp only [takeFrame, hr]
    exact Or.inr ⟨hframe, by rw [hsplit, List.map_cons]⟩

section Refinement

variable {σ : Type} {send : List UInt8 → σ → σ × Bool} {noteSent : Bool → σ → σ}

theorem sendLoop_eq {fuel : ℕ} {rest : List UInt8} (h : rest.length < fuel) (s : σ) :
    sendLoop send noteSent fuel rest s =
      noteSent (sendAll send (reportFrames rest) s).2 (sendAll send (reportFrames rest) s).1 := by
  induction fuel generalizing rest s with
  | zero => exact absurd h (Nat.not_lt_zero _)
  | succ fuel ih =>
    rw [sendLoop]
    by_cases hnil : rest = []
    · rw [if_pos hnil, hnil]
      rfl
    · have hlt := takeFrame_rest_lt hnil
      rw [if_neg hnil]
      rcases takeFrame_cases rest with ⟨hlast, hframes⟩ | ⟨hframe, hframes⟩
      · rw [if_pos (congrArg Prod.fst hlast), ih (by omega), hlast, hframes]
        rfl
      · rw [if_neg hframe, hframes, sendAll]
        cases hsend : send ((takeFrame rest).1 ++ [13, 10]) s with
        | mk s' ok =>
          cases ok with
          | true => exact ih (by omega) s'
          | false => rfl

end Refinement

theorem sendFrames_eq (w : World) (frames : List (List UInt8)) (h : Helmet) :
    sendFrames w frames h = sendAll (uartSend w .payload) frames h := by
  induction frames generalizing h with
  | nil => rfl
  | cons frame frames ih =>
    rw [sendFrames, sendAll]
    cases huart : uartSend w .payload frame h with
    | mk h' ok =>
      cases ok with
      | true => exact ih h'
      | false => rfl

theorem shSendReportLines_eq (w : World) (e : Env) (line : List UInt8) (h : Helmet) :
    shSendReportLines w e line h =
      sendLoop (uartSend w .payload) (uartNoteReportSent w e) (line.length + 1) line h := by
  rw [sendLoop_eq (Nat.lt_succ_self _), ← sendFrames_eq]
  rfl

theorem sendAll_all_sent {ok : ℕ → Bool} {frames : List (List UInt8)} {calls : List ReportCall}
    (h : ∀ i < frames.length, ok (calls.length + i) = true) :
    sendAll (recordSend ok) frames calls = (calls ++ frames.map .uartSend, true) := by
  induction frames generalizing calls with
  | nil => simp [sendAll]
  | cons frame frames ih =>
    have hfirst : ok calls.length = true := h 0 (Nat.zero_lt_succ _)
    have hrest : sendAll (recordSend ok) frames (calls ++ [.uartSend frame]) =
        (calls ++ [.uartSend frame] ++ frames.map .uartSend, true) := by
      apply ih
      intro i hi
      rw [List.length_append, List.length_singleton, Nat.add_assoc, Nat.add_comm 1 i]
      exact h (i + 1) (Nat.succ_lt_succ hi)
    rw [sendAll, recordSend]
    simp only [hfirst, ↓reduceIte]
    rw [hrest, List.append_assoc, List.map_cons, List.singleton_append]

theorem sendAll_stops {ok : ℕ → Bool} {frames : List (List UInt8)} {calls : List ReportCall} {i : ℕ}
    (hi : i < frames.length) (hfail : ok (calls.length + i) = false)
    (h : ∀ j < i, ok (calls.length + j) = true) :
    sendAll (recordSend ok) frames calls = (calls ++ (frames.take (i + 1)).map .uartSend, false) := by
  induction i generalizing frames calls with
  | zero =>
    cases frames with
    | nil => exact absurd hi (Nat.not_lt_zero _)
    | cons frame frames =>
      rw [sendAll, recordSend]
      simp only [Nat.add_zero] at hfail
      simp [hfail]
  | succ i ih =>
    cases frames with
    | nil => exact absurd hi (Nat.not_lt_zero _)
    | cons frame frames =>
      have hshift (j : ℕ) : (calls ++ [ReportCall.uartSend frame]).length + j = calls.length + (j + 1) := by
        rw [List.length_append, List.length_singleton]
        omega
      have hfirst : ok calls.length = true := h 0 (Nat.zero_lt_succ _)
      have hrest : sendAll (recordSend ok) frames (calls ++ [.uartSend frame]) =
          (calls ++ [.uartSend frame] ++ (frames.take (i + 1)).map .uartSend, false) := by
        apply ih (Nat.lt_of_succ_lt_succ hi)
        · rw [hshift]
          exact hfail
        · intro j hj
          rw [hshift]
          exact h (j + 1) (Nat.succ_lt_succ hj)
      rw [sendAll, recordSend]
      simp only [hfirst, ↓reduceIte]
      rw [hrest, List.append_assoc, List.take_succ_cons, List.map_cons, List.singleton_append]

theorem splitLines_lines {lines : List (List UInt8)} (h : ∀ l ∈ lines, cr ∉ l ∧ lf ∉ l ∧ l ≠ []) :
    splitLines (lines.flatMap (· ++ [cr, lf])) = lines := by
  induction lines with
  | nil => rfl
  | cons l lines ih =>
    obtain ⟨hcr, hlf, hne⟩ := h l List.mem_cons_self
    have hseg : ∀ b ∈ l, isEol b = false := by
      intro b hb
      have hbcr : b ≠ 13 := by
        rintro rfl
        exact hcr hb
      have hblf : b ≠ 10 := by
        rintro rfl
        exact hlf hb
      simp [isEol, hbcr, hblf]
    rw [List.flatMap_cons, List.append_assoc, List.cons_append, List.cons_append, List.nil_append,
      splitLines_segment hseg hne (by rintro b ⟨⟩; rfl), splitLines_eol rfl, splitLines_eol rfl,
      ih (fun l hl => h l (List.mem_cons_of_mem _ hl))]

def reportArgs (h : Helmet) : Helmet × Bool × Bool × ℕ × ℕ × ℕ :=
  let (h, restart) := uartTakeRestart (latchMotion h)
  let (h, fall) := takeFall h
  let (h, co, nh3, no2) := gasRatios h
  (h, restart, fall, co, nh3, no2)

def reportValues (h : Helmet) : Report :=
  let (h, restart, fall, co, nh3, no2) := reportArgs h
  valuesOf h restart fall co nh3 no2

def reportLines (h : Helmet) : List (List UInt8) :=
  let (h, restart, fall, co, nh3, no2) := reportArgs h
  linesOf h restart fall co nh3 no2

structure Sensors.Fits (s : Sensors) : Prop where
  object : -32768 ≤ s.objectTempX100 ∧ s.objectTempX100 < 32768
  tvoc : s.ccs811Tvoc < 65536

theorem sensors_reportArgs (h : Helmet) : (reportArgs h).1.sensors = h.sensors := by
  obtain ⟨holding, quiet, since, hl⟩ := latchMotion_eq h
  unfold reportArgs
  rw [hl]
  rfl

theorem report_text {h : Helmet} (hs : h.sensors.Fits) :
    (reportBuild h).2 = (reportLines h).flatMap (· ++ [cr, lf]) ∧
      ((reportLines h).flatMap (· ++ [cr, lf])).length < reportMax ∧ ∀ l ∈ reportLines h, l.length ≤ 37 := by
  have hfit : (reportArgs h).1.sensors.Fits := (sensors_reportArgs h).symm ▸ hs
  have hwidths := lines_widths (reportArgs h).2.1 (reportArgs h).2.2.1 (reportArgs h).2.2.2.1 (reportArgs h).2.2.2.2.1
    (reportArgs h).2.2.2.2.2 hfit.object hfit.tvoc
  have hlen : ((reportLines h).flatMap (· ++ [cr, lf])).length ≤ 149 := length_lines_le hwidths
  refine ⟨?_, hlen.trans_lt (by decide), line_le_of_widths hwidths (by decide)⟩
  have hcut := reportLine_cut hfit.object (reportArgs h).2.1 (reportArgs h).2.2.1 (reportArgs h).2.2.2.1
    (reportArgs h).2.2.2.2.1 (reportArgs h).2.2.2.2.2
  have hbuild : (reportBuild h).2 = cut ((reportLines h).flatMap (· ++ [cr, lf])) := hcut
  rw [hbuild, cut, List.take_of_length_le (hlen.trans (by decide))]

theorem reportLines_clean (h : Helmet) : ∀ l ∈ reportLines h, cr ∉ l ∧ lf ∉ l ∧ l ≠ [] :=
  lines_clean (reportArgs h).1 _ _ _ _ _

theorem report_frames {h : Helmet} (hs : h.sensors.Fits) :
    reportFrames (reportBuild h).2 = (reportLines h).map (· ++ [cr, lf]) := by
  obtain ⟨htext, _, hshort⟩ := report_text hs
  rw [htext, reportFrames, splitLines_lines (reportLines_clean h)]
  apply List.map_congr_left
  intro l hl
  rw [List.take_of_length_le (hshort l hl)]

section Fits

variable {s : Sensors} (hs : s.Fits)
include hs

theorem fits_pollCcs811 (r : Option (UInt16 × UInt16)) : (pollCcs811 r s).Fits := by
  unfold pollCcs811
  split
  · split_ifs
    · exact { hs with tvoc := UInt16.toNat_lt _ }
    · exact hs
  · exact hs

theorem fits_pollLis3dh (raw : Option RawAccel) : (pollLis3dh raw s).Fits := by
  unfold pollLis3dh
  split
  · split_ifs
    · exact ⟨hs.object, hs.tvoc⟩
    · exact hs
  · exact hs

theorem fits_pollHdc1080 (r : Option (UInt16 × UInt16)) : (pollHdc1080 r s).Fits := by
  unfold pollHdc1080
  split
  · split_ifs
    · exact ⟨hs.object, hs.tvoc⟩
    · exact hs
  · exact hs

theorem fits_pollMlx90614 (ta tobj1 : Option UInt16) : (pollMlx90614 ta tobj1 s).Fits := by
  have hread : -32768 ≤ (shReadMlx90614 tobj1).getD s.objectTempX100 ∧
      (shReadMlx90614 tobj1).getD s.objectTempX100 < 32768 := by
    unfold shReadMlx90614
    split
    · split_ifs
      · exact hs.object
      · exact i16_range _
    · exact hs.object
  unfold pollMlx90614
  split_ifs
  · exact { hs with object := hread }
  · exact hs

end Fits

theorem fits_reportSample (w : World) (e : Env) {h : Helmet} (hs : h.sensors.Fits) :
    (reportSample w e h).sensors.Fits := by
  have hsensors : (reportSample w e h).sensors = (sensorsPoll e h).sensors := by
    unfold reportSample
    dsimp only
    split_ifs <;> rfl
  rw [hsensors]
  exact fits_pollMlx90614 (fits_pollHdc1080 (fits_pollLis3dh (fits_pollCcs811 hs _) _) _) _ _

theorem report_round_trip (w : World) (e : Env) (h : Helmet) (object : Int16) (tvoc : UInt16) :
    let h := { h with sensors := { h.sensors with objectTempX100 := object.toInt, ccs811Tvoc := tvoc.toNat } }
    let g := if canSend h then reportSample w e h else h
    let line := (reportBuild g).2
    let lines := reportLines g
    (line = lines.flatMap (· ++ [cr, lf]) ∧ line.length < reportMax ∧
      lines.map (fun l => l.takeWhile (fun b => b != colon)) = reportKeys.map bytes ∧
      parseReport line = some (reportValues g)) ∧
    (reportStart w e h = reportArm (if canSend h then
        sendLoop (uartSend w .payload) (uartNoteReportSent w e) (line.length + 1) line (reportBuild g).1
      else (reportBuild g).1)) ∧
    ∀ ok : ℕ → Bool,
      ((∀ i < 11, ok i = true) → reportCalls ok line =
        lines.map (fun l => .uartSend (l ++ [cr, lf])) ++ [.noteReportSent true]) ∧
      ∀ i < 11, ok i = false → (∀ j < i, ok j = true) → reportCalls ok line =
        (lines.take (i + 1)).map (fun l => .uartSend (l ++ [cr, lf])) ++ [.noteReportSent false] := by
  intro h g line lines
  have hs : g.sensors.Fits := by
    have hh : h.sensors.Fits := ⟨⟨object.le_toInt, object.toInt_lt⟩, tvoc.toNat_lt⟩
    by_cases hc : canSend h
    · simp only [g, if_pos hc]
      exact fits_reportSample w e hh
    · simp only [g, if_neg hc]
      exact hh
  obtain ⟨htext, hlen, hshort⟩ := report_text hs
  have hframes : reportFrames line = lines.map (· ++ [cr, lf]) := report_frames hs
  have hcalls (ok : ℕ → Bool) : reportCalls ok line = (sendAll (recordSend ok) (lines.map (· ++ [cr, lf])) []).1 ++
      [.noteReportSent (sendAll (recordSend ok) (lines.map (· ++ [cr, lf])) []).2] := by
    rw [reportCalls, sendLoop_eq (Nat.lt_succ_self _), hframes]
    rfl
  have hcount : lines.length = 11 := rfl
  have hlength : line.length < reportMax := by
    rw [show line = _ from htext]
    exact hlen
  refine ⟨⟨htext, hlength, ?_, ?_⟩, ?_, fun ok => ⟨fun hall => ?_, fun i hi hfail hbefore => ?_⟩⟩
  · rfl
  · rw [show line = _ from htext]
    exact parse_lines (reportArgs g).1 _ _ _ _ _
  · by_cases hc : canSend h
    · simp only [g, line, if_pos hc]
      rw [← shSendReportLines_eq, reportStart, if_pos hc]
    · simp only [g, line, if_neg hc]
      rw [reportStart, if_neg hc]
  · rw [hcalls, sendAll_all_sent (by simpa [hcount] using hall), List.nil_append, List.map_map]
    rfl
  · rw [hcalls, sendAll_stops (by simpa [hcount] using hi) (by simpa using hfail) (by simpa using hbefore),
      List.nil_append, ← List.map_take, List.map_map]
    rfl

end SmartHelmet.Firmware
