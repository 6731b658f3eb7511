import SmartHelmet.LinkFrame

namespace SmartHelmet.Firmware

@[simp] def minuteUs : ℕ := 60000000

/-- A request at a real time in microseconds, with the helmet it finds. -/
structure RejoinRequest where
  time : ℕ
  env : Env
  found : Helmet
  outside : found.link.step.rejoins = false

/-- The function's own static is all that one request leaves to the next. -/
def RejoinRequest.ask (q : RejoinRequest) (w : World) (ms : UInt32) : Helmet :=
  uartRejoin w { q.env with timeUs := UInt32.ofNat q.time } { q.found with link := { q.found.link with rejoinMs := ms } }

structure Ledger where
  ms : UInt32
  accepted : List ℕ

def askStep (w : World) (l : Ledger) (q : RejoinRequest) : Ledger where
  ms := (q.ask w l.ms).link.rejoinMs
  accepted := if (q.ask w l.ms).link.step = .leave then q.time :: l.accepted else l.accepted

def ledger (w : World) (qs : List RejoinRequest) : Ledger := qs.foldl (askStep w) ⟨0, []⟩

structure Limited (w : World) (qs : List RejoinRequest) : Prop where
  apart : (ledger w qs).accepted.Pairwise (fun t a => a + minuteUs ≤ t)
  granted : ∀ before q later, qs = before ++ q :: later →
    ∀ a, (ledger w before).accepted.head? = some a → a + minuteUs ≤ q.time →
      (ledger w (before ++ [q])).accepted = q.time :: (ledger w before).accepted

def msCount (t : ℕ) : ℕ := t % 2 ^ 32 / 1000

/-- The counter tells the truth about a request at `t` after a rejoin at `a`: within the minute it
has not wrapped, was not in its first millisecond and has not reached the count of the minute; past
the minute it has not come round to within a minute of the stored count. -/
def ClockAgrees (a t : ℕ) : Prop :=
  if t < a + minuteUs then t / 2 ^ 32 = a / 2 ^ 32 ∧ msCount a ≠ 0 ∧ msCount t < msCount a + 60000
  else msCount a = 0 ∨ msCount t < msCount a ∨ msCount a + 60000 ≤ msCount t

section Request

variable (w : World) (q : RejoinRequest) (ms : UInt32)

theorem rejoinTooSoon_iff (a t : ℕ) (l : Link) (h : l.rejoinMs = UInt32.ofNat a / 1000) :
    rejoinTooSoon (UInt32.ofNat t) l = true ↔
      msCount a ≠ 0 ∧ msCount a ≤ msCount t ∧ msCount t < msCount a + 60000 := by
  have hcount (n : ℕ) : (UInt32.ofNat n / 1000).toNat = msCount n := by
    rw [UInt32.toNat_div, UInt32.toNat_ofNat']
    rfl
  have hsub : (UInt32.ofNat t / 1000 - UInt32.ofNat a / 1000).toNat =
      (2 ^ 32 - msCount a + msCount t) % 2 ^ 32 := by
    rw [UInt32.toNat_sub, hcount, hcount]
  have hzero : UInt32.ofNat a / 1000 ≠ 0 ↔ msCount a ≠ 0 := by
    rw [← hcount, not_iff_not, ← UInt32.toNat_inj]
    rfl
  have ha : msCount a ≤ 4294967 := by
    unfold msCount
    omega
  have ht : msCount t ≤ 4294967 := by
    unfold msCount
    omega
  rw [rejoinTooSoon, decide_eq_true_eq, h, hzero, UInt32.lt_iff_toNat_lt, hsub]
  apply and_congr_right
  intro _
  rw [show (60000 : UInt32).toNat = 60000 from rfl]
  omega

theorem ask_rejected (h : rejoinTooSoon (UInt32.ofNat q.time) { q.found.link with rejoinMs := ms } = true) :
    (q.ask w ms).link.rejoinMs = ms ∧ (q.ask w ms).link.step ≠ .leave := by
  have hask : q.ask w ms = { q.found with link := { q.found.link with rejoinMs := ms } } := by
    rw [RejoinRequest.ask, uartRejoin, if_neg (by rw [q.outside]; exact Bool.false_ne_true), if_pos h]
  have houtside := q.outside
  rw [hask]
  refine ⟨rfl, fun hleave => ?_⟩
  rw [show q.found.link.step = .leave from hleave] at houtside
  exact absurd houtside (by decide)

theorem ask_accepted (h : rejoinTooSoon (UInt32.ofNat q.time) { q.found.link with rejoinMs := ms } = false) :
    (q.ask w ms).link.rejoinMs = UInt32.ofNat q.time / 1000 ∧ (q.ask w ms).link.step = .leave := by
  have hdrop (h : Helmet) : (dropOnline h).link.rejoinMs = h.link.rejoinMs := by
    unfold dropOnline
    dsimp only
    split <;> rfl
  rw [RejoinRequest.ask, uartRejoin, if_neg (by rw [q.outside]; exact Bool.false_ne_true),
    if_neg (by rw [h]; exact Bool.false_ne_true)]
  dsimp only
  rw [leavePassthrough, link_shWisunArm]
  exact ⟨hdrop _, rfl⟩

end Request

section Runs

variable {w : World}

theorem ledger_concat (qs : List RejoinRequest) (q : RejoinRequest) :
    ledger w (qs ++ [q]) = askStep w (ledger w qs) q := by
  rw [ledger, List.foldl_append]
  rfl

theorem ledger_ms (qs : List RejoinRequest) :
    (ledger w qs).ms = ((ledger w qs).accepted.head?.map (fun a => UInt32.ofNat a / 1000)).getD 0 := by
  induction qs using List.reverseRecOn with
  | nil => rfl
  | append_singleton qs q ih =>
    rw [ledger_concat, askStep]
    cases hsoon : rejoinTooSoon (UInt32.ofNat q.time) { q.found.link with rejoinMs := (ledger w qs).ms } with
    | true =>
      obtain ⟨hms, hstep⟩ := ask_rejected w q _ hsoon
      simp only [if_neg hstep, hms]
      exact ih
    | false =>
      obtain ⟨hms, hstep⟩ := ask_accepted w q _ hsoon
      simp only [if_pos hstep, hms]
      rfl

theorem accepted_iff {qs : List RejoinRequest} {a : ℕ} (ha : (ledger w qs).accepted.head? = some a)
    (q : RejoinRequest) :
    (ledger w (qs ++ [q])).accepted = q.time :: (ledger w qs).accepted ↔
      ¬(msCount a ≠ 0 ∧ msCount a ≤ msCount q.time ∧ msCount q.time < msCount a + 60000) := by
  have hms := ledger_ms (w := w) qs
  rw [ha] at hms
  rw [← rejoinTooSoon_iff a q.time { q.found.link with rejoinMs := (ledger w qs).ms } hms, ledger_concat, askStep]
  cases hsoon : rejoinTooSoon (UInt32.ofNat q.time) { q.found.link with rejoinMs := (ledger w qs).ms } with
  | true =>
    simp only [if_neg (ask_rejected w q _ hsoon).2, not_true_eq_false, iff_false]
    exact (List.cons_ne_self _ _).symm
  | false => simp [if_pos (ask_accepted w q _ hsoon).2]

theorem accepted_concat (qs : List RejoinRequest) (q : RejoinRequest) :
    (ledger w (qs ++ [q])).accepted = q.time :: (ledger w qs).accepted ∨
      (ledger w (qs ++ [q])).accepted = (ledger w qs).accepted := by
  rw [ledger_concat, askStep]
  dsimp only
  split
  · exact Or.inl rfl
  · exact Or.inr rfl

theorem accepted_suffix (qs later : List RejoinRequest) :
    (ledger w qs).accepted <:+ (ledger w (qs ++ later)).accepted := by
  induction later using List.reverseRecOn with
  | nil => rw [List.append_nil]
  | append_singleton later q ih =>
    rw [← List.append_assoc]
    rcases accepted_concat (w := w) (qs ++ later) q with h | h
    · rw [h]
      exact ih.trans (List.suffix_cons _ _)
    · rw [h]
      exact ih

theorem mem_times (qs : List RejoinRequest) : ∀ a ∈ (ledger w qs).accepted, ∃ q ∈ qs, q.time = a := by
  induction qs using List.reverseRecOn with
  | nil => exact fun a ha => absurd ha List.not_mem_nil
  | append_singleton qs q ih =>
    intro a ha
    rcases accepted_concat (w := w) qs q with h | h
    · rw [h, List.mem_cons] at ha
      rcases ha with rfl | ha
      · exact ⟨q, List.mem_concat_self, rfl⟩
      · obtain ⟨p, hp, htime⟩ := ih a ha
        exact ⟨p, List.mem_append_left _ hp, htime⟩
    · rw [h] at ha
      obtain ⟨p, hp, htime⟩ := ih a ha
      exact ⟨p, List.mem_append_left _ hp, htime⟩

end Runs

theorem clockAgrees_iff {a t : ℕ} (hle : a ≤ t) :
    ClockAgrees a t ↔
      (¬(msCount a ≠ 0 ∧ msCount a ≤ msCount t ∧ msCount t < msCount a + 60000) ↔ a + minuteUs ≤ t) := by
  unfold ClockAgrees
  split_ifs with hsoon
  · -- Within a minute the count falls only across a wrap.
    have hepoch : t / 2 ^ 32 = a / 2 ^ 32 ↔ msCount a ≤ msCount t := by
      unfold msCount
      simp only [minuteUs] at hsoon
      omega
    rw [hepoch, iff_false_intro (not_le.mpr hsoon), iff_false, not_not]
    tauto
  · rw [iff_true_intro (not_lt.mp hsoon), iff_true]
    omega

/-- The limit holds exactly when the clock agrees at every request. -/
theorem rejoin_limited_iff (w : World) (qs : List RejoinRequest)
    (hsorted : qs.Pairwise (fun q q' => q.time ≤ q'.time)) :
    Limited w qs ↔ ∀ before q later, qs = before ++ q :: later →
      ∀ a, (ledger w before).accepted.head? = some a → ClockAgrees a q.time := by
  have horder {before later : List RejoinRequest} {q : RejoinRequest} (hqs : qs = before ++ q :: later) {a : ℕ}
      (ha : (ledger w before).accepted.head? = some a) : a ≤ q.time := by
    obtain ⟨p, hp, htime⟩ := mem_times (w := w) before a (List.mem_of_mem_head? ha)
    rw [hqs, List.pairwise_append] at hsorted
    exact htime ▸ hsorted.2.2 p hp q List.mem_cons_self
  constructor
  · intro h before q later hqs a ha
    rw [clockAgrees_iff (horder hqs ha), ← accepted_iff ha]
    constructor
    · intro haccept
      have hsuffix := accepted_suffix (w := w) (before ++ [q]) later
      rw [List.append_assoc, List.singleton_append, ← hqs, haccept] at hsuffix
      have hpairs := h.apart.sublist hsuffix.sublist
      exact (List.pairwise_cons.mp hpairs).1 a (List.mem_of_mem_head? ha)
    · exact h.granted before q later hqs a ha
  · intro h
    have hdecided (before : List RejoinRequest) (q : RejoinRequest) (later : List RejoinRequest)
        (hqs : qs = before ++ q :: later)
        (a : ℕ) (ha : (ledger w before).accepted.head? = some a) :
        (ledger w (before ++ [q])).accepted = q.time :: (ledger w before).accepted ↔ a + minuteUs ≤ q.time := by
      rw [accepted_iff ha, ← clockAgrees_iff (horder hqs ha)]
      exact h before q later hqs a ha
    refine ⟨?_, fun before q later hqs a ha => (hdecided before q later hqs a ha).mpr⟩
    have hprefix (before later : List RejoinRequest) (hqs : qs = before ++ later) :
        (ledger w before).accepted.Pairwise (fun t a => a + minuteUs ≤ t) := by
      induction before using List.reverseRecOn generalizing later with
      | nil => exact List.Pairwise.nil
      | append_singleton before q ih =>
        have hsplit : qs = before ++ q :: later := by rw [hqs, List.append_assoc, List.singleton_append]
        have hpairs := ih (q :: later) hsplit
        rcases accepted_concat (w := w) before q with haccept | hreject
        · rw [haccept, List.pairwise_cons]
          refine ⟨?_, hpairs⟩
          cases hlast : (ledger w before).accepted with
          | nil => exact fun a ha => absurd ha List.not_mem_nil
          | cons a older =>
            have hminute := (hdecided before q later hsplit a (by rw [hlast]; rfl)).mp haccept
            rw [hlast, List.pairwise_cons] at hpairs
            intro b hb
            rcases List.mem_cons.mp hb with rfl | hb
            · exact hminute
            · have := hpairs.1 b hb
              omega
        · rw [hreject]
          exact hpairs
    exact hprefix qs [] (List.append_nil qs).symm

def idleRequest (t : ℕ) : RejoinRequest := ⟨t, plainEnv, .boot, by decide⟩

theorem rejoin_limited_in_one_round : Limited plainWorld [idleRequest 1000000, idleRequest 61000000] := by
  refine (rejoin_limited_iff plainWorld _ (by decide)).mpr ?_
  rintro (_ | ⟨p, _ | ⟨p', before⟩⟩) q later hqs a ha
  · exact absurd ha (by simp [ledger])
  · obtain ⟨rfl, rfl, -⟩ : idleRequest 1000000 = p ∧ idleRequest 61000000 = q ∧ [] = later := by simpa using hqs
    have hfirst : (ledger plainWorld [idleRequest 1000000]).accepted = [1000000] := by decide
    rw [hfirst] at ha
    obtain rfl : 1000000 = a := by simpa using ha
    norm_num [ClockAgrees, msCount, idleRequest]
  · simp at hqs

/-- One second before the counter wraps and one second after. -/
theorem rejoin_accepted_across_wrap : ¬Limited plainWorld [idleRequest 4293967296, idleRequest 4295967296] := by
  intro h
  have hapart := h.apart
  have hledger : (ledger plainWorld [idleRequest 4293967296, idleRequest 4295967296]).accepted =
      [4295967296, 4293967296] := by decide
  rw [hledger] at hapart
  exact absurd hapart (by decide)

end SmartHelmet.Firmware
