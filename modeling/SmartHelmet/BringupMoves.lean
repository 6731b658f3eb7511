import SmartHelmet.LinkReceive

namespace SmartHelmet.Firmware

open MachineArith

structure Bringup where
  task : Bool
  step : Step
  next : Step
  tries : ℕ
  resetSeen : Bool
  provDone : Bool
  provQ : List String
  provI : ℕ
  atIdx : ℕ
  atPass : ℕ
  atFail : ℕ
  atOk : Bool
  retry : ℕ
  asm : List UInt8
  checks : ℕ
  resets : ℕ

def isRestart (frame : List UInt8) : Bool :=
  decide (frame = commandFrame "reset" ∨ frame = commandFrame "svrst")

namespace Bringup

/-- The expired checks, whether the last step was reached, the probes with their results, and
the bytes received since the module was last told to restart. -/
structure Record where
  expiries : ℕ
  reached : Bool
  probes : List (ℕ × Bool)
  heard : List UInt8

def Record.expire (g : Record) : Record := { g with expiries := g.expiries + 1 }

def arm (b : Bringup) : Bringup := { b with checks := if b.task then 1 else b.checks }

def ask (step : Step) (b : Bringup) : Bringup := arm { b with asm := [], step := step }

def leave (next : Step) (b : Bringup) : Bringup := arm { b with next := next, step := .leave }

def finish (b : Bringup) : Bringup :=
  leave .dest { b with atOk := decide (b.atFail = 0 ∧ b.atPass > 0) && b.resetSeen, asm := [] }

def probed (pass : Bool) (b : Bringup) : Bringup :=
  { b with
    atPass := if pass then incSat 0xff b.atPass else b.atPass
    atFail := if pass then b.atFail else incSat 0xff b.atFail
    atIdx := b.atIdx + 1 }

inductive Move (b : Bringup) (g : Record) : Bringup → Record → Prop
  -- received bytes
  | hear (chunk : List UInt8) :
    Move b g { b with asm := b.asm ++ chunk.take (rxBufSize - b.asm.length) }
      { g with heard := g.heard ++ chunk }
  | rejoin (hs : b.step.rejoins = false) : Move b g (leave .dest b) g
  | sendOk (hs : b.step.rejoins = false) : Move b g { b with retry := 0 } g
  | lateOk (hs : b.step.rejoins = true) :
    Move b g { b with retry := 0, step := .done } { g with reached := true }
  | tooLong (hs : b.step = .done ∨ b.step = .idle) (hretry : b.retry < 2) :
    Move b g (leave .dest { b with retry := b.retry + 1 }) g
  | banner (hs : b.step = .reset) (hasm : shContainsFold b.asm "Router start" = true) :
    Move b g (arm { b with resetSeen := true }) g
  | settle : Move b g (arm b) g
  -- expired checks
  | idle (hs : b.step = .idle ∨ b.step = .done) (checks : ℕ) : Move b g { b with checks := checks } g.expire
  | leaveReset (hs : b.step = .leave) (hnext : b.next = .reset) :
    Move b g (ask .reset { b with tries := 0, resetSeen := false }) g.expire
  | leaveDest (hs : b.step = .leave) (hnext : b.next ≠ .reset) : Move b g (ask .dest b) g.expire
  | enter (hs : b.step = .dest) : Move b g (ask .pass b) g.expire
  | passAgain (hs : b.step = .pass) (hretry : b.retry < 2) :
    Move b g (leave .dest { b with retry := b.retry + 1, asm := [] }) g.expire
  | passDone (hs : b.step = .pass) (checks : ℕ) :
    Move b g { b with step := .done, checks := checks } { g.expire with reached := true }
  | resetAgain (hs : b.step = .reset) (hseen : b.resetSeen = false) (htries : b.tries < 2) :
    Move b g (ask .reset { b with tries := b.tries + 1, resets := b.resets + 1 })
      { g.expire with heard := [] }
  | resetFail (hs : b.step = .reset) :
    Move b g (finish { b with atFail := u8 (b.atFail + 1) }) g.expire
  | provRead (hs : b.step = .reset) (hdone : b.provDone = false) : Move b g (ask .provRead b) g.expire
  | probeFirst (hs : b.step = .reset) (hdone : b.provDone = true) :
    Move b g (ask .cmd { b with atIdx := 0 }) g.expire
  | provMatched (hs : b.step = .provRead) :
    Move b g (ask .cmd { b with provQ := [], provI := 0, provDone := true, atIdx := 0 }) g.expire
  | provPlan (hs : b.step = .provRead) (q : List String) (hne : q ≠ []) (hlen : q.length ≤ 8)
      (hq : ∀ cmd ∈ q, isRestart (commandFrame cmd) = false) :
    Move b g (ask .provSet { b with provQ := q, provI := 0 }) g.expire
  | provNext (hs : b.step = .provSet) (hi : b.provI ≠ 0xff) (hlt : b.provI + 1 < b.provQ.length) :
    Move b g (ask .provSet { b with provI := b.provI + 1 }) g.expire
  | provSave (hs : b.step = .provSet) (hi : b.provI ≠ 0xff) :
    Move b g (ask .provSet { b with provI := 0xff }) g.expire
  | provReset (hs : b.step = .provSet) (hi : b.provI = 0xff) :
    Move b g (ask .reset { b with provDone := true, resetSeen := false, resets := b.resets + 1 })
      { g.expire with heard := [] }
  | probeNext (hs : b.step = .cmd) (pass : Bool) (hlt : b.atIdx + 1 < shAtCmds.length) :
    Move b g (ask .cmd (probed pass b)) { g.expire with probes := g.probes ++ [(b.atIdx, pass)] }
  | probeLast (hs : b.step = .cmd) (pass : Bool) (hle : shAtCmds.length ≤ b.atIdx + 1) :
    Move b g (finish (probed pass b)) { g.expire with probes := g.probes ++ [(b.atIdx, pass)] }

variable {b b' : Bringup} {g g' : Record}

structure Armed (b : Bringup) : Prop where
  task : b.task = true
  started : b.step ≠ .idle
  pending : b.step ≠ .done → b.checks = 1

theorem armed_arm (ht : b.task = true) (hs : b.step ≠ .idle) : Armed (arm b) :=
  ⟨ht, hs, fun _ => if_pos ht⟩

theorem armed_ask {s : Step} (ht : b.task = true) (hs : s ≠ .idle) : Armed (ask s b) :=
  armed_arm ht hs

theorem armed_leave {s : Step} (ht : b.task = true) : Armed (leave s b) :=
  armed_arm ht Step.noConfusion

theorem Move.armed (hm : Move b g b' g') (hb : Armed b) : Armed b' := by
  cases hm with
  | hear | sendOk => exact ⟨hb.task, hb.started, hb.pending⟩
  | lateOk | passDone => exact ⟨hb.task, Step.noConfusion, fun h => absurd rfl h⟩
  | rejoin | tooLong | passAgain => exact armed_leave hb.task
  | resetFail | probeLast => exact armed_leave hb.task
  | banner | settle => exact armed_arm hb.task hb.started
  | idle hs =>
    have hdone := hs.resolve_left hb.started
    exact ⟨hb.task, hb.started, fun h => absurd hdone h⟩
  | _ => exact armed_ask hb.task Step.noConfusion

structure Indexed (b : Bringup) : Prop where
  at_lt : b.step = .cmd → b.atIdx < shAtCmds.length
  prov_lt : b.step = .provSet → (b.provI < b.provQ.length ∧ b.provQ.length ≤ 8) ∨ b.provI = 0xff
  provQ : ∀ cmd ∈ b.provQ, isRestart (commandFrame cmd) = false
  retry : b.retry ≤ 2

theorem indexed_ask {s : Step} (hcmd : s ≠ .cmd) (hprov : s ≠ .provSet)
    (hq : ∀ cmd ∈ b.provQ, isRestart (commandFrame cmd) = false) (hretry : b.retry ≤ 2) :
    Indexed (ask s b) :=
  ⟨fun h => absurd h hcmd, fun h => absurd h hprov, hq, hretry⟩

theorem indexed_leave {s : Step} (hq : ∀ cmd ∈ b.provQ, isRestart (commandFrame cmd) = false)
    (hretry : b.retry ≤ 2) : Indexed (leave s b) :=
  ⟨Step.noConfusion, Step.noConfusion, hq, hretry⟩

theorem indexed_probe (hlt : b.atIdx < shAtCmds.length)
    (hq : ∀ cmd ∈ b.provQ, isRestart (commandFrame cmd) = false) (hretry : b.retry ≤ 2) :
    Indexed (ask .cmd b) :=
  ⟨fun _ => hlt, Step.noConfusion, hq, hretry⟩

theorem Move.indexed (hm : Move b g b' g') (hb : Indexed b) : Indexed b' := by
  have hq := hb.provQ
  have hretry := hb.retry
  have hfirst : 0 < shAtCmds.length := by decide
  cases hm with
  | hear | banner | settle | idle => exact ⟨hb.at_lt, hb.prov_lt, hq, hretry⟩
  | sendOk => exact ⟨hb.at_lt, hb.prov_lt, hq, Nat.zero_le 2⟩
  | lateOk => exact ⟨Step.noConfusion, Step.noConfusion, hq, Nat.zero_le 2⟩
  | passDone => exact ⟨Step.noConfusion, Step.noConfusion, hq, hretry⟩
  | rejoin | resetFail | probeLast => exact indexed_leave hq hretry
  | tooLong _ hlt | passAgain _ hlt => exact indexed_leave hq hlt
  | probeFirst => exact indexed_probe hfirst hq hretry
  | provMatched => exact indexed_probe hfirst (by simp) hretry
  | probeNext _ _ hlt => exact indexed_probe hlt hq hretry
  | provPlan _ q hne hlen hquiet =>
    exact ⟨Step.noConfusion, fun _ => Or.inl ⟨List.length_pos_of_ne_nil hne, hlen⟩, hquiet, hretry⟩
  | provNext hs hi hlt =>
    refine ⟨Step.noConfusion, fun _ => Or.inl ⟨hlt, ?_⟩, hq, hretry⟩
    exact ((hb.prov_lt hs).resolve_right hi).2
  | provSave => exact ⟨Step.noConfusion, fun _ => Or.inr rfl, hq, hretry⟩
  | _ => exact indexed_ask Step.noConfusion Step.noConfusion hq hretry

structure Hearing (b : Bringup) (g : Record) : Prop where
  asm : ∃ since, since <:+ g.heard ∧ b.asm = since.take rxBufSize
  seen : b.resetSeen = true → shContainsFold g.heard "Router start" = true

theorem hearing_cleared (hasm : b.asm = []) (hseen : b.resetSeen = true → shContainsFold g.heard "Router start" = true) :
    Hearing b g :=
  ⟨⟨[], List.nil_suffix, hasm⟩, hseen⟩

theorem heard_of_part {part heard : List UInt8} (hpart : part <:+: heard)
    (h : shContainsFold part "Router start" = true) : shContainsFold heard "Router start" = true :=
  shContainsFold_of_part (by decide) hpart h

theorem Hearing.part (hb : Hearing b g) : b.asm <:+: g.heard := by
  obtain ⟨since, hsuffix, hasm⟩ := hb.asm
  rw [hasm]
  exact (List.take_prefix _ _).isInfix.trans hsuffix.isInfix

theorem Move.hearing (hm : Move b g b' g') (hb : Hearing b g) : Hearing b' g' := by
  cases hm with
  | hear chunk =>
    obtain ⟨since, ⟨older, hheard⟩, hasm⟩ := hb.asm
    refine ⟨⟨since ++ chunk, ⟨older, ?_⟩, ?_⟩, fun hseen => ?_⟩
    · rw [← hheard, List.append_assoc]
    · have hroom : rxBufSize - (since.take rxBufSize).length = rxBufSize - since.length := by
        rw [List.length_take]
        omega
      dsimp only
      rw [hasm, hroom, List.take_append]
    · exact heard_of_part ⟨[], chunk, rfl⟩ (hb.seen hseen)
  | banner _ hasm => exact ⟨hb.asm, fun _ => heard_of_part hb.part hasm⟩
  | rejoin | sendOk | lateOk | tooLong | settle | idle | passDone => exact ⟨hb.asm, hb.seen⟩
  | leaveReset | provReset => exact hearing_cleared rfl fun h => absurd h Bool.false_ne_true
  | resetAgain _ hseen => exact hearing_cleared rfl fun h => absurd (hseen.symm.trans h) Bool.false_ne_true
  | _ => exact hearing_cleared rfl hb.seen

def early (b : Bringup) : Prop :=
  b.step = .reset ∨ b.step = .provRead ∨ b.step = .provSet ∨ (b.step = .leave ∧ b.next = .reset)

def allPassed : List (ℕ × Bool) := (List.range shAtCmds.length).map fun i => (i, true)

structure Counted (b : Bringup) (g : Record) : Prop where
  early : b.early → g.probes = [] ∧ b.atFail = 0 ∧ b.atOk = false
  probing : b.step = .cmd → g.probes.map Prod.fst = List.range b.atIdx ∧
    (b.atFail = 0 → ∀ p ∈ g.probes, p.2 = true) ∧ b.atOk = false
  ok : b.atOk = true → g.probes = allPassed ∧ shContainsFold g.heard "Router start" = true

theorem eq_allPassed {ps : List (ℕ × Bool)} (hfst : ps.map Prod.fst = List.range shAtCmds.length)
    (hsnd : ∀ p ∈ ps, p.2 = true) : ps = allPassed := by
  unfold allPassed
  rw [← hfst, List.map_map]
  refine (List.map_id ps).symm.trans (List.map_congr_left fun p hp => ?_)
  exact Prod.ext rfl (hsnd p hp)

theorem probes_concat (pass : Bool) (hprobing : g.probes.map Prod.fst = List.range b.atIdx ∧
      (b.atFail = 0 → ∀ p ∈ g.probes, p.2 = true)) :
    (g.probes ++ [(b.atIdx, pass)]).map Prod.fst = List.range (b.atIdx + 1) ∧
      ((probed pass b).atFail = 0 → ∀ p ∈ g.probes ++ [(b.atIdx, pass)], p.2 = true) := by
  constructor
  · rw [List.map_append, hprobing.1, List.range_succ]
    rfl
  · cases pass with
    | true =>
      intro hfail p hp
      obtain hp | hp := List.mem_append.mp hp
      · exact hprobing.2 hfail p hp
      · rw [List.mem_singleton.mp hp]
    | false =>
      intro hfail
      have hinc : incSat 0xff b.atFail ≠ 0 := by
        unfold incSat
        split <;> omega
      exact absurd hfail hinc

theorem counted_late (hs : b.step ≠ .cmd) (hearly : ¬ b.early)
    (hok : b.atOk = true → g.probes = allPassed ∧ shContainsFold g.heard "Router start" = true) : Counted b g :=
  ⟨fun h => absurd h hearly, fun h => absurd h hs, hok⟩

theorem not_early_leave : ¬ (leave .dest b).early := by
  rintro (h | h | h | ⟨_, h⟩) <;> cases h

theorem counted_leave
    (hok : b.atOk = true → g.probes = allPassed ∧ shContainsFold g.heard "Router start" = true) :
    Counted (leave .dest b) g :=
  counted_late Step.noConfusion not_early_leave hok

theorem counted_early (hs : b.step ≠ .cmd) (h : g.probes = [] ∧ b.atFail = 0 ∧ b.atOk = false) : Counted b g :=
  ⟨fun _ => h, fun h => absurd h hs, fun hok => absurd (h.2.2.symm.trans hok) Bool.false_ne_true⟩

theorem counted_probe (h : g.probes.map Prod.fst = List.range b.atIdx ∧
    (b.atFail = 0 → ∀ p ∈ g.probes, p.2 = true)) (hok : b.atOk = false) : Counted (ask .cmd b) g := by
  refine ⟨fun he => ?_, fun _ => ⟨h.1, h.2, hok⟩, fun hok' => absurd (hok.symm.trans hok') Bool.false_ne_true⟩
  obtain he | he | he | ⟨he, _⟩ := he <;> cases he

theorem counted_first (h : g.probes = [] ∧ b.atFail = 0 ∧ b.atOk = false) (hidx : b.atIdx = 0) :
    Counted (ask .cmd b) g := by
  apply counted_probe
  · rw [h.1, hidx]
    exact ⟨rfl, fun _ _ hp => absurd hp List.not_mem_nil⟩
  · exact h.2.2

theorem Move.counted (hm : Move b g b' g') (hi : Indexed b) (hh : Hearing b g) (hb : Counted b g) :
    Counted b' g' := by
  cases hm with
  | hear chunk =>
    refine ⟨hb.early, hb.probing, fun hok => ⟨(hb.ok hok).1, ?_⟩⟩
    exact heard_of_part ⟨[], chunk, rfl⟩ (hb.ok hok).2
  | sendOk | banner | settle | idle => exact ⟨hb.early, hb.probing, hb.ok⟩
  | rejoin | tooLong | passAgain => exact counted_leave hb.ok
  | lateOk | passDone =>
    refine counted_late Step.noConfusion ?_ hb.ok
    rintro (h | h | h | ⟨h, _⟩) <;> cases h
  | leaveReset hs hnext =>
    exact counted_early Step.noConfusion (hb.early (Or.inr (Or.inr (Or.inr ⟨hs, hnext⟩))))
  | leaveDest | enter =>
    refine counted_late Step.noConfusion ?_ hb.ok
    rintro (h | h | h | ⟨h, _⟩) <;> cases h
  | resetAgain hs | provRead hs => exact counted_early Step.noConfusion (hb.early (Or.inl hs))
  | provPlan hs => exact counted_early Step.noConfusion (hb.early (Or.inr (Or.inl hs)))
  | provNext hs | provSave hs | provReset hs =>
    exact counted_early Step.noConfusion (hb.early (Or.inr (Or.inr (Or.inl hs))))
  | probeFirst hs => exact counted_first (b := { b with atIdx := 0 }) (hb.early (Or.inl hs)) rfl
  | provMatched hs =>
    exact counted_first (b := { b with provQ := [], provI := 0, provDone := true, atIdx := 0 })
      (hb.early (Or.inr (Or.inl hs))) rfl
  | resetFail hs =>
    apply counted_leave
    intro hok
    -- the failed reset is counted, so `at_ok` cannot be set
    rw [(hb.early (Or.inl hs)).2.1] at hok
    exact absurd hok (by simp [u8])
  | probeNext hs pass _ =>
    obtain ⟨hfst, hall, hok⟩ := hb.probing hs
    exact counted_probe (b := probed pass b) (probes_concat pass ⟨hfst, hall⟩) hok
  | probeLast hs pass hle =>
    obtain ⟨hfst, hall, _⟩ := hb.probing hs
    obtain ⟨hfst', hall'⟩ := probes_concat pass ⟨hfst, hall⟩
    have hlast : b.atIdx + 1 = shAtCmds.length := le_antisymm (hi.at_lt hs) hle
    apply counted_leave
    intro hok
    obtain ⟨htally, hseen⟩ := Bool.and_eq_true_iff.mp hok
    exact ⟨eq_allPassed (hlast ▸ hfst') (hall' (of_decide_eq_true htally).1), hh.seen hseen⟩

def rank (b : Bringup) : ℕ :=
  match b.step with
  | .leave => if b.next = .reset then 37 else 3 * (3 - b.retry)
  | .dest => 3 * (3 - b.retry) - 1
  | .pass => 3 * (3 - b.retry) - 2
  | .cmd => 22 - b.atIdx
  | .reset => (if b.provDone then 23 else 34) + (2 - b.tries)
  | .provRead => 33 + (2 - b.tries)
  | .provSet => 24 + (2 - b.tries) + if b.provI = 0xff then 0 else b.provQ.length - b.provI
  | .done => 0
  | .idle => 0

def Within (b : Bringup) (g : Record) : Prop :=
  g.reached = false → b.step ≠ .done ∧ g.expiries + b.rank ≤ 37

theorem rank_leave : (leave .dest b).rank = 3 * (3 - b.retry) := rfl

theorem le_rank (hi : Indexed b) (hs : b.step.rejoins = false) (hstarted : b.step ≠ .idle) (hdone : b.step ≠ .done) :
    9 ≤ b.rank := by
  have hat := hi.at_lt
  have hlen : shAtCmds.length = 13 := rfl
  unfold rank
  cases hstep : b.step with
  | idle => exact absurd hstep hstarted
  | done => exact absurd hstep hdone
  | leave | dest | pass =>
    rw [hstep] at hs
    exact absurd hs (by decide)
  | cmd =>
    have := hat hstep
    dsimp only
    omega
  | reset =>
    dsimp only
    split <;> omega
  | provRead => exact Nat.le_add_right_of_le (by decide)
  | provSet =>
    dsimp only
    omega

theorem within_expire {heard : List UInt8} {probes : List (ℕ × Bool)} (hb : Within b g)
    (hs : b'.step ≠ .done) (hrank : b'.rank < b.rank) :
    Within b' { g.expire with heard := heard, probes := probes } := by
  intro hr
  have hle := (hb hr).2
  refine ⟨hs, ?_⟩
  simp only [Record.expire]
  omega

theorem Move.within (hm : Move b g b' g') (ha : Armed b) (hi : Indexed b) (hb : Within b g) : Within b' g' := by
  have hretry := hi.retry
  have hlen : shAtCmds.length = 13 := rfl
  cases hm with
  | hear | banner | settle => exact hb
  | sendOk hs =>
    intro hr
    refine ⟨(hb hr).1, le_of_eq_of_le (congrArg (g.expiries + ·) ?_) (hb hr).2⟩
    unfold rank
    dsimp only
    cases hstep : b.step with
    | leave | dest | pass =>
      rw [hstep] at hs
      exact absurd hs (by decide)
    | _ => rfl
  | lateOk | passDone => exact fun hr => absurd hr.symm Bool.false_ne_true
  | rejoin hs =>
    intro hr
    obtain ⟨hdone, hle⟩ := hb hr
    have hnine := le_rank hi hs ha.started hdone
    refine ⟨Step.noConfusion, ?_⟩
    rw [rank_leave]
    omega
  | tooLong hs _ =>
    intro hr
    exact absurd (hs.resolve_right ha.started) (hb hr).1
  | idle hs _ =>
    intro hr
    exact absurd (hs.resolve_left ha.started) (hb hr).1
  | leaveReset hs hnext =>
    have hb37 : b.rank = 37 := by simp only [rank, hs, hnext, if_true]
    refine within_expire hb Step.noConfusion ?_
    rw [hb37]
    simp only [rank, ask, arm]
    split <;> omega
  | leaveDest hs hnext =>
    refine within_expire hb Step.noConfusion ?_
    simp only [rank, ask, arm, hs, hnext, if_false]
    omega
  | enter hs =>
    refine within_expire hb Step.noConfusion ?_
    simp only [rank, ask, arm, hs]
    omega
  | passAgain hs hlt =>
    refine within_expire hb Step.noConfusion ?_
    rw [rank_leave]
    simp only [rank, hs]
    omega
  | resetAgain hs _ htries =>
    refine within_expire hb Step.noConfusion ?_
    simp only [rank, ask, arm, hs]
    omega
  | resetFail hs =>
    refine within_expire hb Step.noConfusion ?_
    rw [finish, rank_leave]
    simp only [rank, hs]
    split <;> omega
  | provRead hs hdone =>
    refine within_expire hb Step.noConfusion ?_
    simp only [rank, ask, arm, hs, hdone, Bool.false_eq_true, if_false]
    omega
  | probeFirst hs hdone =>
    refine within_expire hb Step.noConfusion ?_
    simp only [rank, ask, arm, hs, hdone, if_true]
    omega
  | provMatched hs =>
    refine within_expire hb Step.noConfusion ?_
    simp only [rank, ask, arm, hs]
    omega
  | provPlan hs q hne hlen' _ =>
    have hzero : ¬ 0 = 0xff := by decide
    refine within_expire hb Step.noConfusion ?_
    simp only [rank, ask, arm, hs, if_neg hzero]
    omega
  | provNext hs hne hlt =>
    have hi8 := ((hi.prov_lt hs).resolve_right hne).2
    have hne' : b.provI + 1 ≠ 0xff := by omega
    refine within_expire hb Step.noConfusion ?_
    simp only [rank, ask, arm, hs, if_neg hne, if_neg hne']
    omega
  | provSave hs hne =>
    have hlt := ((hi.prov_lt hs).resolve_right hne).1
    refine within_expire hb Step.noConfusion ?_
    simp only [rank, ask, arm, hs, if_neg hne, if_true]
    omega
  | provReset hs hff =>
    refine within_expire hb Step.noConfusion ?_
    simp only [rank, ask, arm, hs, if_pos hff, if_true]
    omega
  | probeNext hs pass hlt =>
    refine within_expire hb Step.noConfusion ?_
    simp only [rank, ask, arm, probed, hs]
    omega
  | probeLast hs pass hle =>
    have hlt := hi.at_lt hs
    refine within_expire hb Step.noConfusion ?_
    rw [finish, rank_leave]
    simp only [rank, probed, hs]
    omega

structure Sound (b : Bringup) (g : Record) : Prop where
  armed : Armed b
  indexed : Indexed b
  hearing : Hearing b g
  counted : Counted b g
  within : Within b g

theorem Move.sound (hm : Move b g b' g') (h : Sound b g) : Sound b' g' where
  armed := hm.armed h.armed
  indexed := hm.indexed h.indexed
  hearing := hm.hearing h.hearing
  counted := hm.counted h.indexed h.hearing h.counted
  within := hm.within h.armed h.indexed h.within

def Path (p q : Bringup × Record) : Prop :=
  Relation.ReflTransGen (fun p q => Move p.1 p.2 q.1 q.2) p q

theorem Path.single {p q : Bringup × Record} (hm : Move p.1 p.2 q.1 q.2) : Path p q :=
  Relation.ReflTransGen.single hm

theorem Path.sound {p q : Bringup × Record} (hpath : Path p q) (h : Sound p.1 p.2) : Sound q.1 q.2 := by
  induction hpath with
  | refl => exact h
  | tail _ hm ih => exact hm.sound ih

theorem Move.resets (hm : Move b g b' g') :
    (g'.expiries = g.expiries ∧ b'.resets = b.resets) ∨ g'.expiries = g.expiries + 1 := by
  cases hm with
  | hear | rejoin | sendOk | lateOk | tooLong | banner | settle => exact Or.inl ⟨rfl, rfl⟩
  | _ => exact Or.inr rfl

theorem Path.resets {p q : Bringup × Record} (hpath : Path p q) :
    p.2.expiries ≤ q.2.expiries ∧ (q.2.expiries = p.2.expiries → q.1.resets = p.1.resets) := by
  induction hpath with
  | refl => exact ⟨le_refl _, fun _ => rfl⟩
  | tail _ hm ih =>
    obtain ⟨hexpiries, hresets⟩ | hexpiries := Move.resets hm
    · rw [hexpiries, hresets]
      exact ih
    · exact ⟨by omega, fun h => by omega⟩

end Bringup

end SmartHelmet.Firmware
