import SmartHelmet.LinkCommands

/-!
What the link is for, seen from the module: it is told `exit` or `+++`, and payload may
follow only the second. The moves say everything that the firmware can do to this view.
-/

namespace SmartHelmet.Firmware

inductive Mode where
  | exit | pass
  deriving DecidableEq

structure Phase where
  passthrough : Bool
  step : Step
  ticking : Bool
  told : Option Mode
  misdirected : Bool

namespace Phase

def armed (a : Phase) : Phase := { a with ticking := true }

/-- One move of the link. A late `send ok` is taken in the phases that `allowed` admits. -/
inductive Move (allowed : Phase → Prop) : Phase → Phase → Prop
  | command {a : Phase} (s : Step) (ticking : Bool) (told : Option Mode) (hs : s ≠ .pass) :
    Move allowed a { a with passthrough := false, step := s, ticking := ticking, told := told }
  | enter {a : Phase} :
    Move allowed a { a with passthrough := false, step := .pass, told := some .pass }
  | stop {a : Phase} (ticking : Bool) : Move allowed a { a with passthrough := false, ticking := ticking }
  | reject {a : Phase} : Move allowed a { a with passthrough := false, step := .done }
  | accept {a : Phase} (hs : a.step = .pass) :
    Move allowed a { a with passthrough := true, step := .done, ticking := true }
  | lateOk {a : Phase} (hs : a.step.rejoins = true) (ha : allowed a) :
    Move allowed a { a with passthrough := true, step := .done }
  | tick {a : Phase} : Move allowed a a.armed
  | payload {a : Phase} (hp : a.passthrough = true) :
    Move allowed a { a with misdirected := a.misdirected || decide (a.told ≠ some .pass) }

variable {allowed : Phase → Prop} {a b : Phase}

theorem path_keeps {P : Phase → Prop} (hmove : ∀ a b, Move allowed a b → P a → P b)
    (hpath : Relation.ReflTransGen (Move allowed) a b) (ha : P a) : P b := by
  induction hpath with
  | refl => exact ha
  | tail _ hlast ih => exact hmove _ _ hlast ih

def Settled (a : Phase) : Prop := a.passthrough = true → a.step = .done

def Reporting (a : Phase) : Prop := a.passthrough = true → a.ticking = true

structure Told (a : Phase) : Prop where
  flag : a.passthrough = true → a.told = some .pass
  entering : a.step = .pass → a.told = some .pass
  aimed : a.misdirected = false

theorem Move.settled (hm : Move allowed a b) (ha : a.Settled) : b.Settled := by
  intro hb
  cases hm with
  | command | enter | stop | reject => cases hb
  | accept | lateOk => rfl
  | tick | payload => exact ha hb

theorem Move.reporting (hallowed : ∀ a, allowed a → a.ticking = true) (hm : Move allowed a b)
    (ha : a.Reporting) : b.Reporting := by
  intro hb
  cases hm with
  | command | enter | stop | reject => cases hb
  | accept | tick => rfl
  | lateOk hs hok => exact hallowed a hok
  | payload => exact ha hb

theorem Move.told (hallowed : ∀ a, allowed a → a.step = .pass) (hm : Move allowed a b)
    (ha : a.Told) : b.Told := by
  cases hm with
  | command s ticking told hs => exact ⟨by simp, fun h => absurd h hs, ha.aimed⟩
  | enter => exact ⟨by simp, fun _ => rfl, ha.aimed⟩
  | stop => exact ⟨by simp, ha.entering, ha.aimed⟩
  | reject => exact ⟨by simp, by simp, ha.aimed⟩
  | accept hs => exact ⟨fun _ => ha.entering hs, by simp, ha.aimed⟩
  | lateOk hs hok => exact ⟨fun _ => ha.entering (hallowed a hok), by simp, ha.aimed⟩
  | tick => exact ⟨ha.flag, ha.entering, ha.aimed⟩
  | payload hp =>
    -- The flag was set, so the last command was `+++`.
    have hmode := ha.flag hp
    exact ⟨ha.flag, ha.entering, by simp [ha.aimed, hmode]⟩

end Phase

end SmartHelmet.Firmware
