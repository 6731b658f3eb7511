import Mathlib

/-!
The transitions between power states. A transition walks a table of steps, stops at a step
with a message to wait for, and goes on when that message comes. What the steps and the
handlers do is left to the caller; the output is newest first.
-/

namespace SmartHelmet.Power

inductive SystemState where
  | poweredOff | initialisation | initialised | startingUp | limbo | poweringOn | active | poweringOff
  | goingToSleep | sleeping | shuttingDown | shuttingDownPromptly
  deriving DecidableEq

structure TransitionStep (α μ : Type) where
  step : α
  asyncMessageId : Option μ
  asyncHandler : Option α
  deriving DecidableEq

inductive SystemOut (α : Type) where
  | changed (old new : SystemState)
  | ran (a : α)
  deriving DecidableEq

/-- The registered tables; one that was never registered is empty. -/
structure TransitionTables (α μ : Type) where
  startup : List (TransitionStep α μ)
  powerOn : List (TransitionStep α μ)
  powerOff : List (TransitionStep α μ)
  sleep : List (TransitionStep α μ)
  shutdown : List (TransitionStep α μ)
  emergencyShutdown : List (TransitionStep α μ)

/-- `overrun` is set where the source would read behind the end of a table. -/
structure SystemCtx (α μ : Type) where
  state : SystemState
  isLimboRemoved : Bool
  transition : List (TransitionStep α μ)
  index : ℕ
  stateOnCompletition : SystemState
  tables : TransitionTables α μ
  overrun : Bool
  out : List (SystemOut α)

variable {α μ : Type}

def SystemCtx.note (o : SystemOut α) (c : SystemCtx α μ) : SystemCtx α μ := { c with out := o :: c.out }

def systemStateSetState (new : SystemState) (c : SystemCtx α μ) : SystemCtx α μ :=
  SystemCtx.note (.changed c.state new) { c with state := new }

/-- The index is an unsigned word: the start value -1 becomes 0. -/
def nextIndex (index : ℕ) : ℕ := (index + 1) % 2 ^ 32

def walkSteps : List (TransitionStep α μ) → SystemCtx α μ → SystemCtx α μ
  | [], c => systemStateSetState c.stateOnCompletition c
  | s :: rest, c =>
    if s.asyncMessageId.isSome then c.note (.ran s.step)
    else walkSteps rest { c.note (.ran s.step) with index := nextIndex c.index }

def systemStateDoTransition (table : List (TransitionStep α μ)) (c : SystemCtx α μ) : SystemCtx α μ :=
  walkSteps (table.drop (nextIndex c.index)) { c with index := nextIndex c.index }

inductive Reception (α : Type) where
  | ignored | overrun
  | accepted (handler : Option α)

/-- What a message to the transition task leads to; an accepted one runs its handler, and then
the transition goes on. -/
def systemStateReceive [DecidableEq μ] (id : μ) (c : SystemCtx α μ) : Reception α :=
  if c.transition.isEmpty then .ignored
  else
    match c.transition[c.index]? with
    | none => .overrun
    | some s => if s.asyncMessageId = some id then .accepted s.asyncHandler else .ignored

def systemStateSetupCurrentTransition (table : List (TransitionStep α μ)) (stateOnCompletition : SystemState)
    (c : SystemCtx α μ) : SystemCtx α μ :=
  { c with transition := table, index := 2 ^ 32 - 1, stateOnCompletition := stateOnCompletition }

def systemStateInitiateTransiton (start : List SystemState) (transitional final : SystemState)
    (table : List (TransitionStep α μ)) (c : SystemCtx α μ) : SystemCtx α μ :=
  if c.state ∈ start then
    systemStateDoTransition table (systemStateSetupCurrentTransition table final (systemStateSetState transitional c))
  else c

def systemStateStartUp (c : SystemCtx α μ) : SystemCtx α μ :=
  systemStateInitiateTransiton [.initialised] .startingUp (if c.isLimboRemoved then .active else .limbo)
    c.tables.startup c

def systemStatePowerOn (c : SystemCtx α μ) : SystemCtx α μ :=
  if c.isLimboRemoved then c
  else systemStateInitiateTransiton [.poweringOff, .limbo] .poweringOn .active c.tables.powerOn c

def systemStatePowerOff (c : SystemCtx α μ) : SystemCtx α μ :=
  if c.isLimboRemoved then c
  else systemStateInitiateTransiton [.poweringOn, .active] .poweringOff .limbo c.tables.powerOff c

def systemStateSleep (c : SystemCtx α μ) : SystemCtx α μ :=
  systemStateInitiateTransiton [if c.isLimboRemoved then .active else .limbo] .goingToSleep .sleeping c.tables.sleep c

def systemStateShutdown (c : SystemCtx α μ) : SystemCtx α μ :=
  systemStateInitiateTransiton [if c.isLimboRemoved then .active else .limbo] .shuttingDown .poweredOff
    c.tables.shutdown c

def systemStateEmergencyShutdown (c : SystemCtx α μ) : SystemCtx α μ :=
  systemStateDoTransition c.tables.emergencyShutdown
    (systemStateSetupCurrentTransition c.tables.emergencyShutdown .poweredOff
      (systemStateSetState .shuttingDownPromptly c))

end SmartHelmet.Power
