import Mathlib

/-!
The power manager: its clients are told to prepare before the chip shuts down or sleeps, and
the step is taken when the last of them has answered. The log is newest first.
-/

namespace SmartHelmet.Power

inductive PowerState where
  | init | ok | terminatingClientsNotified | terminatingClientsResponded
  | soporificClientsNotified | soporificClientsResponded
  deriving DecidableEq

inductive Flag where
  | allowSleep | shutdownPrepareResponsePending | sleepPrepareResponsePending
  deriving DecidableEq

inductive ClientMessage where
  | sleepPrepareInd | sleepCancelledInd | shutdownPrepareInd | shutdownCancelledInd | powerOn | powerOff
  deriving DecidableEq

/-- The calls the power manager takes; `handlePowerEvent` stands for the charger, battery and
temperature messages. -/
inductive Call (τ : Type) where
  | register (task : τ) | unregister (task : τ)
  | allowSleep (task : τ) | prohibitSleep (task : τ)
  | shutdownPrepareResponse (task : τ) | sleepPrepareResponse (task : τ)
  | offRequest | on | initComplete | handlePowerEvent
  deriving DecidableEq

inductive Entry (τ : Type) where
  | called (c : Call τ)
  | send (task : τ) (m : ClientMessage)
  | cancelAll (task : τ) (m : ClientMessage)
  | initCfm
  | systemShutdown | systemEmergencyShutdown | systemSleep
  | panic | listOverrun
  deriving DecidableEq

structure PowerManager (τ : Type) where
  state : PowerState
  clients : List (τ × (Flag → Bool))
  userInitiatedShutdown : Bool
  allowDormant : Bool
  initComplete : Bool
  log : List (Entry τ)

structure PowerEnv where
  canPowerOff : Bool
  canEnterDormant : Bool
  batteryUnsafe : Bool
  temperatureExtreme : Bool

variable {τ : Type} [DecidableEq τ]

def appPowerInit : PowerManager τ := ⟨.init, [], false, true, false, []⟩

namespace PowerManager

def note (o : Entry τ) (p : PowerManager τ) : PowerManager τ := { p with log := o :: p.log }

def taskListMessageSendId (m : ClientMessage) (p : PowerManager τ) : PowerManager τ :=
  p.clients.foldl (fun p c => p.note (.send c.1 m)) p

def hasTask (task : τ) (p : PowerManager τ) : Bool := p.clients.any fun c => decide (c.1 = task)

end PowerManager

open PowerManager

def appPowerAllClientsHaveFlagCleared (flag : Flag) (p : PowerManager τ) : Bool :=
  !p.clients.isEmpty && p.clients.all fun c => !c.2 flag

def appPowerAllClientsHaveFlagSet (flag : Flag) (p : PowerManager τ) : Bool :=
  p.clients.all fun c => c.2 flag

def putFlagInClient (task : τ) (flag : Flag) (value : Bool) (p : PowerManager τ) : PowerManager τ :=
  { p with clients := p.clients.map fun c => if c.1 = task then (c.1, Function.update c.2 flag value) else c }

def appPowerSetFlagInClient (task : τ) (flag : Flag) (p : PowerManager τ) : PowerManager τ :=
  putFlagInClient task flag true p

def appPowerClearFlagInClient (task : τ) (flag : Flag) (p : PowerManager τ) : PowerManager τ :=
  putFlagInClient task flag false p

def appPowerSetFlagInAllClients (flag : Flag) (p : PowerManager τ) : PowerManager τ :=
  { p with clients := p.clients.map fun c => (c.1, Function.update c.2 flag true) }

def appPowerCanSleep (e : PowerEnv) (p : PowerManager τ) : Bool :=
  e.canEnterDormant && p.allowDormant && p.initComplete

def appPowerNeedsToPowerOff (e : PowerEnv) (p : PowerManager τ) : Bool :=
  e.canPowerOff && (e.temperatureExtreme || p.userInitiatedShutdown || e.batteryUnsafe)

def exitState (p : PowerManager τ) : PowerManager τ :=
  match p.state with
  | .init => p.note .initCfm
  | .terminatingClientsResponded => taskListMessageSendId .shutdownCancelledInd p
  | .soporificClientsResponded => taskListMessageSendId .sleepCancelledInd p
  | .ok | .terminatingClientsNotified | .soporificClientsNotified => p

def enterOk (p : PowerManager τ) : PowerManager τ :=
  { exitState p with state := .ok, userInitiatedShutdown := false }

/-- The two shutdown calls usually do not return. -/
def enterTerminatingClientsResponded (e : PowerEnv) (p : PowerManager τ) : PowerManager τ :=
  let p := { exitState p with state := .terminatingClientsResponded }
  enterOk
    (if appPowerNeedsToPowerOff e p then
      p.note (if p.userInitiatedShutdown then .systemShutdown else .systemEmergencyShutdown)
    else p)

def enterTerminatingClientsNotified (e : PowerEnv) (p : PowerManager τ) : PowerManager τ :=
  let p := { exitState p with state := .terminatingClientsNotified }
  if p.clients.isEmpty then enterTerminatingClientsResponded e p
  else taskListMessageSendId .powerOff
    (appPowerSetFlagInAllClients .shutdownPrepareResponsePending (taskListMessageSendId .shutdownPrepareInd p))

def enterSoporificClientsResponded (e : PowerEnv) (p : PowerManager τ) : PowerManager τ :=
  let p := { exitState p with state := .soporificClientsResponded }
  if appPowerCanSleep e p then p.note .systemSleep else enterOk p

def enterSoporificClientsNotified (e : PowerEnv) (p : PowerManager τ) : PowerManager τ :=
  let p := { exitState p with state := .soporificClientsNotified }
  if p.clients.isEmpty then enterSoporificClientsResponded e p
  else appPowerSetFlagInAllClients .sleepPrepareResponsePending (taskListMessageSendId .sleepPrepareInd p)

def appPowerSetState (e : PowerEnv) (new : PowerState) (p : PowerManager τ) : PowerManager τ :=
  match new with
  | .ok => enterOk p
  | .terminatingClientsNotified => enterTerminatingClientsNotified e p
  | .terminatingClientsResponded => enterTerminatingClientsResponded e p
  | .soporificClientsNotified => enterSoporificClientsNotified e p
  | .soporificClientsResponded => enterSoporificClientsResponded e p
  | .init => Power.PowerManager.note .panic { exitState p with state := .init }

def appPowerHandlePowerEvent (e : PowerEnv) (p : PowerManager τ) : PowerManager τ :=
  match p.state with
  | .init => appPowerSetState e .ok (if appPowerNeedsToPowerOff e p then p.note .systemShutdown else p)
  | .ok =>
    if appPowerNeedsToPowerOff e p then appPowerSetState e .terminatingClientsNotified p
    else if appPowerAllClientsHaveFlagSet .allowSleep p && appPowerCanSleep e p then
      appPowerSetState e .soporificClientsNotified p
    else p
  | _ => p

def appPowerInitComplete (e : PowerEnv) (p : PowerManager τ) : PowerManager τ :=
  appPowerHandlePowerEvent e { p with initComplete := true }

def appPowerOn (p : PowerManager τ) : PowerManager τ := taskListMessageSendId .powerOn p

def appPowerOffRequest (e : PowerEnv) (p : PowerManager τ) : PowerManager τ :=
  if e.canPowerOff ∧ p.state = .ok then
    appPowerSetState e .terminatingClientsNotified { p with userInitiatedShutdown := true }
  else p

def taskListMaxTasks : ℕ := 15

/-- The size of the list is a field of 4 bits and nothing guards it: with the 16th task it reads 0, and
the task is stored far outside the list. The model is good up to there. -/
def appPowerClientRegister (task : τ) (p : PowerManager τ) : PowerManager τ :=
  if p.hasTask task then p
  else if taskListMaxTasks ≤ p.clients.length then
    Power.PowerManager.note .listOverrun { p with clients := [] }
  else
    -- a client that comes late is asked too
    let p := { p with clients := p.clients ++ [(task, fun _ => false)] }
    match p.state with
    | .init => p.note .panic
    | .terminatingClientsNotified =>
      (appPowerSetFlagInClient task .shutdownPrepareResponsePending p).note (.send task .shutdownPrepareInd)
    | .soporificClientsNotified =>
      (appPowerSetFlagInClient task .sleepPrepareResponsePending p).note (.send task .sleepPrepareInd)
    | .ok | .terminatingClientsResponded | .soporificClientsResponded => p

def appPowerClientAllowSleep (e : PowerEnv) (task : τ) (p : PowerManager τ) : PowerManager τ :=
  let p := appPowerSetFlagInClient task .allowSleep p
  if p.state = .ok ∧ appPowerAllClientsHaveFlagSet .allowSleep p ∧ appPowerCanSleep e p then
    appPowerSetState e .soporificClientsNotified p
  else p

def appPowerClientProhibitSleep (task : τ) (p : PowerManager τ) : PowerManager τ :=
  appPowerClearFlagInClient task .allowSleep p

/-- An answer counts in the state that waits for it and from a registered task only. -/
def prepareResponse (e : PowerEnv) (waiting responded : PowerState) (flag : Flag) (task : τ)
    (p : PowerManager τ) : PowerManager τ :=
  if p.state = waiting ∧ p.hasTask task then
    let p := appPowerClearFlagInClient task flag p
    if appPowerAllClientsHaveFlagCleared flag p then appPowerSetState e responded p else p
  else p

def appPowerShutdownPrepareResponse (e : PowerEnv) (task : τ) (p : PowerManager τ) : PowerManager τ :=
  prepareResponse e .terminatingClientsNotified .terminatingClientsResponded .shutdownPrepareResponsePending task p

def appPowerSleepPrepareResponse (e : PowerEnv) (task : τ) (p : PowerManager τ) : PowerManager τ :=
  prepareResponse e .soporificClientsNotified .soporificClientsResponded .sleepPrepareResponsePending task p

def removeClient (task : τ) (p : PowerManager τ) : PowerManager τ :=
  let p := (((p.note (.cancelAll task .sleepPrepareInd)).note (.cancelAll task .sleepCancelledInd)).note
    (.cancelAll task .shutdownPrepareInd)).note (.cancelAll task .shutdownCancelledInd)
  { p with clients := p.clients.filter fun c => decide (c.1 ≠ task) }

def appPowerClientUnregister (e : PowerEnv) (task : τ) (p : PowerManager τ) : PowerManager τ :=
  removeClient task
    (appPowerSleepPrepareResponse e task (appPowerShutdownPrepareResponse e task (appPowerClientAllowSleep e task p)))

def call (e : PowerEnv) (p : PowerManager τ) : Call τ → PowerManager τ
  | .register task => appPowerClientRegister task p
  | .unregister task => appPowerClientUnregister e task p
  | .allowSleep task => appPowerClientAllowSleep e task p
  | .prohibitSleep task => appPowerClientProhibitSleep task p
  | .shutdownPrepareResponse task => appPowerShutdownPrepareResponse e task p
  | .sleepPrepareResponse task => appPowerSleepPrepareResponse e task p
  | .offRequest => appPowerOffRequest e p
  | .on => appPowerOn p
  | .initComplete => appPowerInitComplete e p
  | .handlePowerEvent => appPowerHandlePowerEvent e p

def powerStep (p : PowerManager τ) (c : PowerEnv × Call τ) : PowerManager τ :=
  call c.1 (p.note (.called c.2)) c.2

def powerRun (calls : List (PowerEnv × Call τ)) : PowerManager τ := calls.foldl powerStep appPowerInit

def hasRoom (p : PowerManager τ) : Call τ → Bool
  | .register task => p.hasTask task || decide (p.clients.length < taskListMaxTasks)
  | _ => true

/-- No call of the run adds a 16th client. -/
def fitsList (p : PowerManager τ) : List (PowerEnv × Call τ) → Bool
  | [] => true
  | c :: calls => hasRoom p c.2 && fitsList (powerStep p c) calls

theorem powerRun_rule {P : PowerManager τ → Prop} (hinit : P appPowerInit)
    (hstep : ∀ p c, hasRoom p c.2 = true → P p → P (powerStep p c)) {calls : List (PowerEnv × Call τ)}
    (hfits : fitsList appPowerInit calls = true) : P (powerRun calls) := by
  unfold powerRun
  generalize (appPowerInit : PowerManager τ) = p at hinit hfits ⊢
  induction calls generalizing p with
  | nil => exact hinit
  | cons c calls ih =>
    obtain ⟨hroom, hrest⟩ := Bool.and_eq_true_iff.mp hfits
    exact ih _ (hstep p c hroom hinit) hrest

end SmartHelmet.Power
