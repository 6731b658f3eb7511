import Mathlib

/-!
The core state machine of the headset's topology. Starting and stopping are carried out by
goals; the core hears of the goal that ends the start and of the procedure that ends the stop.
-/

namespace SmartHelmet.Headset

inductive TopologyState where
  | stopped | starting | started | stopping
  deriving DecidableEq

/-- The two tasks that ask for a stop: the transition of the system state and the headset's own. -/
inductive Requester where
  | transition | headset
  deriving DecidableEq

inductive TopologyRuleEvent where
  | start | stop | prohibitConnectToHandset | userRequestConnectHandset | userRequestDisconnectLruHandset
  | userRequestDisconnectAllHandsets
  deriving DecidableEq

inductive TopologyOut where
  | stopCfm (task : Option Requester) (success : Bool)
  | setEvent (ev : TopologyRuleEvent)
  | resetEvents
  deriving DecidableEq

/-- The output is newest first. -/
structure StereoTopology where
  state : TopologyState
  appTask : Option Requester
  prohibitConnectToHandset : Bool
  shutdownInProgress : Bool
  stopTimers : ℕ
  out : List TopologyOut

def StereoTopology.boot : StereoTopology := ⟨.stopped, none, false, false, 0, []⟩

def stopTimeoutS : ℕ := 10

namespace StereoTopology

def note (o : TopologyOut) (t : StereoTopology) : StereoTopology := { t with out := o :: t.out }

def enterStopped (t : StereoTopology) : StereoTopology := { t with state := .stopped, appTask := none }

def enterStopping (t : StereoTopology) : StereoTopology :=
  note (.setEvent .stop) { t with
    state := .stopping
    stopTimers := if stopTimeoutS ≠ 0 then t.stopTimers + 1 else t.stopTimers }

def enterStarting (t : StereoTopology) : StereoTopology :=
  (note .resetEvents { t with
    state := .starting, prohibitConnectToHandset := false, shutdownInProgress := false }).note (.setEvent .start)

def sendStopCfm (success : Bool) (t : StereoTopology) : StereoTopology :=
  note (.stopCfm t.appTask success) { t with stopTimers := 0 }

end StereoTopology

open StereoTopology

def stereoTopologyStart (t : StereoTopology) : StereoTopology := if t.state = .stopped then enterStarting t else t

def stereoTopologyStop (requesting : Requester) (t : StereoTopology) : StereoTopology :=
  let t := { t with appTask := some requesting }
  if t.state = .started then enterStopping t
  else if t.state = .stopped then sendStopCfm true t
  else t

def stereoTopologyProhibitHandsetConnection (prohibit : Bool) (t : StereoTopology) : StereoTopology :=
  let t := { t with prohibitConnectToHandset := prohibit }
  if prohibit then t.note (.setEvent .prohibitConnectToHandset) else t

def stereoTopologyGoalProcComplete (allowHandsetConnect : Bool) (t : StereoTopology) : StereoTopology :=
  if t.state = .starting ∧ allowHandsetConnect then { t with state := .started } else t

def stereoTopologyHandleStopTimeout (t : StereoTopology) : StereoTopology := enterStopped (sendStopCfm false t)

def stereoTopologyHandleStopCompletion (t : StereoTopology) : StereoTopology :=
  if t.state = .stopping then enterStopped (sendStopCfm true t) else t

end SmartHelmet.Headset
