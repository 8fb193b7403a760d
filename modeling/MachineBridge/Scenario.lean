import MachineBridge.Bridge.Background
import MachineBridge.Scenario.Screen
import MachineBridge.Scenario.Script
import MachineBridge.Scenario.Task

/-!
# MachineBridge.Scenario

A program that uses the bridge with scripted runtimes and scripted toolkits.  It
keeps machines, applications, streams and calls under names.  After every step of
the bridge the scripts respond to the calls that were made into them, and raise
their events from inside those calls.
-/

namespace MachineBridge

open Scenario

/-- A stream of a machine that the program holds. -/
inductive Scenario.Stream where
  | states (machine subscription : Nat)
  | disconnects (machine subscription : Nat)
deriving DecidableEq, Repr

/-- The program: the bridge, the scripts by number, the toolkits by the number of
their application, the threads by number, and what has a name.  A machine's name
stands for one reference to it; the name of its runtime stays when that is
dropped. -/
structure Scenario where
  bridge : Bridge := {}
  scripts : List Script := []
  screens : List Screen := []
  threads : List Thread := []
  runtimes : List (String × Nat) := []
  machines : List (String × Nat) := []
  applications : List (String × Nat) := []
  streams : List (String × Scenario.Stream) := []
  calls : List (String × Nat) := []
deriving Repr

namespace Scenario

/-! ## the environment of the bridge -/

/-- The number of the script of a machine. -/
def scriptNumber? (s : Scenario) (m : Nat) : Option Nat :=
  s.scripts.findIdx? fun script => script.machine == some m

def script? (s : Scenario) (m : Nat) : Option Script :=
  s.scripts.find? fun script => script.machine == some m

/-- What the scripts answer at the moment. -/
def environment (s : Scenario) : Environment where
  can m q := match s.script? m with
    | some script => script.answer q
    | none => false
  requestStop m := match s.script? m with
    | some script => script.requestStopAnswer
    | none => .ok false
  isVisible a id := match s.screens[a]? with
    | some screen => screen.visible.contains id
    | none => false
  panics a c := match s.screens[a]? with
    | some screen => screen.panicking.contains (methodName c)
    | none => false

def modifyScript (s : Scenario) (k : Nat) (f : Script → Script) : Scenario :=
  { s with scripts := s.scripts.modify k f }

def modifyScreen (s : Scenario) (a : Nat) (f : Screen → Screen) : Scenario :=
  { s with screens := s.screens.modify a f }

/-! ## events -/

def raise (s : Scenario) (e : Callback) : Scenario × Except CallbackError Unit :=
  let (bridge, r) := s.bridge.receive e
  ({ s with bridge }, r)

/-- Raise a state code. The runtime goes into the state, whatever becomes of the
event. -/
def raiseState (s : Scenario) (k : Nat) (code : Int32) : Scenario × Except CallbackError Unit :=
  let token := ((s.scripts[k]?).map (·.stateToken)).getD .invalid
  (s.modifyScript k fun script => { script with code }).raise (.stateChanged token code)

/-- Raise state codes in order; answers what became of each. -/
def raiseStates (s : Scenario) (k : Nat) : List Int32 → Scenario × List (Except CallbackError Unit)
  | [] => (s, [])
  | code :: rest =>
    let (s, r) := s.raiseState k code
    let (s, rs) := s.raiseStates k rest
    (s, r :: rs)

/-- Raise state codes in order and note each. -/
def playStates (s : Scenario) (k : Nat) (codes : List Int32) : Scenario :=
  codes.foldl (fun s code =>
    let (s, r) := s.raiseState k code
    s.modifyScript k fun script => script.note (.state code r)) s

/-- Report lost attachments in order and note each. -/
def playDisconnects (s : Scenario) (k : Nat) (events : List (Int32 × Option ForeignError)) :
    Scenario :=
  events.foldl (fun s (index, error) =>
    let token := ((s.scripts[k]?).map (·.disconnectToken)).getD .invalid
    let (s, r) := s.raise (.disconnected token index error)
    s.modifyScript k fun script => script.note (.disconnected index r)) s

/-- Fire a completion and note it, the given number of times. -/
def playCompletion (s : Scenario) (k : Nat) (token : Handle) (error : Option ForeignError) :
    Nat → Scenario
  | 0 => s
  | times + 1 =>
    let (s, r) := s.raise (.completion token error)
    (s.modifyScript k fun script => script.note (.completed r)).playCompletion k token error times

/-- Announce the end of the reports of lost attachments and note it. -/
def playDisconnectsEnded (s : Scenario) (k : Nat) : Scenario :=
  let token := ((s.scripts[k]?).map (·.disconnectToken)).getD .invalid
  let (s, r) := s.raise (.disconnectsEnded token)
  s.modifyScript k fun script => script.note (.disconnectsEnded r)

/-! ## responses -/

/-- A runtime responds to a call that was made into it. -/
def respond (s : Scenario) (k m : Nat) (script : Script) : RuntimeCall → Scenario
  | .create state disconnect =>
    let configuration := ((s.bridge.machines[m]?).map (·.configuration)).getD ⟨0, 0, []⟩
    let created := s.modifyScript k fun script =>
      { script with stateToken := state, disconnectToken := disconnect }.note
        (.created configuration state disconnect)
    let played := (created.playStates k (script.during.states.getD [])).playDisconnects k
      script.during.disconnects
    { played with bridge := played.bridge.finishCreate m script.failure }
  | .perform op token =>
    let plan := script.nextPlan op.name
    let called := s.modifyScript k fun script =>
      { script.dropPlan op.name with completions := (op.name, token) :: script.completions }.note
        (.called (.perform op token))
    let played := (called.playStates k (plan.states.getD (usualStates op))).playDisconnects k
      plan.disconnects
    let times := if plan.hold then 0 else if plan.twice then 2 else 1
    played.playCompletion k token plan.error times
  | .requestStop =>
    s.modifyScript k fun script =>
      (script.dropPlan Script.requestStopName).note (.called .requestStop)
  | .query q => s.modifyScript k fun script => script.note (.called (.query q))
  | .release =>
    let plan := script.nextPlan Script.releaseName
    let called := s.modifyScript k fun script =>
      (script.dropPlan Script.releaseName).note (.called .release)
    let played := (called.playStates k (plan.states.getD [])).playDisconnects k plan.disconnects
    let ended := if plan.close then played.playDisconnectsEnded k else played
    { ended with bridge := ended.bridge.finishTeardown m }

/-- A runtime responds to the calls that it has not responded to yet. -/
def respondAll (s : Scenario) (k : Nat) : Scenario :=
  match s.scripts[k]? with
  | none => s
  | some { machine := none, .. } => s
  | some { machine := some m, handled, .. } =>
    let calls := ((s.bridge.machines[m]?).map (·.calls)).getD []
    let counted := s.modifyScript k fun script => { script with handled := calls.length }
    (calls.drop handled).foldl (fun s call =>
      match s.scripts[k]? with
      | some script => s.respond k m script call
      | none => s) counted

/-- A toolkit sees the events that it has not seen yet. -/
def seeAll (s : Scenario) (a : Nat) : Scenario :=
  let events := ((s.bridge.applications[a]?).map (·.history)).getD []
  s.modifyScreen a fun screen =>
    { (events.drop screen.handled).foldl Screen.see screen with handled := events.length }

/-- Let the scripts respond to whatever has happened. -/
def reacted (s : Scenario) : Scenario :=
  let seen := (List.range s.screens.length).foldl seeAll s
  (List.range seen.scripts.length).foldl respondAll seen

/-- Use the bridge and let the scripts respond. -/
def act {α : Type} (s : Scenario) (use : Environment → Bridge → Bridge × α) : Scenario × α :=
  let (bridge, r) := use s.environment s.bridge
  ({ s with bridge }.reacted, r)

/-- Change the bridge and let the scripts respond. -/
def change (s : Scenario) (use : Environment → Bridge → Bridge) : Scenario :=
  { s with bridge := use s.environment s.bridge }.reacted

end Scenario

end MachineBridge
