import MachineBridge.Bridge.Callback

/-!
# MachineBridge.Scenario.Task

What the threads of a scenario do.  A thread makes one call into the bridge, from
a thread of its own or from the main thread of an application, and keeps a
reference to the machine it is about until the call has returned.
-/

namespace MachineBridge.Scenario

/-- What a step of a scenario, or a call of one of its threads, comes to. -/
inductive Answer where
  | done
  | failed (e : BridgeError)
  | truth (b : Bool)
  | truths (bs : List Bool)
  /-- The platform, the serialized configuration and the text for inspection. -/
  | info (platform configuration inspected : String)
  | pending
  | noSuchName
  | count (n : Nat)
  | token (h : Handle)
  | returned
  | delivered (r : Except CallbackError Unit)
  | allDelivered (rs : List (Except CallbackError Unit))
  | state (r : Received ExecutionState)
  | states (xs : List ExecutionState) (ended : Bool)
  | disconnect (r : Received DisconnectedError)
  | disconnects (xs : List DisconnectedError) (ended : Bool)
  | released (r : Except HandleError Unit)
  | resolved (r : Except HandleError Value)
deriving Repr

/-- A call into the bridge, over the numbers of machines and applications.  A
task that makes something brings along the name to put it under. -/
inductive Task where
  /-- Create a machine that the script of a number is the runtime of. -/
  | create (script : Nat) (name : String) (platform : PlatformVersion)
    (configuration : MachineConfiguration) (failure : Option BridgeError)
  /-- Name one more reference to a machine. -/
  | clone (machine : Nat) (name : String)
  /-- Drop a reference to a machine. -/
  | drop (machine : Nat)
  | askAll (machine : Nat)
  | control (machine : Nat) (operation : Operation)
  | requestStop (machine : Nat)
  /-- Finalize a machine from several threads at once. -/
  | finalize (machine threads : Nat)
  | startGraphics (machine application : Nat) (width height : Float) (options : GraphicsOptions)
  | info (machine : Nat)
  | show (machine : Nat)
  | bringToFront (machine : Nat)
  | hasWindow (machine : Nat)
  | userClose (application : Nat) (id : Handle)
  | subscribe (machine : Nat) (name : String)
  | subscribeDisconnect (machine : Nat) (name : String)
  /-- Let the script of a number raise state codes. -/
  | raise (script : Nat) (codes : List Int32)
  /-- Raise an event; a silent one does not tell what became of it. -/
  | callback (event : Callback) (silent : Bool)
  | register (number : Int32)
  | release (token : Handle)
  | contains (token : Handle)
  | resolve (token : Handle) (kind : Kind)
  /-- Occupy a main thread until released. -/
  | hold (released : Bool)
deriving Repr

/-- The machine a task is about. -/
def Task.machine? : Task → Option Nat
  | .clone m _ => some m
  | .drop m => some m
  | .askAll m => some m
  | .control m _ => some m
  | .requestStop m => some m
  | .finalize m _ => some m
  | .startGraphics m .. => some m
  | .info m => some m
  | .show m => some m
  | .bringToFront m => some m
  | .hasWindow m => some m
  | .subscribe m _ => some m
  | .subscribeDisconnect m _ => some m
  | .create .. => none
  | .userClose .. => none
  | .raise .. => none
  | .callback .. => none
  | .register _ => none
  | .release _ => none
  | .contains _ => none
  | .resolve .. => none
  | .hold _ => none

/-- The machine whose reference is handed to a task by whoever starts it. -/
def Task.givenUp? : Task → Option Nat
  | .drop m => some m
  | _ => none

/-- How far a thread is. -/
inductive Stage where
  /-- Waiting for its turn on a main thread. -/
  | queued
  | ready
  /-- Waiting for the completion of a control call. -/
  | waiting (call : Nat)
  /-- Waiting for the answer to an inquiry. -/
  | asking (inquiry : Nat)
  | ended (a : Answer)
deriving Repr

/-- A thread, with the application on whose main thread it does its task and the
number of the task of the host there. -/
structure Thread where
  task : Task
  place : Option Nat := none
  job : Option Nat := none
  stage : Stage := .ready
deriving Repr

/-- What the call of a thread has come to so far. -/
def Thread.answer (t : Thread) : Answer :=
  match t.stage with
  | .ended a => a
  | _ => .pending

end MachineBridge.Scenario
