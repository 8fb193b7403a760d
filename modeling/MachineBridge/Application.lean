import MachineBridge.MainQueue
import MachineBridge.Options

/-!
# MachineBridge.Application

The window side of a host program: one main thread, the toolkit that owns the
real windows, and a controller for every open window.  Windows are keyed by the
window token of their machine.  The toolkit is called on the main thread only,
so every change of a window is a task of the main queue.
-/

namespace MachineBridge

/-- A call into the toolkit. -/
inductive ToolkitCall where
  | create (id : Handle) (spec : WindowSpec)
  | show (id : Handle)
  | bringToFront (id : Handle)
  | isVisible (id : Handle)
  | close (id : Handle)
deriving DecidableEq, Repr

/-- What happens between an application and its toolkit: the application calls
it, and it reports that the user closed a window of the application. -/
inductive WindowEvent where
  | called (c : ToolkitCall)
  | closedByUser (id : Handle)
deriving DecidableEq, Repr

/-- A task of the main thread. -/
inductive MainTask where
  /-- Create the window of a machine, or show it again if it is open.  The task
  brings along a subscription to the states of the machine. -/
  | present (id : Handle) (spec : WindowSpec) (machine subscription : Nat)
  | bringToFront (id : Handle)
  /-- Answer an inquiry after the visibility of a window. -/
  | inquire (inquiry : Nat)
  /-- Close a window at the teardown of its machine. -/
  | forget (id : Handle)
  /-- Close the window of a stopped machine if it still is the watcher's. -/
  | closeForStop (id : Handle) (watcher : Nat)
  /-- A task of the host program. -/
  | host (job : Nat)
deriving DecidableEq, Repr

/-- An application: its main queue, the task of the host that is running on its
main thread, the watcher of every open window, and what happened between it and
its toolkit, in order. -/
structure Application where
  queue : MainQueue MainTask := { status := .running }
  job : Option Nat := none
  controllers : List (Handle × Nat) := []
  history : List WindowEvent := []
deriving DecidableEq, Repr

namespace Application

/-- The watcher of an open window. -/
def watcher? (a : Application) (id : Handle) : Option Nat := a.controllers.lookup id

def windowCount (a : Application) : Nat := a.controllers.length

def record (a : Application) (c : ToolkitCall) : Application :=
  { a with history := a.history ++ [.called c] }

/-- The calls into the toolkit up to the first one that panics. -/
def upToPanic (panics : ToolkitCall → Bool) : List ToolkitCall → List ToolkitCall
  | [] => []
  | c :: rest => if panics c then [c] else c :: upToPanic panics rest

/-- Make several calls into the toolkit; a panic skips the rest. -/
def recordUpToPanic (a : Application) (panics : ToolkitCall → Bool) (cs : List ToolkitCall) :
    Application :=
  (upToPanic panics cs).foldl record a

def insertController (a : Application) (id : Handle) (watcher : Nat) : Application :=
  { a with controllers := (id, watcher) :: a.controllers }

def eraseController (a : Application) (id : Handle) : Application :=
  { a with controllers := a.controllers.filter fun (other, _) => other ≠ id }

end Application

/-- A watcher follows the states of a machine on behalf of one window, through a
subscription of its own. It is open as long as its window is. -/
structure Watcher where
  application : Nat
  id : Handle
  machine : Nat
  subscription : Nat
  isOpen : Bool := true
  running : Bool := true
deriving DecidableEq, Repr

/-- The answer to an inquiry: whether the window is visible, or why the main
thread will never say. -/
inductive Visibility where
  | known (isVisible : Bool)
  | unknown (e : BridgeError)
deriving DecidableEq, Repr

/-- A question whether a window is visible, asked of an application. -/
structure Inquiry where
  application : Nat
  id : Handle
  answer : Option Visibility := none
deriving DecidableEq, Repr

/-- What became of a task of the host program. -/
inductive JobStatus where
  | queued
  | running
  | ended
  /-- The task panicked, or was discarded with its queue. -/
  | dropped
deriving DecidableEq, Repr

end MachineBridge
