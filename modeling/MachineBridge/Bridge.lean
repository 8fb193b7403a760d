import MachineBridge.Application
import MachineBridge.Machine
import MachineBridge.Registry

/-!
# MachineBridge.Bridge

The bridge between a callback-driven machine runtime and the programs that use
it: one registry of tokens, the machines, the applications that show their
windows, and everything that is under way.  Machines, applications, calls,
watchers and so on are addressed by their numbers, in the order in which they
came into being.

The modules below this one add the steps.  A step is one call into the bridge up
to the point where it blocks or calls the runtime, one task of a main thread, or
one turn of a watcher, a worker or a background stop.
-/

namespace MachineBridge

/-- How far a background stop is. -/
inductive StopStage where
  | checking
  | stopping
  | waiting (call : Nat)
  | ended
deriving DecidableEq, Repr

/-- The thread that stops a machine after its window was closed by the user. It
holds a reference to the machine until it ends. -/
structure BackgroundStop where
  machine : Nat
  stage : StopStage := .checking
deriving DecidableEq, Repr

/-- The bridge. -/
structure Bridge where
  registry : Registry := {}
  machines : List Machine := []
  applications : List Application := []
  calls : List ControlCall := []
  watchers : List Watcher := []
  stops : List BackgroundStop := []
  inquiries : List Inquiry := []
  jobs : List JobStatus := []
deriving DecidableEq, Repr

/-- What the runtime and the toolkit answer when they are asked, and which calls
into the toolkit panic.  Machines and applications are given by their numbers. -/
structure Environment where
  can : Nat → Query → Bool
  requestStop : Nat → Except ForeignError Bool
  isVisible : Nat → Handle → Bool
  panics : Nat → ToolkitCall → Bool

namespace Bridge

/-! ## changing one component -/

def modifyMachine (b : Bridge) (m : Nat) (f : Machine → Machine) : Bridge :=
  { b with machines := b.machines.modify m f }

def modifyApplication (b : Bridge) (a : Nat) (f : Application → Application) : Bridge :=
  { b with applications := b.applications.modify a f }

def modifyWatcher (b : Bridge) (w : Nat) (f : Watcher → Watcher) : Bridge :=
  { b with watchers := b.watchers.modify w f }

def modifyCall (b : Bridge) (c : Nat) (f : ControlCall → ControlCall) : Bridge :=
  { b with calls := b.calls.modify c f }

/-- Decide the completion of a control call; a decision is final. -/
def decideCall (b : Bridge) (c : Nat) (o : Outcome) : Bridge :=
  b.modifyCall c fun call => { call with outcome := call.outcome.or (some o) }

def answerInquiry (b : Bridge) (i : Nat) (v : Visibility) : Bridge :=
  { b with inquiries := b.inquiries.modify i fun inquiry => { inquiry with answer := some v } }

def setJob (b : Bridge) (j : Nat) (s : JobStatus) : Bridge := { b with jobs := b.jobs.set j s }

def dropStates (b : Bridge) (m i : Nat) : Bridge :=
  b.modifyMachine m fun machine => { machine with state := machine.state.drop i }

/-! ## asking for a component -/

/-- The machine of a number, if it lets an operation pass that needs the given
major release. A number without a machine is treated like a finalized one. -/
def admitted (b : Bridge) (m : Nat) (required : UInt32) : Except BridgeError Machine :=
  match b.machines[m]? with
  | some machine => (machine.gate required).map fun _ => machine
  | none => .error .finalized

def state? (b : Bridge) (m : Nat) : Option ExecutionState :=
  b.machines[m]?.map (·.state.current)

end Bridge

end MachineBridge
