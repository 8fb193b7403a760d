import MachineBridge.Decimal.Integer

/-!
# MachineBridge.ExecutionState

The execution states a runtime reports for a machine, with their codes and
names.  `ofCode?` accepts exactly the codes of the ten states.
-/

namespace MachineBridge

/-- Execution state of a machine, as reported by the runtime. -/
inductive ExecutionState where
  /-- The state before the machine is started. -/
  | stopped
  | running
  | paused
  /-- The machine hit an internal error. -/
  | error
  | starting
  | pausing
  | resuming
  | stopping
  | saving
  | restoring
deriving DecidableEq, Repr, Inhabited

namespace ExecutionState

/-- The code under which the runtime reports a state. -/
def code : ExecutionState → Int32
  | stopped => 0
  | running => 1
  | paused => 2
  | error => 3
  | starting => 4
  | pausing => 5
  | resuming => 6
  | stopping => 7
  | saving => 8
  | restoring => 9

/-- All states, in the order of their codes. -/
def all : List ExecutionState :=
  [stopped, running, paused, error, starting, pausing, resuming, stopping, saving, restoring]

/-- The state reported under a code, if the code is known. -/
def ofCode? (c : Int32) : Option ExecutionState := all.find? fun s => s.code == c

/-- The states in which a machine has left the running set for good. -/
def isTerminal : ExecutionState → Bool
  | stopped | error => true
  | _ => false

/-- The capitalised name, used in serialized text. -/
def name : ExecutionState → String
  | stopped => "Stopped"
  | running => "Running"
  | paused => "Paused"
  | error => "Error"
  | starting => "Starting"
  | pausing => "Pausing"
  | resuming => "Resuming"
  | stopping => "Stopping"
  | saving => "Saving"
  | restoring => "Restoring"

def ofName? (s : String) : Option ExecutionState := all.find? fun state => state.name == s

/-- The name in messages. -/
def text : ExecutionState → String
  | stopped => "stopped"
  | running => "running"
  | paused => "paused"
  | error => "error"
  | starting => "starting"
  | pausing => "pausing"
  | resuming => "resuming"
  | stopping => "stopping"
  | saving => "saving"
  | restoring => "restoring"

/-- The code of a state leads back to the state. -/
@[simp] theorem ofCode?_code (s : ExecutionState) : ofCode? s.code = some s := by
  cases s <;> decide

/-- The name of a state leads back to the state. -/
@[simp] theorem ofName?_name (s : ExecutionState) : ofName? s.name = some s := by
  cases s <;> decide

end ExecutionState

end MachineBridge
