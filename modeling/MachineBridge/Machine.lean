import MachineBridge.Machine.Disconnect
import MachineBridge.Machine.Operation
import MachineBridge.Machine.StateStream
import MachineBridge.Machine.WindowState

/-!
# MachineBridge.Machine

A machine with everything the bridge keeps for it.  A machine is live from the
success of its creation until it is finalized, by its owner or because the last
reference to it is dropped.
-/

namespace MachineBridge

/-- The life of a machine. -/
inductive MachinePhase where
  /-- The runtime is creating the machine. -/
  | creating
  | live
  /-- The runtime is releasing the machine. -/
  | releasing
  | finalized
  /-- The runtime failed to create the machine. -/
  | abandoned
deriving DecidableEq, Repr

/-- A machine: the platform it runs on, its configuration, its streams and its
window, the number of references that keep it alive, and the calls made into its
runtime, in order. -/
structure Machine where
  platform : PlatformVersion
  configuration : MachineConfiguration
  phase : MachinePhase := .creating
  stateToken : Handle
  state : StateStream := {}
  disconnect : DisconnectPipeline
  window : WindowState := {}
  references : Nat := 0
  calls : List RuntimeCall := []
deriving DecidableEq, Repr

namespace Machine

def isLive (m : Machine) : Bool := m.phase == .live

/-- Let an operation pass that needs the given major release; a finalized machine
is reported before an old platform. -/
def gate (m : Machine) (required : UInt32) : Except BridgeError Unit :=
  if m.isLive then m.platform.require required else .error .finalized

/-- A query reaches the runtime when the machine is live and the platform has
what is asked for. -/
def canAsk (m : Machine) (q : Query) : Bool :=
  m.isLive && m.platform.isAtLeast q.requiredRelease

def record (m : Machine) (c : RuntimeCall) : Machine := { m with calls := m.calls ++ [c] }

/-- The machine as it is shown for inspection, with a placeholder for its random
identifier. -/
def debugText (m : Machine) : String :=
  "VirtualMachine \x7b id: MachineId(<id>), state: " ++ m.state.current.name ++ " \x7d"

/-- What passes the gate of an operation. -/
theorem gate_eq_ok_iff {m : Machine} {required : UInt32} :
    m.gate required = .ok () ↔
      m.isLive = true ∧ m.platform.isAtLeast required = true := by
  cases h : m.isLive <;> simp [gate, h, PlatformVersion.require_eq_ok_iff]

end Machine

end MachineBridge
