import MachineBridge.Broadcast
import MachineBridge.ExecutionState

/-!
# MachineBridge.Machine.StateStream

The current execution state of a machine with the broadcast of every change.
The runtime is the only writer; a state that is raised twice is broadcast twice.
-/

namespace MachineBridge

/-- The current state, and the channel on which every state is published. -/
structure StateStream where
  current : ExecutionState := .stopped
  channel : Broadcast ExecutionState := {}
deriving DecidableEq, Repr

namespace StateStream

/-- Record a state and publish it. -/
def apply (s : StateStream) (x : ExecutionState) : StateStream :=
  { current := x, channel := s.channel.publish x }

def close (s : StateStream) : StateStream := { s with channel := s.channel.close }

def subscribe (s : StateStream) : StateStream × Nat :=
  ({ s with channel := s.channel.subscribe.1 }, s.channel.subscribe.2)

def drop (s : StateStream) (i : Nat) : StateStream := { s with channel := s.channel.drop i }

/-- The current state is the one recorded last. -/
@[simp] theorem current_apply (s : StateStream) (x : ExecutionState) :
    (s.apply x).current = x := rfl

/-- Closing keeps the current state. -/
@[simp] theorem current_close (s : StateStream) : s.close.current = s.current := rfl

end StateStream

end MachineBridge
