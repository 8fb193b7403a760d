import MachineBridge.Bridge

/-!
# MachineBridge.Bridge.Streams

Subscriptions to the states and to the lost network attachments of a machine.
A subscription is addressed by its number on the channel of its machine.
-/

namespace MachineBridge.Bridge

/-! ## states -/

/-- Subscribe to the states of a machine; the stream of a finalized machine ends
at once. Answers the number of the subscription. -/
def subscribeStates (b : Bridge) (m : Nat) : Bridge × Nat :=
  match b.machines[m]? with
  | none => (b, 0)
  | some machine =>
    (b.modifyMachine m fun x => { x with state := x.state.subscribe.1 }, machine.state.subscribe.2)

def receiveState (b : Bridge) (m i : Nat) : Bridge × Received ExecutionState :=
  match b.machines[m]? with
  | none => (b, .ended)
  | some machine =>
    let (channel, r) := machine.state.channel.receive i
    (b.modifyMachine m fun x => { x with state := { x.state with channel } }, r)

/-- Take all queued states of a subscription; says whether its stream has ended. -/
def drainStates (b : Bridge) (m i : Nat) : Bridge × List ExecutionState × Bool :=
  match b.machines[m]? with
  | none => (b, [], true)
  | some machine =>
    let (channel, xs, ended) := machine.state.channel.drain i
    (b.modifyMachine m fun x => { x with state := { x.state with channel } }, xs, ended)

/-! ## lost network attachments -/

/-- Subscribe to the lost network attachments of a machine. Answers the number of
the subscription. -/
def subscribeDisconnects (b : Bridge) (m : Nat) : Bridge × Except BridgeError Nat :=
  match b.admitted m PlatformVersion.forStopAndGraphics with
  | .error e => (b, .error e)
  | .ok machine =>
    (b.modifyMachine m fun x => { x with disconnect := x.disconnect.subscribe.1 },
      .ok machine.disconnect.subscribe.2)

def receiveDisconnect (b : Bridge) (m i : Nat) : Bridge × Received DisconnectedError :=
  match b.machines[m]? with
  | none => (b, .ended)
  | some machine =>
    let (outbound, r) := machine.disconnect.outbound.receive i
    (b.modifyMachine m fun x => { x with disconnect := { x.disconnect with outbound } }, r)

/-- Take all queued lost attachments of a subscription; says whether its stream
has ended. -/
def drainDisconnects (b : Bridge) (m i : Nat) : Bridge × List DisconnectedError × Bool :=
  match b.machines[m]? with
  | none => (b, [], true)
  | some machine =>
    let (outbound, xs, ended) := machine.disconnect.outbound.drain i
    (b.modifyMachine m fun x => { x with disconnect := { x.disconnect with outbound } }, xs, ended)

/-- Drop a subscription to the lost attachments of a machine. -/
def dropDisconnects (b : Bridge) (m i : Nat) : Bridge :=
  b.modifyMachine m fun x => { x with disconnect := x.disconnect.drop i }

end MachineBridge.Bridge
