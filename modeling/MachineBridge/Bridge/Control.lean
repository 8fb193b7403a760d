import MachineBridge.Bridge

/-!
# MachineBridge.Bridge.Control

Operations on a machine.  An operation with a completion registers a slot for the
outcome, hands its token to the runtime and waits until the slot is decided;
queries and the request to stop are answered by the runtime at once.  Nothing
reaches the runtime of a finalized machine or of a platform that is too old.
-/

namespace MachineBridge.Bridge

def recordCall (b : Bridge) (m : Nat) (c : RuntimeCall) : Bridge :=
  b.modifyMachine m fun x => x.record c

/-- Begin an operation. Answers the number of the call, which then waits for its
completion. -/
def beginControl (b : Bridge) (m : Nat) (op : Operation) : Bridge × Except BridgeError Nat :=
  match b.admitted m op.requiredRelease with
  | .error e => (b, .error e)
  | .ok _ =>
    let n := b.calls.length
    let (registry, token) := b.registry.register (.completion n)
    let call : ControlCall := { machine := m, operation := op, token }
    let waiting := { b with registry, calls := b.calls ++ [call] }
    (waiting.recordCall m (.perform op token), .ok n)

/-- What a call returns, once its completion is decided. -/
def callResult? (b : Bridge) (n : Nat) : Option (Except BridgeError Unit) :=
  (b.calls[n]?).bind (·.result?)

/-- Ask the guest to turn itself off. -/
def requestStop (env : Environment) (b : Bridge) (m : Nat) : Bridge × Except BridgeError Bool :=
  match b.admitted m PlatformVersion.anyRelease with
  | .error e => (b, .error e)
  | .ok _ =>
    (b.recordCall m .requestStop, (env.requestStop m).mapError (.foreign "request_stop"))

/-- Ask what a machine can do. The answer is no without asking when the machine
is finalized or its platform has no such thing. -/
def ask (env : Environment) (b : Bridge) (m : Nat) (q : Query) : Bridge × Bool :=
  match b.machines[m]? with
  | none => (b, false)
  | some machine =>
    if machine.canAsk q then (b.recordCall m (.query q), env.can m q) else (b, false)

/-- Ask several things in order. -/
def askAll (env : Environment) (b : Bridge) (m : Nat) : List Query → Bridge × List Bool
  | [] => (b, [])
  | q :: rest =>
    let (b, answer) := b.ask env m q
    let (b, answers) := b.askAll env m rest
    (b, answer :: answers)

/-- A caller releases a token. The slot of a waiting call is gone with it, and
the call returns without an outcome. -/
def releaseToken (b : Bridge) (h : Handle) : Bridge × Except HandleError Unit :=
  match b.registry.release h with
  | .error e => (b, .error e)
  | .ok (registry, .completion n) => ({ b with registry }.decideCall n .dropped, .ok ())
  | .ok (registry, _) => ({ b with registry }, .ok ())

/-- A caller registers a number of its own. -/
def registerNumber (b : Bridge) (n : Int32) : Bridge × Handle :=
  let (registry, h) := b.registry.register (.int32 n)
  ({ b with registry }, h)

end MachineBridge.Bridge
