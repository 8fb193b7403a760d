import MachineBridge.Bridge

/-!
# MachineBridge.Bridge.Callback

Events of the runtime.  Each event carries a token, which is resolved in the
registry; the event goes to the component registered under it, and to nothing
else.  An event whose token does not resolve changes nothing.
-/

namespace MachineBridge

/-- An event of the runtime. -/
inductive Callback where
  /-- An operation finished, with or without an error. -/
  | completion (token : Handle) (error : Option ForeignError)
  /-- The machine went into the state of the given code. -/
  | stateChanged (token : Handle) (code : Int32)
  /-- The network device at an index lost its attachment. -/
  | disconnected (token : Handle) (index : Int32) (error : Option ForeignError)
  /-- No more lost attachments will be reported. -/
  | disconnectsEnded (token : Handle)
  /-- The window of a machine was closed. -/
  | windowClosed (token : Handle)
deriving DecidableEq, Repr

def Callback.token : Callback → Handle
  | .completion token _ => token
  | .stateChanged token _ => token
  | .disconnected token _ _ => token
  | .disconnectsEnded token => token
  | .windowClosed token => token

/-- The kind of value an event goes to. -/
def Callback.kind : Callback → Kind
  | .completion .. => .completion
  | .stateChanged .. => .stateStream
  | .disconnected .. => .disconnectInbox
  | .disconnectsEnded _ => .disconnectInbox
  | .windowClosed _ => .windowBinding

namespace Bridge

/-- Deliver an event to the component of the given number. The token of a
completion is released before the caller goes on, so that the caller never sees
a stale one. -/
def deliver (b : Bridge) (n : Nat) : Callback → Bridge × Except CallbackError Unit
  | .completion token error =>
    match (b.calls[n]?).bind (·.outcome) with
    | some _ => (b, .error (.alreadyCompleted token))
    | none => ({ b with registry := b.registry.erase token }.decideCall n (.fired error), .ok ())
  | .stateChanged _ code =>
    match ExecutionState.ofCode? code with
    | none => (b, .error (.unknownState code))
    | some x => (b.modifyMachine n fun m => { m with state := m.state.apply x }, .ok ())
  | .disconnected _ index error =>
    let event := { index, cause := error.getD .unspecified }
    (b.modifyMachine n fun m => { m with disconnect := m.disconnect.push event }, .ok ())
  | .disconnectsEnded _ =>
    (b.modifyMachine n fun m => { m with disconnect := m.disconnect.closeInbox }, .ok ())
  | .windowClosed _ =>
    (b.modifyMachine n fun m => { m with window := m.window.closed }, .ok ())

/-- Receive an event of the runtime. The reserved token is accepted, and ignored,
by the report of a closed window only. -/
def receive (b : Bridge) (e : Callback) : Bridge × Except CallbackError Unit :=
  if e = .windowClosed .invalid then (b, .ok ())
  else match b.registry.resolve e.kind e.token with
    | .error cause => (b, .error (.handle cause))
    | .ok v => b.deliver v.owner e

end Bridge

end MachineBridge
