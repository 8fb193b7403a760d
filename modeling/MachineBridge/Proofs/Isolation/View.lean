import MachineBridge.Bridge.Run
import MachineBridge.Proofs.Frame
import Mathlib.Data.List.Basic

/-!
# MachineBridge.Proofs.Isolation.View

The bridge as one machine sees it.  All machines share the registry and its counter, and all
calls stand in one list; what a machine can tell from its own operations and events is only
what was registered for it.  `Bridge.alone` keeps the machine, its calls and the slots of the
tokens that its runtime was given, and renames these tokens to their ranks: the first token
that the runtime was given is 1, the second 2, and so on.  Machine and calls are numbered anew
as well, so the view is a bridge that has no other machine.

`acts` says which actions are steps of a machine, `Action.alone` is such a step as the machine
sees it, and `answer` is what the step returns.
-/

namespace MachineBridge

/-! ## tokens of a machine -/

def RuntimeCall.tokens : RuntimeCall → List Handle
  | .create state disconnect => [state, disconnect]
  | .perform _ completion => [completion]
  | .requestStop => []
  | .query _ => []
  | .release => []

/-- The tokens that the runtime of a machine was given so far, in order. -/
def Machine.given (x : Machine) : List Handle := x.calls.flatMap RuntimeCall.tokens

/-! ## renaming -/

section Renaming

variable (ρ : Handle → Handle)

def RuntimeCall.rename : RuntimeCall → RuntimeCall
  | .create state disconnect => .create (ρ state) (ρ disconnect)
  | .perform op completion => .perform op (ρ completion)
  | .requestStop => .requestStop
  | .query q => .query q
  | .release => .release

def DisconnectPipeline.rename (p : DisconnectPipeline) : DisconnectPipeline :=
  { p with token := ρ p.token }

def Machine.rename (x : Machine) : Machine :=
  { x with
      stateToken := ρ x.stateToken
      disconnect := x.disconnect.rename ρ
      calls := x.calls.map (RuntimeCall.rename ρ) }

def ControlCall.alone (c : ControlCall) : ControlCall := { c with machine := 0, token := ρ c.token }

def Callback.rename : Callback → Callback
  | .completion token error => .completion (ρ token) error
  | .stateChanged token code => .stateChanged (ρ token) code
  | .disconnected token index error => .disconnected (ρ token) index error
  | .disconnectsEnded token => .disconnectsEnded (ρ token)
  | .windowClosed token => .windowClosed (ρ token)

def HandleError.rename : HandleError → HandleError
  | .notFound h => .notFound (ρ h)
  | .typeMismatch h expected found => .typeMismatch (ρ h) expected found

def CallbackError.rename : CallbackError → CallbackError
  | .handle cause => .handle (cause.rename ρ)
  | .unknownState code => .unknownState code
  | .alreadyCompleted h => .alreadyCompleted (ρ h)

/-- An action of the only machine, with another token. Actions that no machine takes stay. -/
def Action.alone : Action → Action
  | .finishCreate _ failure => .finishCreate 0 failure
  | .addReference _ => .addReference 0
  | .dropReference _ => .dropReference 0
  | .finalize _ => .finalize 0
  | .finishTeardown _ => .finishTeardown 0
  | .control _ op => .control 0 op
  | .requestStop _ => .requestStop 0
  | .ask _ q => .ask 0 q
  | .subscribeStates _ => .subscribeStates 0
  | .receiveState _ i => .receiveState 0 i
  | .dropStates _ i => .dropStates 0 i
  | .subscribeDisconnects _ => .subscribeDisconnects 0
  | .receiveDisconnect _ i => .receiveDisconnect 0 i
  | .dropDisconnects _ i => .dropDisconnects 0 i
  | .work _ => .work 0
  | .receive e => .receive (e.rename ρ)
  | act => act

end Renaming

/-- The answers that an environment gives about one machine, given about the only one. -/
def Environment.alone (m : Nat) (env : Environment) : Environment :=
  { env with can := fun _ => env.can m, requestStop := fun _ => env.requestStop m }

/-- What a step returns to whoever takes it. The numbers of machines and calls are left out. -/
inductive Answer where
  | nothing
  | created (result : Except BridgeError Unit)
  | begun (result : Except BridgeError Unit)
  | stopRequested (result : Except BridgeError Bool)
  | can (yes : Bool)
  | subscribed (subscription : Nat)
  | state (received : Received ExecutionState)
  | subscribedDisconnects (result : Except BridgeError Nat)
  | disconnect (received : Received DisconnectedError)
  | delivered (result : Except CallbackError Unit)

def Answer.rename (ρ : Handle → Handle) : Answer → Answer
  | .delivered result => .delivered (result.mapError (CallbackError.rename ρ))
  | answer => answer

namespace Bridge

/-! ## the view of a machine -/

/-- The tokens that the runtime of a machine was given so far, in order. -/
def given (b : Bridge) (m : Nat) : List Handle := (b.machines[m]?).elim [] Machine.given

/-- The rank of a token among those that the runtime of a machine was given. -/
def rank (b : Bridge) (m : Nat) (h : Handle) : Handle := ⟨(b.given m).idxOf h + 1⟩

def isCallOf (m : Nat) (c : ControlCall) : Bool := c.machine == m

/-- The number of a call among those of a machine. -/
def callRank (b : Bridge) (m n : Nat) : Nat := (b.calls.take n).countP (isCallOf m)

/-- A registered component of a machine, by its number in the view of the machine. -/
def localValue (b : Bridge) (m : Nat) : Value → Value
  | .stateStream _ => .stateStream 0
  | .disconnectInbox _ => .disconnectInbox 0
  | .completion n => .completion (b.callRank m n)
  | v => v

/-- A slot of the registry as a machine sees it, if its token was given to the machine. -/
def localSlot? (b : Bridge) (m : Nat) (s : Handle × Value) : Option (Handle × Value) :=
  if s.1 ∈ b.given m then some (b.rank m s.1, b.localValue m s.2) else none

/-- The bridge as one machine sees it: the machine, its calls and its tokens, and nothing else. -/
def alone (b : Bridge) (m : Nat) : Bridge where
  registry :=
    { next := (b.given m).length + 1, slots := b.registry.slots.filterMap (b.localSlot? m) }
  machines := ((b.machines[m]?).map (Machine.rename (b.rank m))).toList
  calls := (b.calls.filter (isCallOf m)).map (ControlCall.alone (b.rank m))

/-! ## the steps of a machine -/

/-- Whether an action is a step of a machine: of its owner, of its runtime, which may report
under any token that it was ever given, or of its worker. The machine that is created next
takes the steps of its creation. -/
def acts (b : Bridge) (m : Nat) : Action → Bool
  | .beginCreate .. => b.machines.length == m
  | .finishCreate k _ => k == m
  | .addReference k => k == m
  | .dropReference k => k == m
  | .finalize k => k == m
  | .finishTeardown k => k == m
  | .control k _ => k == m
  | .requestStop k => k == m
  | .ask k _ => k == m
  | .subscribeStates k => k == m
  | .receiveState k _ => k == m
  | .dropStates k _ => k == m
  | .subscribeDisconnects k => k == m
  | .receiveDisconnect k _ => k == m
  | .dropDisconnects k _ => k == m
  | .work k => k == m
  | .receive e => e.token ∈ b.given m
  | _ => false

/-- What a step of a machine returns. -/
def answer (env : Environment) (b : Bridge) : Action → Answer
  | .beginCreate platform c => .created ((b.beginCreate platform c).2.map fun _ => ())
  | .control m op => .begun ((b.beginControl m op).2.map fun _ => ())
  | .requestStop m => .stopRequested (b.requestStop env m).2
  | .ask m q => .can (b.ask env m q).2
  | .subscribeStates m => .subscribed (b.subscribeStates m).2
  | .receiveState m i => .state (b.receiveState m i).2
  | .subscribeDisconnects m => .subscribedDisconnects (b.subscribeDisconnects m).2
  | .receiveDisconnect m i => .disconnect (b.receiveDisconnect m i).2
  | .receive e => .delivered (b.receive e).2
  | _ => .nothing

/-- The steps of a machine in a run, as the machine sees them. -/
def only (m : Nat) (ρ : Handle → Handle) (b : Bridge) :
    List (Environment × Action) → List (Environment × Action)
  | [] => []
  | (env, act) :: rest =>
    if b.acts m act then (env.alone m, act.alone ρ) :: (b.step env act).only m ρ rest
    else (b.step env act).only m ρ rest

variable {b b' : Bridge} {m : Nat} {x : Machine} {h : Handle} {v : Value}

theorem given_of_found (found : b.machines[m]? = some x) : b.given m = x.given := by
  rw [given, found]
  rfl

theorem given_of_absent (absent : b.machines[m]? = none) : b.given m = [] := by
  rw [given, absent]
  rfl

/-- Ranks depend on the tokens that a machine was given. -/
theorem rank_of_given (given : b'.given m = b.given m) : b'.rank m = b.rank m := by
  funext h
  rw [rank, given]
  rfl

/-- A component of a machine is seen under the rank of its token. -/
theorem localSlot?_of_given (own : h ∈ b.given m) :
    b.localSlot? m (h, v) = some (b.rank m h, b.localValue m v) := if_pos own

/-- A component of another machine is not seen. -/
theorem localSlot?_of_foreign (foreign : h ∉ b.given m) : b.localSlot? m (h, v) = none :=
  if_neg foreign

/-- Alone, a machine is the only one. -/
theorem machines_alone_of_found (found : b.machines[m]? = some x) :
    (b.alone m).machines = [x.rename (b.rank m)] := by
  rw [alone, found]
  rfl

theorem machines_alone_of_absent (absent : b.machines[m]? = none) : (b.alone m).machines = [] := by
  rw [alone, absent]
  rfl

end Bridge

end MachineBridge
