import MachineBridge.Bridge.Background

/-!
# MachineBridge.Bridge.Run

Runs of the bridge.  An action is one step of whoever can take one: a caller, the
runtime, a main thread, or a thread of the bridge.  A run is a list of actions,
each with the answers that the environment gives while it is taken.
-/

namespace MachineBridge

/-- One step of the bridge. -/
inductive Action where
  | beginCreate (platform : PlatformVersion) (configuration : MachineConfiguration)
  | finishCreate (machine : Nat) (failure : Option BridgeError)
  | addReference (machine : Nat)
  | dropReference (machine : Nat)
  | finalize (machine : Nat)
  | finishTeardown (machine : Nat)
  | control (machine : Nat) (operation : Operation)
  | requestStop (machine : Nat)
  | ask (machine : Nat) (query : Query)
  | subscribeStates (machine : Nat)
  | receiveState (machine subscription : Nat)
  | dropStates (machine subscription : Nat)
  | subscribeDisconnects (machine : Nat)
  | receiveDisconnect (machine subscription : Nat)
  | dropDisconnects (machine subscription : Nat)
  | startGraphics (machine application : Nat) (width height : Float) (options : GraphicsOptions)
  | showWindow (machine : Nat)
  | beginFront (machine : Nat) (place : Option Nat)
  | finishFront (inquiry : Nat)
  | beginHasWindow (machine : Nat) (place : Option Nat)
  | userClosed (application : Nat) (id : Handle)
  | receive (callback : Callback)
  | registerNumber (number : Int32)
  | releaseToken (token : Handle)
  | addApplication
  | quit (application : Nat)
  | postJob (application : Nat)
  | leaveJob (application : Nat)
  | mainTurn (application : Nat)
  | watch (watcher : Nat)
  | work (machine : Nat)
  | stop (backgroundStop : Nat)
deriving Repr

namespace Bridge

def step (env : Environment) (b : Bridge) : Action → Bridge
  | .beginCreate platform c => (b.beginCreate platform c).1
  | .finishCreate m failure => b.finishCreate m failure
  | .addReference m => b.addReference m
  | .dropReference m => b.dropReference m
  | .finalize m => b.beginTeardown m
  | .finishTeardown m => b.finishTeardown m
  | .control m op => (b.beginControl m op).1
  | .requestStop m => (b.requestStop env m).1
  | .ask m q => (b.ask env m q).1
  | .subscribeStates m => (b.subscribeStates m).1
  | .receiveState m i => (b.receiveState m i).1
  | .dropStates m i => b.dropStates m i
  | .subscribeDisconnects m => (b.subscribeDisconnects m).1
  | .receiveDisconnect m i => (b.receiveDisconnect m i).1
  | .dropDisconnects m i => b.dropDisconnects m i
  | .startGraphics m a width height options => (b.startGraphics m a width height options).1
  | .showWindow m => (b.showWindow m).1
  | .beginFront m place => (b.beginFront env m place).1
  | .finishFront i =>
    match b.visibility? i with
    | some v => (b.finishFront i v).1
    | none => b
  | .beginHasWindow m place => (b.beginHasWindow env m place).1
  | .userClosed a id => b.userClosed a id
  | .receive e => (b.receive e).1
  | .registerNumber n => (b.registerNumber n).1
  | .releaseToken h => (b.releaseToken h).1
  | .addApplication => b.addApplication.1
  | .quit a => b.quit a
  | .postJob a => (b.postJob a).1
  | .leaveJob a => b.leaveJob a .ended
  | .mainTurn a => b.mainTurn env a
  | .watch w => b.watch w
  | .work m => b.work m
  | .stop s => b.stop env s

def run (b : Bridge) (actions : List (Environment × Action)) : Bridge :=
  actions.foldl (fun b (env, a) => b.step env a) b

/-- A run of two parts is the second after the first. -/
theorem run_append (b : Bridge) (first second : List (Environment × Action)) :
    b.run (first ++ second) = (b.run first).run second := by
  simp [run]

end Bridge

end MachineBridge
