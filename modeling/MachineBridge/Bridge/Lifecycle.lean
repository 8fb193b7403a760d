import MachineBridge.Bridge.Tasks

/-!
# MachineBridge.Bridge.Lifecycle

Creation and teardown of machines.  Both call the runtime, which may raise events
from inside the call, and so each has two halves: what is done before the call,
the call itself included, and what is done after it.

A machine is torn down once, by its owner or because the last reference to it is
dropped.
-/

namespace MachineBridge.Bridge

/-! ## creation -/

/-- Check the platform, then the configuration; register the two persistent
tokens and have the runtime create the machine.  Answers its number. -/
def beginCreate (b : Bridge) (platform : PlatformVersion) (c : MachineConfiguration) :
    Bridge × Except BridgeError Nat :=
  match platform.require PlatformVersion.forMachines with
  | .error e => (b, .error e)
  | .ok () =>
    match c.validate with
    | .error e => (b, .error e)
    | .ok () =>
      let m := b.machines.length
      let (registry, state) := b.registry.register (.stateStream m)
      let (registry, disconnect) := registry.register (.disconnectInbox m)
      let machine : Machine :=
        { platform
          configuration := c
          stateToken := state
          disconnect := { token := disconnect }
          calls := [.create state disconnect] }
      ({ b with registry, machines := b.machines ++ [machine] }, .ok m)

/-- The runtime has created the machine, or failed to.  After a failure the
tokens it was given name nothing. -/
def finishCreate (b : Bridge) (m : Nat) (failure : Option BridgeError) : Bridge :=
  match b.machines[m]? with
  | none => b
  | some machine =>
    if machine.phase = .creating then
      match failure with
      | none => b.modifyMachine m fun x => { x with phase := .live, references := 1 }
      | some _ =>
        let registry := (b.registry.erase machine.stateToken).erase machine.disconnect.token
        { b with registry }.modifyMachine m fun x => { x with phase := .abandoned }
    else b

/-! ## teardown -/

/-- Begin the teardown of a live machine: its window is closed and forgotten, and
the runtime releases the machine. -/
def beginTeardown (b : Bridge) (m : Nat) : Bridge :=
  match b.machines[m]? with
  | none => b
  | some machine =>
    if machine.isLive then
      let released := b.modifyMachine m fun x =>
        { x with phase := .releasing, window := {} }.record .release
      match machine.window.token with
      | none => released
      | some id =>
        let closing := match machine.window.application with
          | some a => (released.dispatch a (.forget id)).1
          | none => released
        { closing with registry := closing.registry.erase id }
    else b

/-- Finish the teardown of a machine that the runtime has released: its tokens
name nothing and its streams end. -/
def finishTeardown (b : Bridge) (m : Nat) : Bridge :=
  match b.machines[m]? with
  | none => b
  | some machine =>
    if machine.phase = .releasing then
      let registry := (b.registry.erase machine.disconnect.token).erase machine.stateToken
      { b with registry }.modifyMachine m fun x =>
        { x with
            phase := .finalized
            disconnect := x.disconnect.shutdown
            state := x.state.close }
    else b

/-! ## references -/

/-- Take one more reference to a machine that has one. -/
def addReference (b : Bridge) (m : Nat) : Bridge :=
  b.modifyMachine m fun x =>
    if x.references = 0 then x else { x with references := x.references + 1 }

/-- Drop a reference to a machine; dropping the last one begins its teardown. -/
def dropReference (b : Bridge) (m : Nat) : Bridge :=
  match b.machines[m]? with
  | none => b
  | some machine =>
    let dropped := b.modifyMachine m fun x => { x with references := x.references - 1 }
    if machine.references = 1 then dropped.beginTeardown m else dropped

end MachineBridge.Bridge
