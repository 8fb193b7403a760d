import MachineBridge.Bridge.Control
import MachineBridge.Bridge.MainThread

/-!
# MachineBridge.Bridge.Background

The threads of the bridge itself: the watcher of a window, the worker that
handles lost network attachments, and the background stop of a machine whose
window the user closed.
-/

namespace MachineBridge.Bridge

/-! ## watchers -/

/-- End a watcher, which drops its subscription. -/
def endWatcher (b : Bridge) (w : Nat) (watcher : Watcher) : Bridge :=
  (b.modifyWatcher w fun x => { x with running := false }).dropStates watcher.machine
    watcher.subscription

def canWatch (b : Bridge) (w : Nat) : Bool :=
  match b.watchers[w]? with
  | none => false
  | some watcher =>
    watcher.running &&
      (!watcher.isOpen ||
        match (b.receiveState watcher.machine watcher.subscription).2 with
        | .pending => false
        | _ => true)

/-- One step of a watcher: it ends when its window is closed or the stream of
states has ended, and asks for its window to be closed when the machine is in a
terminal state. -/
def watch (b : Bridge) (w : Nat) : Bridge :=
  match b.watchers[w]? with
  | none => b
  | some watcher =>
    if watcher.running then
      if watcher.isOpen then
        match b.receiveState watcher.machine watcher.subscription with
        | (taken, .value x) =>
          if x.isTerminal then
            (taken.dispatch watcher.application (.closeForStop watcher.id w)).1.endWatcher w watcher
          else taken
        | (taken, .ended) => taken.endWatcher w watcher
        | (_, .pending) => b
      else b.endWatcher w watcher
    else b

/-! ## workers -/

/-- Whether the worker of a machine has something to do. -/
def canWork (b : Bridge) (m : Nat) : Bool :=
  match b.machines[m]? with
  | none => false
  | some machine => machine.disconnect.canWork

/-- One step of the worker of a machine. -/
def work (b : Bridge) (m : Nat) : Bridge :=
  b.modifyMachine m fun x => { x with disconnect := x.disconnect.work x.configuration }

/-! ## background stops -/

def setStage (b : Bridge) (s : Nat) (stage : StopStage) : Bridge :=
  { b with stops := b.stops.modify s fun x => { x with stage } }

/-- End a background stop, which drops its reference to the machine. -/
def endStop (b : Bridge) (s m : Nat) : Bridge := (b.setStage s .ended).dropReference m

def canStop (b : Bridge) (s : Nat) : Bool :=
  match b.stops[s]? with
  | none => false
  | some stop =>
    match stop.stage with
    | .checking => true
    | .stopping => true
    | .waiting call => (b.callResult? call).isSome
    | .ended => false

/-- One step of a background stop: ask whether the machine can be stopped, then
stop it and wait for the completion. A failure is ignored. -/
def stop (env : Environment) (b : Bridge) (s : Nat) : Bridge :=
  match b.stops[s]? with
  | none => b
  | some { machine := m, stage } =>
    match stage with
    | .checking =>
      match b.ask env m .canStop with
      | (b', true) => b'.setStage s .stopping
      | (b', false) => b'.endStop s m
    | .stopping =>
      match b.beginControl m .stop with
      | (b', .ok call) => b'.setStage s (.waiting call)
      | (b', .error _) => b'.endStop s m
    | .waiting call => if (b.callResult? call).isSome then b.endStop s m else b
    | .ended => b

end MachineBridge.Bridge
