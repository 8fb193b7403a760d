import MachineBridge.Bridge.Window

/-!
# MachineBridge.Bridge.MainThread

What happens on the main thread of an application, and the report of its toolkit
that the user closed a window.  A window gets a controller, and with it a watcher
of its machine's states, when it is created, and loses both when it is closed,
whoever closes it.
-/

namespace MachineBridge.Bridge

/-! ## closing -/

/-- Remove the controller of a window; its watcher is closed with it. -/
def removeController (b : Bridge) (a : Nat) (id : Handle) (w : Nat) : Bridge :=
  (b.modifyApplication a (·.eraseController id)).modifyWatcher w fun x => { x with isOpen := false }

/-- Begin to stop a machine in the background, with a reference to it. The thread for
it always starts: where it could not, the machine would be left as it is. -/
def beginStop (b : Bridge) (m : Nat) : Bridge :=
  let begun : Bridge := { b with stops := b.stops ++ [{ machine := m }] }
  begun.addReference m

/-- The user closed a window. If the application has it, it loses its controller,
its machine is stopped in the background and told that the window is closed. -/
def userClosed (b : Bridge) (a : Nat) (id : Handle) : Bridge :=
  match (b.applications[a]?).bind (·.watcher? id) with
  | none => b
  | some w =>
    let removed := (b.removeController a id w).modifyApplication a fun x =>
      { x with history := x.history ++ [.closedByUser id] }
    let stopping := match removed.registry.resolve .windowBinding id with
      | .ok v => removed.beginStop v.owner
      | .error _ => removed
    (stopping.receive (.windowClosed id)).1

/-! ## tasks -/

/-- Create the window of a machine with its controller, or show it again if the
application has it already. The thread of the watcher always starts: where it could
not, the window would stay on screen when its machine stops. -/
def runPresent (env : Environment) (b : Bridge) (a : Nat) (id : Handle) (spec : WindowSpec)
    (m i : Nat) : Bridge :=
  match (b.applications[a]?).bind (·.watcher? id) with
  | some _ => (b.callToolkit env a [.show id, .bringToFront id]).dropStates m i
  | none =>
    let w := b.watchers.length
    let watched : Bridge := { b with
      watchers := b.watchers ++ [{ application := a, id, machine := m, subscription := i }] }
    (watched.modifyApplication a (·.insertController id w)).callToolkit env a
      [.create id spec, .show id, .bringToFront id]

/-- Close a window at teardown, if the application has it. -/
def runForget (env : Environment) (b : Bridge) (a : Nat) (id : Handle) : Bridge :=
  match (b.applications[a]?).bind (·.watcher? id) with
  | none => b
  | some w => (b.removeController a id w).callToolkit env a [.close id]

/-- Close the window of a stopped machine, if it still is the one that the
watcher was started for, and tell the machine. -/
def runCloseForStop (env : Environment) (b : Bridge) (a : Nat) (id : Handle) (w : Nat) : Bridge :=
  if (b.applications[a]?).bind (·.watcher? id) = some w then
    let closed := (b.removeController a id w).callToolkit env a [.close id]
    if env.panics a (.close id) then closed else (closed.receive (.windowClosed id)).1
  else b

/-- Run a task of the main thread. A task of the host occupies the thread until
the host leaves it. -/
def runTask (env : Environment) (b : Bridge) (a : Nat) : MainTask → Bridge
  | .present id spec m i => b.runPresent env a id spec m i
  | .bringToFront id => b.callToolkit env a [.bringToFront id]
  | .inquire i => b.look env i
  | .forget id => b.runForget env a id
  | .closeForStop id w => b.runCloseForStop env a id w
  | .host j => (b.setJob j .running).modifyApplication a fun x => { x with job := some j }

/-- Whether the main loop of an application has something to do. -/
def canTurn (b : Bridge) (a : Nat) : Bool :=
  match b.applications[a]? with
  | none => false
  | some x =>
    x.job.isNone && x.queue.status == .running &&
      (!x.queue.messages.isEmpty || x.queue.handles == 0)

/-- One turn of the main loop of an application: a task is run, or the loop ends
and what is queued is discarded. -/
def mainTurn (env : Environment) (b : Bridge) (a : Nat) : Bridge :=
  if b.canTurn a then
    match b.applications[a]? with
    | none => b
    | some x =>
      let taken := b.modifyApplication a fun x => { x with queue := x.queue.take.1 }
      match x.queue.take.2 with
      | .run t => taken.runTask env a t
      | .exit ts => ts.foldl discardTask taken
      | .idle => taken
  else b

end MachineBridge.Bridge
