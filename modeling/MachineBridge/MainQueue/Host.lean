import MachineBridge.MainQueue.Settle

/-!
# MachineBridge.MainQueue.Host

A program that hosts a main loop: it keeps handles of the queue and the calls of
its threads under names, runs the loop on a thread of its own, and lets it work
until it can do no more after every step.
-/

namespace MachineBridge

/-- What the host says about the loop it runs itself. -/
inductive LoopPhase where
  | notStarted
  | running
  | exited
deriving DecidableEq, Repr

/-- A loop, the names of the handles, and the callers by the names of their calls.
A `spawned` loop runs from the start and is not the host's to run. -/
structure Host (ν : Type) where
  loop : Loop ν := {}
  handles : List String := ["main"]
  calls : List (String × Nat) := []
  /-- Whether the host still has a loop that it could run or drop. -/
  hasLoop : Bool := true
  started : Bool := false
deriving Repr

namespace Host

variable {ν : Type}

/-- A host whose loop runs on a thread of its own from the start. -/
def spawned : Host ν :=
  { loop := { queue := { status := .running } }, hasLoop := false }

/-- One use of the queue. -/
inductive Step (ν : Type) where
  | clone (handle : String) (newName : String)
  | drop (handle : String)
  | quit (handle : String)
  | isMain (handle : String)
  | run
  | dropLoop
  | dispatch (handle : String) (task : Program ν)
  | sync (handle : String) (task : Program ν) (call : String)
  | join (call : String)
  | openGate (gate : String)
deriving Repr

inductive Reply (ν : Type) where
  | done
  | truth (b : Bool)
  | exited
  | pending
  | handedOver (r : Except BridgeError Unit)
  | result (r : Except BridgeError (TaskValue ν))
  | count (n : Nat)
  | noQueue
  | noLoop
  | noCall
deriving Repr

/-- How far the loop is that the host runs. -/
def phase (h : Host ν) : LoopPhase :=
  if !h.started then .notStarted
  else if h.loop.queue.status = .gone then .exited else .running

/-- What a caller has got. -/
def callerReply (h : Host ν) (caller : Nat) : Reply ν :=
  match h.loop.callers[caller]? with
  | some (some r) => .result r
  | _ => .pending

/-- Do something with a handle that has to exist. -/
def withHandle (h : Host ν) (handle : String) (use : Host ν × Reply ν) : Host ν × Reply ν :=
  if h.handles.contains handle then use else (h, .noQueue)

def settle (h : Host ν) : Host ν := { h with loop := h.loop.settle }

/-- Do one step and let the loop work. -/
def step (h : Host ν) : Step ν → Host ν × Reply ν
  | .clone handle newName => h.withHandle handle <|
    let replaced := h.handles.contains newName
    let queue := if replaced then h.loop.queue else h.loop.queue.cloneHandle
    ({ h with
        loop := { h.loop with queue }
        handles := if replaced then h.handles else newName :: h.handles }, .done)
  | .drop handle =>
    if h.handles.contains handle then
      ({ h with
          loop := { h.loop with queue := h.loop.queue.dropHandle }
          handles := h.handles.erase handle }.settle, .truth true)
    else (h, .truth false)
  | .quit handle => h.withHandle handle
    ({ h with loop := { h.loop with queue := h.loop.queue.quit } }.settle, .done)
  | .isMain handle => h.withHandle handle (h, .truth false)
  | .run =>
    if h.hasLoop then
      let h := { h with
        loop := { h.loop with queue := h.loop.queue.start }
        hasLoop := false
        started := true }.settle
      (h, if h.phase = .exited then .exited else .pending)
    else (h, .noLoop)
  | .dropLoop =>
    if h.hasLoop then ({ h with loop := h.loop.dropUnrun, hasLoop := false }, .truth true)
    else (h, .truth false)
  | .dispatch handle task => h.withHandle handle <|
    let (loop, r) := h.loop.dispatch task
    ({ h with loop }.settle, .handedOver r)
  | .sync handle task call => h.withHandle handle <|
    let (loop, caller) := h.loop.call task
    let h := { h with
      loop
      calls := (call, caller) :: h.calls.filter fun (n, _) => n ≠ call }.settle
    (h, h.callerReply caller)
  | .join call =>
    match h.calls.lookup call with
    | some caller => (h, h.callerReply caller)
    | none => (h, .noCall)
  | .openGate gate =>
    let (loop, n) := h.loop.openGate gate
    ({ h with loop }.settle, .count n)

end Host

end MachineBridge
