import MachineBridge.MainQueue.Program

/-!
# MachineBridge.MainQueue.Loop

The main loop at work.  `Loop.tick` is one step of it: taking a task off the
queue, one step of the task that is running, or ending.  A task that panics is
abandoned and nothing else is.  Whoever waits for a task from another thread is
a caller, and gets the value of the task, or the failure of the hand-over, or
word that the task will never finish.
-/

namespace MachineBridge

/-- A queued task and the caller that waits for it, if one does. -/
structure Job (ν : Type) where
  program : Program ν
  caller : Option Nat := none
deriving Repr

/-- What a running task will go on with. -/
inductive Continuation (ν : Type) where
  /-- The end of a program that was run in place. -/
  | inPlace
  /-- The rest of a sequence, with the values so far, last first. -/
  | seq (reversed : List (TaskValue ν)) (rest : List (Program ν))
deriving Repr

/-- What a running task is about to do. -/
inductive Focus (ν : Type) where
  | run (p : Program ν)
  | yield (v : TaskValue ν)
  | waiting (gate : String)
deriving Repr

/-- The task the loop is running. -/
structure Activity (ν : Type) where
  caller : Option Nat
  stack : List (Continuation ν) := []
  focus : Focus ν
deriving Repr

/-- What a caller has got: nothing yet, the value of its task, or an error. -/
abbrev CallerResult (ν : Type) := Option (Except BridgeError (TaskValue ν))

/-- A queue with its loop, the task that is running, the log of all tasks, and
the callers by number. -/
structure Loop (ν : Type) where
  queue : MainQueue (Job ν) := {}
  current : Option (Activity ν) := none
  log : List (LogEntry ν) := []
  callers : List (CallerResult ν) := []
deriving Repr

namespace Loop

variable {ν : Type}

/-! ## callers -/

/-- Give a caller its result; its thread then drops its handle of the queue. -/
def answer (l : Loop ν) (caller : Option Nat) (r : Except BridgeError (TaskValue ν)) : Loop ν :=
  match caller with
  | none => l
  | some c => { l with callers := l.callers.set c (some r), queue := l.queue.dropHandle }

/-- Tell the callers of discarded tasks. -/
def discard (l : Loop ν) (jobs : List (Job ν)) : Loop ν :=
  jobs.foldl (fun l job => l.answer job.caller (.error .taskDropped)) l

/-- Hand a task over without waiting for it. -/
def dispatch (l : Loop ν) (p : Program ν) : Loop ν × Except BridgeError Unit :=
  match l.queue.dispatch { program := p } with
  | .ok queue => ({ l with queue }, .ok ())
  | .error e => (l, .error e)

/-- Hand a task over from another thread, which waits for it with a handle of
its own; answers the number of the caller. -/
def call (l : Loop ν) (p : Program ν) : Loop ν × Nat :=
  let c := l.callers.length
  match l.queue.dispatch { program := p, caller := some c } with
  | .ok queue => ({ l with queue := queue.cloneHandle, callers := l.callers ++ [none] }, c)
  | .error e => ({ l with callers := l.callers ++ [some (.error e)] }, c)

/-- Drop a loop that was not started. -/
def dropUnrun (l : Loop ν) : Loop ν :=
  ({ l with queue := l.queue.finish }).discard l.queue.tasks

/-! ## the running task -/

def record (l : Loop ν) (e : LogEntry ν) : Loop ν := { l with log := l.log ++ [e] }

/-- Let the running task go on with a focus. -/
def goOn (l : Loop ν) (a : Activity ν) (focus : Focus ν) : Loop ν :=
  { l with current := some { a with focus } }

def leave (l : Loop ν) : Loop ν := { l with current := none }

/-- One step of a program that is running. -/
def runProgram (l : Loop ν) (a : Activity ν) : Program ν → Loop ν
  | .log v => (l.record (.value v)).goOn a (.yield (.logged (.value v)))
  | .panic v => ((l.record (.value v)).answer a.caller (.error .taskDropped)).leave
  | .isMain => (l.record (.isMain true)).goOn a (.yield (.logged (.isMain true)))
  | .sync p => l.goOn { a with stack := .inPlace :: a.stack } (.run p)
  | .dispatch p =>
    let (l, r) := l.dispatch p
    l.goOn a (.yield (.handedOver r))
  | .quit => { l with queue := l.queue.quit }.goOn a (.yield .quit)
  | .cloneHandle => { l with queue := l.queue.cloneHandle }.goOn a (.yield (.list []))
  | .dropHandle => { l with queue := l.queue.dropHandle }.goOn a (.yield (.list []))
  | .wait gate => l.goOn a (.waiting gate)
  | .seq [] => l.goOn a (.yield (.list []))
  | .seq (p :: ps) => l.goOn { a with stack := .seq [] ps :: a.stack } (.run p)

/-- Give a value to what the running task goes on with. -/
def returnValue (l : Loop ν) (a : Activity ν) (v : TaskValue ν) : Loop ν :=
  match a.stack with
  | [] => (l.answer a.caller (.ok v)).leave
  | .inPlace :: stack => l.goOn { a with stack } (.yield (.ran v))
  | .seq reversed [] :: stack =>
    l.goOn { a with stack } (.yield (.list (v :: reversed).reverse))
  | .seq reversed (p :: ps) :: stack =>
    l.goOn { a with stack := .seq (v :: reversed) ps :: stack } (.run p)

/-! ## the loop -/

def canTick (l : Loop ν) : Bool :=
  match l.current with
  | some { focus := .waiting _, .. } => false
  | some _ => true
  | none => l.queue.status == .running && (!l.queue.messages.isEmpty || l.queue.handles == 0)

/-- One step of the loop. -/
def tick (l : Loop ν) : Loop ν :=
  match l.current with
  | some a =>
    match a.focus with
    | .run p => l.runProgram a p
    | .yield v => l.returnValue a v
    | .waiting _ => l
  | none =>
    if l.queue.status = .running then
      match l.queue.take with
      | (queue, .run job) =>
        { l with queue, current := some { caller := job.caller, focus := .run job.program } }
      | (queue, .exit jobs) => { l with queue }.discard jobs
      | (_, .idle) => l
    else l

/-- Open a gate; answers the number of tasks that waited at it. -/
def openGate (l : Loop ν) (gate : String) : Loop ν × Nat :=
  match l.current with
  | some a =>
    match a.focus with
    | .waiting g => if g = gate then (l.goOn a (.yield .waited), 1) else (l, 0)
    | _ => (l, 0)
  | none => (l, 0)

end Loop

end MachineBridge
