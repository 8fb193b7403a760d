import MachineBridge.MainQueue

/-!
# MachineBridge.MainQueue.Program

Tasks of the main thread as programs.  A program logs, panics, waits at a gate,
hands further programs to the queue, runs one in its own place, or makes and drops
handles of the queue.
-/

namespace MachineBridge

/-- A task, over the values `ν` that it logs. -/
inductive Program (ν : Type) where
  | log (v : ν)
  /-- Log a value, then panic. -/
  | panic (v : ν)
  /-- Log and answer whether this is the main thread. -/
  | isMain
  /-- Run a program on the main thread and wait for it, from the main thread itself. -/
  | sync (p : Program ν)
  /-- Hand a program to the queue. -/
  | dispatch (p : Program ν)
  /-- Ask the loop to quit. -/
  | quit
  /-- Make a handle of the queue that outlives the task. -/
  | cloneHandle
  /-- Drop a handle of the queue that was not the task's own. -/
  | dropHandle
  /-- Wait at a gate until it is opened. -/
  | wait (gate : String)
  | seq (ps : List (Program ν))
deriving Repr

/-- An entry in the log of a queue. -/
inductive LogEntry (ν : Type) where
  | value (v : ν)
  | isMain (b : Bool)
deriving DecidableEq, Repr

/-- The value a task ends with. -/
inductive TaskValue (ν : Type) where
  | logged (e : LogEntry ν)
  /-- A program that was run in place, with its value. -/
  | ran (v : TaskValue ν)
  /-- A program that was handed over, or not. -/
  | handedOver (r : Except BridgeError Unit)
  | quit
  | waited
  | list (vs : List (TaskValue ν))
deriving Repr

mutual

/-- A bound on the number of steps in a program, those of the programs it hands
over and of the messages it sends included. -/
def Program.size {ν : Type} : Program ν → Nat
  | .sync p => p.size + 2
  | .dispatch p => p.size + 3
  | .quit => 3
  | .seq ps => Program.sizeList ps + 2
  | .log _ => 2
  | .panic _ => 2
  | .isMain => 2
  | .cloneHandle => 2
  | .dropHandle => 2
  | .wait _ => 2

/-- The same bound for a list of programs. -/
def Program.sizeList {ν : Type} : List (Program ν) → Nat
  | [] => 0
  | p :: ps => p.size + Program.sizeList ps + 1

end

end MachineBridge
