import MachineBridge.Error

/-!
# MachineBridge.MainQueue

The queue of the main thread.  Tasks are handed over by any thread that has a
handle and run in the order in which they were accepted, up to the first
message that asks the loop to quit.  A loop that was asked nothing of the kind
ends when no handle is left and its queue is empty.  What is queued when the
loop ends is discarded, and from then on every task is refused.
-/

namespace MachineBridge

/-- What is sent to the loop. -/
inductive Message (τ : Type) where
  | run (task : τ)
  | quit
deriving DecidableEq, Repr

/-- How far the loop of a queue is. -/
inductive LoopStatus where
  | notStarted
  | running
  /-- The loop has ended, or was dropped without being run. -/
  | gone
deriving DecidableEq, Repr

/-- The queue with its loop: the messages not yet taken, the number of handles
through which more can come, and how far the loop is. -/
structure MainQueue (τ : Type) where
  messages : List (Message τ) := []
  handles : Nat := 1
  status : LoopStatus := .notStarted
deriving DecidableEq, Repr

/-- What the loop finds when it looks at its queue. -/
inductive Turn (τ : Type) where
  | run (task : τ)
  | idle
  /-- The loop ends; the tasks still queued are discarded. -/
  | exit (discarded : List τ)
deriving DecidableEq, Repr

namespace MainQueue

variable {τ : Type}

/-- The task of a message, if it has one. -/
def Message.task? : Message τ → Option τ
  | .run t => some t
  | .quit => none

def tasks (q : MainQueue τ) : List τ := q.messages.filterMap Message.task?

def isOpen (q : MainQueue τ) : Bool := q.status != .gone

def dispatch (q : MainQueue τ) (t : τ) : Except BridgeError (MainQueue τ) :=
  if q.isOpen then .ok { q with messages := q.messages ++ [.run t] }
  else .error BridgeError.mainLoopNotRunning

/-- Ask the loop to end behind the tasks accepted so far. -/
def quit (q : MainQueue τ) : MainQueue τ :=
  if q.isOpen then { q with messages := q.messages ++ [.quit] } else q

def cloneHandle (q : MainQueue τ) : MainQueue τ := { q with handles := q.handles + 1 }

def dropHandle (q : MainQueue τ) : MainQueue τ := { q with handles := q.handles - 1 }

/-- Let the loop run; a loop runs once. -/
def start (q : MainQueue τ) : MainQueue τ :=
  if q.status = .notStarted then { q with status := .running } else q

/-- End the loop; what is queued is discarded. -/
def finish (q : MainQueue τ) : MainQueue τ := { q with messages := [], status := .gone }

/-- The running loop looks at its queue. -/
def take (q : MainQueue τ) : MainQueue τ × Turn τ :=
  match q.messages with
  | .run t :: rest => ({ q with messages := rest }, .run t)
  | .quit :: rest => (q.finish, .exit (rest.filterMap Message.task?))
  | [] => if q.handles = 0 then (q.finish, .exit []) else (q, .idle)

end MainQueue

end MachineBridge
