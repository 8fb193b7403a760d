import MachineBridge.Bridge

/-!
# MachineBridge.Bridge.Tasks

Handing tasks to the main thread of an application.  A task that is refused, or
discarded when the loop ends, gives back what it brought along: a subscription is
dropped, and whoever waits for the task is told that it will never finish.
-/

namespace MachineBridge.Bridge

/-- Hand a task to the main thread of an application. -/
def dispatch (b : Bridge) (a : Nat) (t : MainTask) : Bridge × Except BridgeError Unit :=
  match b.applications[a]? with
  | none => (b, .error .mainLoopNotRunning)
  | some application =>
    match application.queue.dispatch t with
    | .ok queue => (b.modifyApplication a fun x => { x with queue }, .ok ())
    | .error e => (b, .error e)

/-- Give back what a task brought along that will never run. -/
def discardTask (b : Bridge) : MainTask → Bridge
  | .present _ _ m i => b.dropStates m i
  | .inquire i => b.answerInquiry i (.unknown .taskDropped)
  | .host j => b.setJob j .dropped
  | .bringToFront _ => b
  | .forget _ => b
  | .closeForStop _ _ => b

/-- Hand over a task of the host; answers its number. -/
def postJob (b : Bridge) (a : Nat) : Bridge × Except BridgeError Nat :=
  match b.dispatch a (.host b.jobs.length) with
  | (b', .ok ()) => ({ b' with jobs := b'.jobs ++ [.queued] }, .ok b.jobs.length)
  | (b', .error e) => (b', .error e)

/-- Leave the task of the host that runs on a main thread, as ended or dropped. -/
def leaveJob (b : Bridge) (a : Nat) (s : JobStatus) : Bridge :=
  match (b.applications[a]?).bind (·.job) with
  | none => b
  | some j => (b.setJob j s).modifyApplication a fun x => { x with job := none }

/-- Add an application whose main loop is running; answers its number. -/
def addApplication (b : Bridge) : Bridge × Nat :=
  ({ b with applications := b.applications ++ [{}] }, b.applications.length)

def quit (b : Bridge) (a : Nat) : Bridge :=
  b.modifyApplication a fun x => { x with queue := x.queue.quit }

end MachineBridge.Bridge
