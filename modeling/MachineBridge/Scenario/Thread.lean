import MachineBridge.Scenario.Name
import MachineBridge.Serialization

/-!
# MachineBridge.Scenario.Thread

Threads at work.  A thread runs until it blocks, and goes on when what it waits
for is there.  When its call has returned it leaves the main thread it was on and
drops its reference to the machine.
-/

namespace MachineBridge.Scenario

def modifyThread (s : Scenario) (t : Nat) (f : Thread → Thread) : Scenario :=
  { s with threads := s.threads.modify t f }

/-- The answer of a call that returns nothing. -/
def Answer.ofUnit : Except BridgeError Unit → Answer
  | .ok () => .done
  | .error e => .failed e

/-- What is shown of a machine. -/
def infoOf (m : Machine) : Answer :=
  .info m.platform.text (Serial.write m.configuration) m.debugText

/-- Create a machine, and name it if that succeeds. -/
def create (s : Scenario) (script : Nat) (vm : String) (platform : PlatformVersion)
    (configuration : MachineConfiguration) (failure : Option BridgeError) : Scenario × Answer :=
  match s.bridge.beginCreate platform configuration with
  | (bridge, .error e) => ({ s with bridge }, .failed e)
  | (bridge, .ok m) =>
    let begun : Scenario := { s with bridge }
    let responded := (begun.modifyScript script fun x => { x with machine := some m }).reacted
    match failure with
    | some e => (responded, .failed e)
    | none => (responded.nameMachine vm m, .done)

/-- Begin a task, and say how far it gets. -/
def begin (s : Scenario) (place : Option Nat) : Task → Scenario × Stage
  | .create script vm platform configuration failure =>
    let (s, a) := s.create script vm platform configuration failure
    (s, .ended a)
  | .clone m newName =>
    ((s.change fun _ b => b.addReference m).nameMachine newName m, .ended .done)
  | .drop _ => (s, .ended .done)
  | .askAll m =>
    let (s, bs) := s.act fun env b => b.askAll env m Query.all
    (s, .ended (.truths bs))
  | .control m op =>
    match s.act fun _ b => b.beginControl m op with
    | (s, .ok call) => (s, .waiting call)
    | (s, .error e) => (s, .ended (.failed e))
  | .requestStop m =>
    match s.act fun env b => b.requestStop env m with
    | (s, .ok answer) => (s, .ended (.truth answer))
    | (s, .error e) => (s, .ended (.failed e))
  | .finalize m threads =>
    (if threads = 0 then s else s.change fun _ b => b.beginTeardown m, .ended .done)
  | .startGraphics m a width height options =>
    let (s, r) := s.act fun _ b => b.startGraphics m a width height options
    (s, .ended (.ofUnit r))
  | .info m =>
    match s.bridge.machines[m]? with
    | some machine => (s, .ended (infoOf machine))
    | none => (s, .ended .noSuchName)
  | .show m =>
    let (s, r) := s.act fun _ b => b.showWindow m
    (s, .ended (.ofUnit r))
  | .bringToFront m =>
    match s.act fun env b => b.beginFront env m place with
    | (s, .ok inquiry) => (s, .asking inquiry)
    | (s, .error e) => (s, .ended (.failed e))
  | .hasWindow m =>
    match s.act fun env b => b.beginHasWindow env m place with
    | (s, some inquiry) => (s, .asking inquiry)
    | (s, none) => (s, .ended (.truth false))
  | .userClose a id =>
    ((s.modifyScreen a (·.hide id)).change fun _ b => b.userClosed a id, .ended .done)
  | .subscribe m stream =>
    let (s, i) := s.act fun _ b => b.subscribeStates m
    (s.nameStream stream (.states m i), .ended .done)
  | .subscribeDisconnect m stream =>
    match s.act fun _ b => b.subscribeDisconnects m with
    | (s, .ok i) => (s.nameStream stream (.disconnects m i), .ended .done)
    | (s, .error e) => (s, .ended (.failed e))
  | .raise script codes =>
    let (s, rs) := s.raiseStates script codes
    (s, .ended (.allDelivered rs))
  | .callback event silent =>
    let (s, r) := s.raise event
    (s, .ended (if silent then .returned else .delivered r))
  | .register number =>
    let (s, h) := s.act fun _ b => b.registerNumber number
    (s, .ended (.token h))
  | .release token =>
    let (s, r) := s.act fun _ b => b.releaseToken token
    (s, .ended (.released r))
  | .contains token => (s, .ended (.truth (s.bridge.registry.contains token)))
  | .resolve token kind => (s, .ended (.resolved (s.bridge.registry.resolve kind token)))
  | .hold _ => (s, .ended .done)

/-- Go on with a task once it is known whether the window it asked about is
visible. -/
def goOn (s : Scenario) (task : Task) (inquiry : Nat) (v : Visibility) : Scenario × Answer :=
  match task with
  | .bringToFront _ =>
    let (s, r) := s.act fun _ b => b.finishFront inquiry v
    (s, .ofUnit r)
  | _ => (s, .truth v.hasWindow)

/-- The status of the task of the host as which a thread runs. -/
def jobStatus? (s : Scenario) (t : Thread) : Option JobStatus :=
  t.job.bind fun j => s.bridge.jobs[j]?

/-- Let the call of a thread return. -/
def finish (s : Scenario) (t : Nat) (a : Answer) : Scenario :=
  match s.threads[t]? with
  | none => s
  | some thread =>
    let ended := s.modifyThread t fun x => { x with stage := .ended a }
    let left := match thread.place, s.jobStatus? thread with
      | some application, some .running =>
        ended.change fun _ b => b.leaveJob application .ended
      | _, _ => ended
    match thread.task.machine? with
    | some m => left.change fun _ b => b.dropReference m
    | none => left

/-- Move a thread to a stage, which may be its last. -/
def moveTo (s : Scenario) (t : Nat) : Stage → Scenario
  | .ended a => s.finish t a
  | stage => s.modifyThread t fun x => { x with stage }

/-- Whether a thread can go on. -/
def canAdvance (s : Scenario) (thread : Thread) : Bool :=
  match thread.stage with
  | .ended _ => false
  | .queued =>
    match s.jobStatus? thread with
    | some .queued => false
    | _ => true
  | .ready =>
    match thread.task with
    | .hold released => released
    | _ => true
  | .waiting call => (s.bridge.callResult? call).isSome
  | .asking inquiry => (s.bridge.visibility? inquiry).isSome

/-- Let a thread go on. A thread whose task of the host was dropped returns with
the error of that. -/
def advance (s : Scenario) (t : Nat) : Scenario :=
  match s.threads[t]? with
  | none => s
  | some thread =>
    if s.canAdvance thread then
      if s.jobStatus? thread = some .dropped then s.finish t (.failed .taskDropped)
      else match thread.stage with
        | .queued => s.moveTo t .ready
        | .ready =>
          let (s, stage) := s.begin thread.place thread.task
          s.moveTo t stage
        | .waiting call =>
          match s.bridge.callResult? call with
          | some r => s.finish t (.ofUnit r)
          | none => s
        | .asking inquiry =>
          match s.bridge.visibility? inquiry with
          | some v =>
            let (s, a) := s.goOn thread.task inquiry v
            s.finish t a
          | none => s
        | .ended _ => s
    else s

/-- Start a thread for a task, on a thread of its own or on the main thread of an
application; answers the number of the thread. The thread takes a reference to
the machine it is about, unless it is handed one. -/
def spawn (s : Scenario) (task : Task) (place : Option Nat) : Scenario × Nat :=
  let t := s.threads.length
  let referenced := match task.machine?, task.givenUp? with
    | some m, none => s.change fun _ b => b.addReference m
    | _, _ => s
  match place with
  | none => ({ referenced with threads := s.threads ++ [{ task := task }] }, t)
  | some a =>
    match referenced.act fun _ b => b.postJob a with
    | (posted, .ok job) =>
      let thread : Thread := { task, place, job := some job, stage := .queued }
      ({ posted with threads := s.threads ++ [thread] }, t)
    | (refused, .error e) =>
      let thread : Thread := { task, place }
      (({ refused with threads := s.threads ++ [thread] } : Scenario).finish t (.failed e), t)

end MachineBridge.Scenario
