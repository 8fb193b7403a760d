import MachineBridge.Scenario.Name
import MachineBridge.Scenario.Settle

/-!
# MachineBridge.Scenario.Step

The steps of a scenario.  A step names what it is about, does it, and lets
everything settle; the report of a step shows its answer and what the scripts
noted, with the machines and windows there are.
-/

namespace MachineBridge.Scenario

/-- A call into the bridge, over names. -/
inductive Request where
  | create (vm : String) (platform : PlatformVersion) (configuration : MachineConfiguration)
    (during : Plan) (failure : Option BridgeError)
  | clone (vm newName : String)
  | drop (vm : String)
  | askAll (vm : String)
  | control (vm : String) (operation : Operation)
  | requestStop (vm : String)
  | finalize (vm : String) (threads : Nat)
  | startGraphics (vm application : String) (width height : Float) (options : GraphicsOptions)
  | info (vm : String)
  | show (vm : String)
  | bringToFront (vm : String)
  | hasWindow (vm : String)
  | userClose (application : String) (token : TokenName)
  | subscribe (vm stream : String)
  | subscribeDisconnect (vm stream : String)
  | raise (vm : String) (codes : List Int32)
  /-- Raise an event with a token; a silent one does not tell what became of it. -/
  | callback (token : TokenName) (event : Handle → Callback) (silent : Bool)
  | register (number : Int32)
  | release (token : TokenName)
  | contains (token : TokenName)
  | resolve (token : TokenName) (kind : Kind)

/-- One step of a scenario. -/
inductive Step where
  /-- Make a call, on the main thread of an application if one is named, and keep
  what it comes to if it is given a name. -/
  | call (request : Request) (on name : Option String)
  | join (call : String)
  | receive (stream : String)
  | drain (stream : String)
  | unsubscribe (stream : String)
  | plan (vm operation : String) (plan : Plan)
  | abilities (vm : String) (abilities : List (Query × Bool))
  | addApplication (name : String)
  | hold (application : String)
  | unhold (application : String)
  | quit (application : String)
  | armPanic (application method : String)
  | hideWindow (application : String) (token : TokenName)
  | token (token : TokenName)

/-! ## names -/

/-- The task of a request, if everything it names exists. -/
def task? (s : Scenario) : Request → Option Task
  | .create vm platform configuration _ failure =>
    some (.create s.scripts.length vm platform configuration failure)
  | .clone vm newName => (s.machines.lookup vm).map fun m => .clone m newName
  | .drop vm => (s.machines.lookup vm).map .drop
  | .askAll vm => (s.machines.lookup vm).map .askAll
  | .control vm op => (s.machines.lookup vm).map fun m => .control m op
  | .requestStop vm => (s.machines.lookup vm).map .requestStop
  | .finalize vm threads => (s.machines.lookup vm).map fun m => .finalize m threads
  | .startGraphics vm application width height options => do
    let m ← s.machines.lookup vm
    let a ← s.applications.lookup application
    some (.startGraphics m a width height options)
  | .info vm => (s.machines.lookup vm).map .info
  | .show vm => (s.machines.lookup vm).map .show
  | .bringToFront vm => (s.machines.lookup vm).map .bringToFront
  | .hasWindow vm => (s.machines.lookup vm).map .hasWindow
  | .userClose application token => do
    let a ← s.applications.lookup application
    let id ← s.token? token
    some (.userClose a id)
  | .subscribe vm stream => (s.machines.lookup vm).map fun m => .subscribe m stream
  | .subscribeDisconnect vm stream =>
    (s.machines.lookup vm).map fun m => .subscribeDisconnect m stream
  | .raise vm codes => (s.runtimes.lookup vm).map fun k => .raise k codes
  | .callback token event silent => (s.token? token).map fun h => .callback (event h) silent
  | .register number => some (.register number)
  | .release token => (s.token? token).map .release
  | .contains token => (s.token? token).map .contains
  | .resolve token kind => (s.token? token).map fun h => .resolve h kind

/-- Make ready for a request: a machine to be created gets a script for its
runtime, which has its name even if the creation fails; a clone's name means the
runtime of the cloned machine; and the name of a machine to be dropped is taken
away. -/
def prepared (s : Scenario) : Request → Scenario
  | .create vm _ _ during failure =>
    { s with
      scripts := s.scripts ++ [{ name := vm, during, failure }]
      runtimes := rename vm s.scripts.length s.runtimes }
  | .clone vm newName =>
    match s.runtimes.lookup vm with
    | some k => { s with runtimes := rename newName k s.runtimes }
    | none => s
  | .drop vm => { s with machines := unname vm s.machines }
  | _ => s

/-- Do something with the number of a name, if the name exists. -/
def withName {α : Type} (s : Scenario) (table : List (String × α)) (name : String)
    (use : α → Scenario × Answer) : Scenario × Answer :=
  match table.lookup name with
  | some a => use a
  | none => (s, .noSuchName)

/-- Do something with a token, if its name exists. -/
def withToken (s : Scenario) (name : TokenName) (use : Handle → Scenario × Answer) :
    Scenario × Answer :=
  match s.token? name with
  | some h => use h
  | none => (s, .noSuchName)

/-! ## doing a step -/

/-- Make a call on a thread of its own or on a main thread, let everything settle,
and say what the call has come to. -/
def makeCall (s : Scenario) (request : Request) (on name : Option String) : Scenario × Answer :=
  match s.task? request, on.map fun application => s.applications.lookup application with
  | none, _ => (s, .noSuchName)
  | _, some none => (s, .noSuchName)
  | some task, place =>
    let (spawned, t) := (s.prepared request).spawn task place.join
    let named := match name with
      | some call => { spawned with calls := rename call t spawned.calls }
      | none => spawned
    let settled := named.settle
    (settled, ((settled.threads[t]?).map (·.answer)).getD .noSuchName)

/-- What can be received from a stream now. -/
def receiveFrom (s : Scenario) : Stream → Scenario × Answer
  | .states m i =>
    let (s, r) := s.act fun _ b => b.receiveState m i
    (s, .state r)
  | .disconnects m i =>
    let (s, r) := s.act fun _ b => b.receiveDisconnect m i
    (s, .disconnect r)

/-- Everything that can be received from a stream now. -/
def drainFrom (s : Scenario) : Stream → Scenario × Answer
  | .states m i =>
    let (s, xs, ended) := s.act fun _ b => b.drainStates m i
    (s, .states xs ended)
  | .disconnects m i =>
    let (s, xs, ended) := s.act fun _ b => b.drainDisconnects m i
    (s, .disconnects xs ended)

/-- Whether a thread occupies the main thread of an application, or is going to,
and was not released. -/
def Thread.isHolding (a : Nat) (thread : Thread) : Bool :=
  match thread.task with
  | .hold false => thread.place == some a
  | _ => false

/-- Occupy the main thread of an application. -/
def holdMain (s : Scenario) (a : Nat) : Scenario × Answer :=
  match s.act fun _ b => b.postJob a with
  | (posted, .ok job) =>
    let thread : Thread :=
      { task := .hold false, place := some a, job := some job, stage := .queued }
    ({ posted with threads := posted.threads ++ [thread] }, .done)
  | (refused, .error e) => (refused, .failed e)

/-- Release the main thread of an application; answers how often it was to be
occupied. -/
def unholdMain (s : Scenario) (a : Nat) : Scenario × Answer :=
  ({ s with
      threads := s.threads.map fun thread =>
        if thread.isHolding a then { thread with task := .hold true } else thread },
    .count (s.threads.countP (·.isHolding a)))

/-- Do a step; what follows from it has not happened yet. -/
def perform (s : Scenario) : Step → Scenario × Answer
  | .call request on name => s.makeCall request on name
  | .join call => s.withName s.calls call fun t =>
    (s, ((s.threads[t]?).map (·.answer)).getD .noSuchName)
  | .receive stream => s.withName s.streams stream s.receiveFrom
  | .drain stream => s.withName s.streams stream s.drainFrom
  | .unsubscribe stream =>
    match s.streams.lookup stream with
    | some x => (({ s with streams := unname stream s.streams } : Scenario).dropStream x, .truth true)
    | none => (s, .truth false)
  | .plan vm operation plan => s.withName s.runtimes vm fun k =>
    (s.modifyScript k fun script =>
      { script with plans := script.plans ++ [(operation, plan)] }, .done)
  | .abilities vm abilities => s.withName s.runtimes vm fun k =>
    (s.modifyScript k fun script =>
      { script with abilities := abilities ++ script.abilities }, .done)
  | .addApplication name =>
    let (s, a) := s.act fun _ b => b.addApplication
    ({ s with screens := s.screens ++ [{}], applications := rename name a s.applications }, .done)
  | .hold application => s.withName s.applications application s.holdMain
  | .unhold application => s.withName s.applications application s.unholdMain
  | .quit application => s.withName s.applications application fun a =>
    (s.change fun _ b => b.quit a, .done)
  | .armPanic application method => s.withName s.applications application fun a =>
    (s.modifyScreen a fun screen => screen.armPanic method, .done)
  | .hideWindow application token => s.withName s.applications application fun a =>
    s.withToken token fun h => (s.modifyScreen a fun screen => screen.hide h, .done)
  | .token token => s.withToken token fun h => (s, .token h)

/-! ## reports -/

structure Report where
  answer : Answer
  /-- What the runtimes noted, by the names of their machines. -/
  runtimes : List (String × List RuntimeEntry)
  /-- The calls into the toolkits, by the names of their applications. -/
  toolkits : List (String × List ToolkitCall)
  /-- The number of tokens that name a value. -/
  live : Nat
  /-- The current state of every machine the program holds. -/
  states : List (String × ExecutionState)
  /-- The number of open windows of every application. -/
  windows : List (String × Nat)
deriving Repr

def report (s : Scenario) (answer : Answer) : Report where
  answer
  runtimes := (s.scripts.map fun script => (script.name, script.log)).filter fun (_, log) =>
    !log.isEmpty
  toolkits := (s.applications.map fun (name, a) =>
    (name, ((s.screens[a]?).map (·.log)).getD [])).filter fun (_, log) => !log.isEmpty
  live := s.bridge.registry.size
  states := s.machines.filterMap fun (name, m) => (s.bridge.state? m).map fun x => (name, x)
  windows := s.applications.filterMap fun (name, a) =>
    (s.bridge.applications[a]?).map fun x => (name, x.windowCount)

/-- Forget what was noted. -/
def cleared (s : Scenario) : Scenario :=
  { s with
    scripts := s.scripts.map fun script => { script with log := [] }
    screens := s.screens.map fun screen => { screen with log := [] } }

/-- Do a step, let everything settle, and report. -/
def step (s : Scenario) (x : Step) : Scenario × Report :=
  let (performed, answer) := s.perform x
  let settled := performed.settle
  (settled.cleared, settled.report answer)

def run (s : Scenario) : List Step → List Report
  | [] => []
  | x :: rest =>
    let (s, report) := s.step x
    report :: s.run rest

end MachineBridge.Scenario
