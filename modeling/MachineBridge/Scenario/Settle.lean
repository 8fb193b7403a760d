import MachineBridge.Scenario.Thread

/-!
# MachineBridge.Scenario.Settle

Letting everything run that can.  After a step of the program the main loops, the
threads of the program and the threads of the bridge take turns until every one
of them is blocked or gone.
-/

namespace MachineBridge.Scenario

/-- Whoever can take a turn. -/
inductive Actor where
  | mainLoop (application : Nat)
  | thread (t : Nat)
  | watcher (w : Nat)
  | worker (machine : Nat)
  | backgroundStop (stop : Nat)
deriving DecidableEq, Repr

/-- Everyone there is. -/
def actors (s : Scenario) : List Actor :=
  (List.range s.bridge.applications.length).map .mainLoop ++
    (List.range s.threads.length).map .thread ++
    (List.range s.bridge.watchers.length).map .watcher ++
    (List.range s.bridge.machines.length).map .worker ++
    (List.range s.bridge.stops.length).map .backgroundStop

def isEnabled (s : Scenario) : Actor → Bool
  | .mainLoop a => s.bridge.canTurn a
  | .thread t => (s.threads[t]?.map s.canAdvance).getD false
  | .watcher w => s.bridge.canWatch w
  | .worker m => s.bridge.canWork m
  | .backgroundStop n => s.bridge.canStop n

def turn (s : Scenario) : Actor → Scenario
  | .mainLoop a => s.change fun env b => b.mainTurn env a
  | .thread t => s.advance t
  | .watcher w => s.change fun _ b => b.watch w
  | .worker m => s.change fun _ b => b.work m
  | .backgroundStop n => s.change fun env b => b.stop env n

/-- Let up to `fuel` turns be taken. -/
def settleFor : Nat → Scenario → Scenario
  | 0, s => s
  | fuel + 1, s =>
    match s.actors.find? s.isEnabled with
    | some actor => settleFor fuel (s.turn actor)
    | none => s

/-- The sum of what is counted for each item. -/
def total {α : Type} (count : α → Nat) (items : List α) : Nat :=
  items.foldl (fun sum a => sum + count a) 0

/-- How much there is to do in a machine: what is queued on its channels, and the
subscriptions that may get more. -/
def machineLoad (m : Machine) : Nat :=
  m.disconnect.inbox.length + m.state.channel.subscriptions.length +
    total (·.queue.length) m.state.channel.subscriptions

/-- How many events a plan raises. -/
def Plan.load (p : Plan) : Nat := (p.states.getD []).length + p.disconnects.length

/-- How much a script may still do. -/
def scriptLoad (s : Script) : Nat := s.during.load + total (fun (_, plan) => plan.load) s.plans

/-- How many events a thread may still raise by itself. -/
def Thread.load (t : Thread) : Nat :=
  match t.stage, t.task with
  | .ended _, _ => 1
  | _, .raise _ codes => codes.length + 1
  | _, _ => 1

/-- How much there is to do. -/
def load (s : Scenario) : Nat :=
  total (·.queue.messages.length) s.bridge.applications + total Thread.load s.threads +
    s.bridge.watchers.length + s.bridge.stops.length + s.bridge.machines.length +
    total machineLoad s.bridge.machines + total scriptLoad s.scripts

/-- Let everyone run until nobody can. Every event that is still to come takes at
most one turn of every subscriber, and everything else a fixed number of turns, so
the square of the load bounds the number of turns. -/
def settle (s : Scenario) : Scenario := settleFor (8 * (s.load + 4) * (s.load + 4)) s

end MachineBridge.Scenario
