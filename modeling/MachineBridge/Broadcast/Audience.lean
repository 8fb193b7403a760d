import MachineBridge.Broadcast

/-!
# MachineBridge.Broadcast.Audience

A broadcast channel and those who listen to it: receivers under names, and
consumers that took a receiver to wait for values with it.  A consumer that is
done gives its receiver back under the old name.
-/

namespace MachineBridge

/-- How much a consumer waits for. -/
inductive Demand where
  /-- One value, or the end of the stream. -/
  | one
  /-- The given number of values, or fewer at the end of the stream. -/
  | upTo (count : Nat)
  /-- All values until the end of the stream. -/
  | all
deriving DecidableEq, Repr

/-- A consumer: the receiver it took, with its name, what it waits for, and what
it has received. -/
structure Consumer (α : Type) where
  name : String
  subscription : Nat
  demand : Demand
  taken : List α := []
  done : Bool := false
deriving DecidableEq, Repr

namespace Consumer

variable {α : Type}

/-- How many more values the consumer would take, if that is limited. -/
def wants (c : Consumer α) : Option Nat :=
  match c.demand with
  | .one => some (1 - c.taken.length)
  | .upTo count => some (count - c.taken.length)
  | .all => none

/-- Receive what can be received. -/
def advance (c : Consumer α) (channel : Broadcast α) : Consumer α × Broadcast α :=
  if c.done then (c, channel)
  else
    let limit := match c.wants with
      | some n => n
      | none => channel.queued c.subscription + 1
    let (channel, as, ended) := channel.receiveMany limit c.subscription
    let c := { c with taken := c.taken ++ as }
    ({ c with done := ended || c.wants == some 0 }, channel)

end Consumer

/-- A channel, the receivers that are available under their names, the
consumers by number, and the numbers of the named calls. -/
structure Audience (α : Type) where
  channel : Broadcast α := {}
  receivers : List (String × Nat) := []
  consumers : List (Consumer α) := []
  calls : List (String × Nat) := []
deriving DecidableEq, Repr

namespace Audience

variable {α : Type}

/-- Put a receiver under a name; an older one of that name is dropped. -/
def place (a : Audience α) (name : String) (i : Nat) : Audience α :=
  let channel := match a.receivers.lookup name with
    | some old => a.channel.drop old
    | none => a.channel
  { a with channel, receivers := (name, i) :: a.receivers.filter fun (n, _) => n ≠ name }

/-- Take a receiver away from its name. -/
def remove (a : Audience α) (name : String) : Audience α :=
  { a with receivers := a.receivers.filter fun (n, _) => n ≠ name }

/-- Let one consumer receive; if that completes it, its receiver comes back. -/
def advanceOne (a : Audience α) (i : Nat) : Audience α :=
  match a.consumers[i]? with
  | none => a
  | some c =>
    let (c', channel) := c.advance a.channel
    let a := { a with channel, consumers := a.consumers.set i c' }
    if c'.done && !c.done then a.place c.name c.subscription else a

/-- The numbers of the consumers that are not done. -/
def waiting (a : Audience α) : List Nat :=
  (a.consumers.zipIdx.filter fun (c, _) => !c.done).map (·.2)

/-- Let every consumer receive what it can. -/
def advance (a : Audience α) : Audience α := a.waiting.foldl advanceOne a

/-! ## steps -/

/-- One use of the channel. -/
inductive Step (α : Type) where
  | subscribe (rx : String)
  | publish (values : List α)
  | close
  | isClosed
  | drop (rx : String)
  | tryReceive (rx : String)
  | poll (rx : String)
  | receiveNow (rx : String)
  | drain (rx : String)
  /-- Start a consumer under the name of its call. -/
  | consume (rx call : String) (demand : Demand)
  | join (call : String)
deriving Repr

inductive Reply (α : Type) where
  | done
  | count (n : Nat)
  | truth (b : Bool)
  /-- A value, or nothing. -/
  | option (a : Option α)
  | received (r : Received α)
  | drained (values : List α) (ended : Bool)
  | values (as : List α)
  | pending
  | noReceiver
  | noCall
deriving Repr

/-- Use the receiver of a name. -/
def withReceiver (a : Audience α) (rx : String) (use : Nat → Audience α × Reply α) :
    Audience α × Reply α :=
  match a.receivers.lookup rx with
  | some i => use i
  | none => (a, .noReceiver)

/-- What a call answers at the moment. -/
def callReply (a : Audience α) (call : String) : Reply α :=
  match (a.calls.lookup call).bind fun i => a.consumers[i]? with
  | none => .noCall
  | some c =>
    if c.done then
      match c.demand with
      | .one => .option c.taken.head?
      | _ => .values c.taken
    else .pending

/-- Publish values one after the other; answers the sum of the deliveries. -/
def publishAll (c : Broadcast α) (values : List α) : Broadcast α × Nat :=
  values.foldl
    (fun (c, sum) a =>
      let c := c.publish a
      (c, sum + c.subscriberCount))
    (c, 0)

/-- Do one step; the consumers have not reacted yet. -/
def act (a : Audience α) : Step α → Audience α × Reply α
  | .subscribe rx =>
    let (channel, i) := a.channel.subscribe
    ({ a with channel }.place rx i, .done)
  | .publish vs =>
    let (channel, sum) := publishAll a.channel vs
    ({ a with channel }, .count sum)
  | .close => ({ a with channel := a.channel.close }, .truth (!a.channel.closed))
  | .isClosed => (a, .truth a.channel.closed)
  | .drop rx =>
    match a.receivers.lookup rx with
    | some i => ({ a with channel := a.channel.drop i }.remove rx, .truth true)
    | none => (a, .truth false)
  | .tryReceive rx => a.withReceiver rx fun i =>
    match a.channel.receive i with
    | (channel, .value v) => ({ a with channel }, .option (some v))
    | (channel, _) => ({ a with channel }, .option none)
  | .poll rx => a.withReceiver rx fun i =>
    let (channel, r) := a.channel.receive i
    ({ a with channel }, .received r)
  | .receiveNow rx => a.withReceiver rx fun i =>
    match a.channel.receive i with
    | (channel, .value v) => ({ a with channel }, .option (some v))
    | (channel, .ended) => ({ a with channel }, .option none)
    | (channel, .pending) => ({ a with channel }, .pending)
  | .drain rx => a.withReceiver rx fun i =>
    let (channel, vs, ended) := a.channel.drain i
    ({ a with channel }, .drained vs ended)
  | .consume rx call demand => a.withReceiver rx fun i =>
    let started : Audience α := { a.remove rx with
      consumers := a.consumers ++ [{ name := rx, subscription := i, demand }]
      calls := (call, a.consumers.length) :: a.calls.filter fun (n, _) => n ≠ call }
    let settled := started.advance
    (settled, settled.callReply call)
  | .join call => (a, a.callReply call)

def step (a : Audience α) (s : Step α) : Audience α × Reply α :=
  let (a, reply) := a.act s
  (a.advance, reply)

end Audience

end MachineBridge
