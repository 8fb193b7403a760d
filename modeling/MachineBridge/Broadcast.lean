import MachineBridge.Queue

/-!
# MachineBridge.Broadcast

An unbounded broadcast channel.  Every subscription owns a queue of its own and
receives each value published after it was taken and before the channel was
closed, in the order of publication.  Closing is final: what was queued can
still be received, then the stream ends.
-/

namespace MachineBridge

/-- One subscription.  `listed` says that the channel still delivers to it,
`kept` that its receiver was not dropped. -/
structure Subscription (α : Type) where
  queue : Queue α := {}
  listed : Bool := true
  kept : Bool := true
deriving DecidableEq, Repr

/-- A broadcast channel with all the subscriptions ever taken, by number. -/
structure Broadcast (α : Type) where
  subscriptions : List (Subscription α) := []
  closed : Bool := false
deriving DecidableEq, Repr

/-- What a receiver finds: a value, the end of the stream, or neither yet. -/
inductive Received (α : Type) where
  | value (a : α)
  | pending
  | ended
deriving DecidableEq, Repr

namespace Subscription

variable {α : Type}

/-- Deliver a value. A subscription whose receiver is gone is taken off the list. -/
def deliver (a : α) (s : Subscription α) : Subscription α :=
  if s.listed then
    if s.kept then { s with queue := s.queue.push a } else { s with listed := false }
  else s

/-- Take the next value off the queue. -/
def take (s : Subscription α) : Subscription α × Received α :=
  match s.queue.pop? with
  | some (a, rest) => ({ s with queue := rest }, .value a)
  | none => (s, if s.listed then .pending else .ended)

/-- Take up to `limit` values off the queue, as long as there are any: what was
taken, in order, and whether the stream ended before there were as many. -/
def takeMany (limit : Nat) (s : Subscription α) : Subscription α × List α × Bool :=
  let (as, queue) := s.queue.popMany limit
  ({ s with queue }, as, !s.listed && as.length < limit)

/-- What a subscription that is listed and kept holds ends in the value delivered. -/
theorem toList_queue_deliver {s : Subscription α} (hl : s.listed = true) (hk : s.kept = true)
    (a : α) : (s.deliver a).queue.toList = s.queue.toList ++ [a] := by
  simp [deliver, hl, hk]

end Subscription

namespace Broadcast

variable {α : Type}

/-- The number of subscriptions the channel delivers to; a dropped receiver
counts until the next value is published. -/
def subscriberCount (c : Broadcast α) : Nat := c.subscriptions.countP (·.listed)

/-- Take a subscription. On a closed channel its stream ends at once. -/
def subscribe (c : Broadcast α) : Broadcast α × Nat :=
  ({ c with subscriptions := c.subscriptions ++ [{ listed := !c.closed }] },
    c.subscriptions.length)

def publish (c : Broadcast α) (a : α) : Broadcast α :=
  { c with subscriptions := c.subscriptions.map (·.deliver a) }

def close (c : Broadcast α) : Broadcast α :=
  { closed := true
    subscriptions := c.subscriptions.map fun s => { s with listed := false } }

/-- Drop the receiver of a subscription, with what is queued for it. -/
def drop (c : Broadcast α) (i : Nat) : Broadcast α :=
  { c with
    subscriptions := c.subscriptions.modify i fun s => { s with kept := false, queue := {} } }

def receive (c : Broadcast α) (i : Nat) : Broadcast α × Received α :=
  match c.subscriptions[i]? with
  | some s => ({ c with subscriptions := c.subscriptions.set i s.take.1 }, s.take.2)
  | none => (c, .ended)

/-- Take up to `limit` values of a subscription, as long as there are any: what was
taken, in order, and whether its stream ended before there were as many. -/
def receiveMany (limit : Nat) (c : Broadcast α) (i : Nat) : Broadcast α × List α × Bool :=
  match c.subscriptions[i]? with
  | some s =>
    let (s, as, ended) := s.takeMany limit
    ({ c with subscriptions := c.subscriptions.set i s }, as, ended)
  | none => (c, [], decide (0 < limit))

def queued (c : Broadcast α) (i : Nat) : Nat :=
  ((c.subscriptions[i]?).map (·.queue.length)).getD 0

/-- Take everything that is queued for a subscription; says whether its stream
has ended. -/
def drain (c : Broadcast α) (i : Nat) : Broadcast α × List α × Bool :=
  c.receiveMany (c.queued i + 1) i

/-- Publishing neither opens nor closes. -/
@[simp] theorem closed_publish (c : Broadcast α) (a : α) : (c.publish a).closed = c.closed := rfl

/-- A new subscription gets the next number. -/
@[simp] theorem subscribe_snd (c : Broadcast α) : c.subscribe.2 = c.subscriptions.length := rfl

end Broadcast

end MachineBridge
