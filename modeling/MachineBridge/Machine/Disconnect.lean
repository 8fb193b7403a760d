import MachineBridge.Broadcast
import MachineBridge.Configuration

/-!
# MachineBridge.Machine.Disconnect

Reports of lost network attachments.  The runtime puts its events into an inbox;
a worker, started by the first subscription, takes them out one by one, looks
the device up in the configuration and publishes the result.  The inbox is
closed by the runtime or at teardown, and the worker closes the public channel
when the closed inbox is empty.
-/

namespace MachineBridge

/-- What the runtime reports: the index of a device and the cause. -/
structure DisconnectEvent where
  index : Int32
  cause : ForeignError
deriving DecidableEq, Repr

/-- What a subscriber receives: the event with the configured device at its
index, if there is one. -/
structure DisconnectedError where
  cause : ForeignError
  index : Int32
  device : Option NetworkDevice
deriving DecidableEq, Repr

/-- The event with the device a configuration has at its index. -/
def DisconnectEvent.enrich (e : DisconnectEvent) (c : MachineConfiguration) : DisconnectedError :=
  ⟨e.cause, e.index, c.device? e.index⟩

/-- The attachment of the device, if it is known, and the cause. -/
def DisconnectedError.message (e : DisconnectedError) : String :=
  match e.device with
  | some d => d.attachment.text ++ ": " ++ e.cause.message
  | none => e.cause.message

/-- How far the worker of a pipeline is. -/
inductive WorkerStatus where
  | notStarted
  | running
  | ended
deriving DecidableEq, Repr

/-- The inbox with its token, the worker and the public channel. -/
structure DisconnectPipeline where
  token : Handle
  isOpen : Bool := true
  inbox : List DisconnectEvent := []
  worker : WorkerStatus := .notStarted
  outbound : Broadcast DisconnectedError := {}
deriving DecidableEq, Repr

namespace DisconnectPipeline

/-- Put an event into the inbox; a closed inbox ignores it. -/
def push (p : DisconnectPipeline) (e : DisconnectEvent) : DisconnectPipeline :=
  if p.isOpen then { p with inbox := p.inbox ++ [e] } else p

/-- Close the inbox. What is in it can still be handled. -/
def closeInbox (p : DisconnectPipeline) : DisconnectPipeline := { p with isOpen := false }

/-- Take a subscription, before the worker is started if it is the first one. That a
thread cannot be started, an internal error of the call, is left out here. -/
def subscribe (p : DisconnectPipeline) : DisconnectPipeline × Nat :=
  ({ p with
      outbound := p.outbound.subscribe.1
      worker := if p.worker = .notStarted then .running else p.worker },
    p.outbound.subscribe.2)

def drop (p : DisconnectPipeline) (i : Nat) : DisconnectPipeline :=
  { p with outbound := p.outbound.drop i }

/-- Close the inbox at teardown. A worker that was never started would leave the
public channel open, so it is closed here. -/
def shutdown (p : DisconnectPipeline) : DisconnectPipeline :=
  if p.worker = .notStarted then
    { p with isOpen := false, inbox := [], worker := .ended, outbound := p.outbound.close }
  else p.closeInbox

def canWork (p : DisconnectPipeline) : Bool :=
  p.worker == .running && (!p.inbox.isEmpty || !p.isOpen)

/-- One step of the worker: an event is handled, or the public channel is closed. -/
def work (p : DisconnectPipeline) (c : MachineConfiguration) : DisconnectPipeline :=
  if p.worker = .running then
    match p.inbox with
    | e :: rest => { p with inbox := rest, outbound := p.outbound.publish (e.enrich c) }
    | [] => if p.isOpen then p else { p with worker := .ended, outbound := p.outbound.close }
  else p

end DisconnectPipeline

end MachineBridge
