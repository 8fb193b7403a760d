import MachineBridge.Machine.Disconnect
import MachineBridge.Proofs.Broadcast.Delivery

/-!
# MachineBridge.Proofs.Streams.Pipeline

The pipeline for the lost attachments of one machine, on its own.  Everything that is done
with it is a `Use`.  A report is accepted if the inbox is open, and handled when the worker
takes it out of the inbox.

`Stage` is the invariant of all uses: from the first subscription on, what was handled and
what is in the inbox is what was accepted.  Subscribers are owed what is handled after they
subscribed (`owes_use`), and once the inbox is closed, the worker needs one turn for each
event that is left, and one to close the public channel (`left_use`).
-/

namespace MachineBridge

namespace DisconnectPipeline

/-! ## uses -/

/-- What can be done with a pipeline. -/
inductive Use where
  | report (e : DisconnectEvent)
  | endReports
  | shutdown
  | subscribe
  | receive (i : Nat)
  | drop (i : Nat)
  | work
deriving DecidableEq, Repr

/-- A use of a pipeline, whose worker looks devices up in the given configuration. -/
def use (p : DisconnectPipeline) (c : MachineConfiguration) : Use → DisconnectPipeline
  | .report e => p.push e
  | .endReports => p.closeInbox
  | .shutdown => p.shutdown
  | .subscribe => p.subscribe.1
  | .receive i => { p with outbound := (p.outbound.receive i).1 }
  | .drop i => p.drop i
  | .work => p.work c

/-- A pipeline that is used once or not at all. -/
def react (p : DisconnectPipeline) (c : MachineConfiguration) : Option Use → DisconnectPipeline
  | none => p
  | some u => p.use c u

/-- The event that a use puts into the inbox: one that arrives while the inbox is open. -/
def accepted (p : DisconnectPipeline) : Use → List DisconnectEvent
  | .report e => if p.isOpen then [e] else []
  | _ => []

/-- The event that a use takes out of the inbox: the worker handles one at a time. -/
def handled (p : DisconnectPipeline) : Use → List DisconnectEvent
  | .work => if p.worker = .running then p.inbox.head?.toList else []
  | _ => []

def received (p : DisconnectPipeline) (i : Nat) : Use → List DisconnectedError
  | .receive j => if j = i then (p.outbound.receive i).2.toList else []
  | _ => []

variable {p : DisconnectPipeline} {c : MachineConfiguration} {u : Use} {i : Nat}

/-! ## the parts of a pipeline after a use -/

theorem push_eq (p : DisconnectPipeline) (e : DisconnectEvent) :
    p.push e = { p with inbox := p.inbox ++ p.accepted (.report e) } := by
  unfold push accepted
  split
  · rfl
  · rw [List.append_nil]

/-- Once the worker runs, a pipeline is shut down by closing its inbox. -/
theorem shutdown_of_started (started : p.worker ≠ .notStarted) : p.shutdown = p.closeInbox :=
  if_neg started

/-- A worker that runs enriches the next event and delivers it. -/
theorem work_of_cons {e : DisconnectEvent} {rest : List DisconnectEvent}
    (running : p.worker = .running) (waits : p.inbox = e :: rest) :
    p.work c = { p with inbox := rest, outbound := p.outbound.publish (e.enrich c) } := by
  rw [work, if_pos running, waits]

/-- A worker that finds nothing waits, or ends if the inbox is closed. -/
theorem work_of_nil (running : p.worker = .running) (none : p.inbox = []) :
    p.work c =
      if p.isOpen then p else { p with worker := .ended, outbound := p.outbound.close } := by
  rw [work, if_pos running, none]

/-- The inbox is open until the runtime or the teardown closes it. -/
theorem isOpen_use (p : DisconnectPipeline) (c : MachineConfiguration) (u : Use) :
    (p.use c u).isOpen = true ↔ p.isOpen = true ∧ u ≠ .endReports ∧ u ≠ .shutdown := by
  cases u with
  | report e => simp [use, push_eq]
  | endReports => simp [use, closeInbox]
  | shutdown =>
    have closed : p.shutdown.isOpen = false := by
      unfold shutdown
      split <;> rfl
    simp [use, closed]
  | subscribe => simp [use, subscribe]
  | receive i => simp [use]
  | drop i => simp [use, drop]
  | work =>
    have same : (p.work c).isOpen = p.isOpen := by
      unfold work
      split
      · split
        · rfl
        · split <;> rfl
      · rfl
    simp [use, same]

/-- Every subscription is new, and none is forgotten. -/
theorem length_use (p : DisconnectPipeline) (c : MachineConfiguration) (u : Use) :
    (p.use c u).outbound.subscriptions.length =
      p.outbound.subscriptions.length + if u = .subscribe then 1 else 0 := by
  have closed (channel : Broadcast DisconnectedError) :
      channel.close.subscriptions.length = channel.subscriptions.length := List.length_map _
  cases u with
  | report e => rw [use, push_eq]; rfl
  | endReports => rfl
  | shutdown =>
    rw [use, shutdown]
    split
    · exact closed p.outbound
    · rfl
  | subscribe => exact List.length_append
  | receive i =>
    show (p.outbound.receive i).1.subscriptions.length = _
    rw [Broadcast.receive_fst, Broadcast.length_receiveMany]
    rfl
  | drop i => exact List.length_modify ..
  | work =>
    rw [use, work]
    split
    · split
      · exact Broadcast.length_publish _ _
      · split
        · rfl
        · exact closed p.outbound
    · rfl

/-! ## nothing is lost -/

/-- How far a pipeline is, with the events that it accepted and those that it handled.  The
pipeline of a machine that is `gone` without ever having had a subscriber is dead: what it
accepted is of interest to nobody. -/
inductive Stage (p : DisconnectPipeline) (gone : Prop) (accepted handled : List DisconnectEvent) :
    Prop
  | waiting (worker : p.worker = .notStarted) (inbox : p.inbox = accepted) (none : handled = [])
      (unheard : p.outbound = {})
  | working (worker : p.worker = .running) (inbox : handled ++ p.inbox = accepted)
      (heard : 0 < p.outbound.subscriptions.length) (isOpen : p.outbound.closed = false)
  | done (worker : p.worker = .ended) (isClosed : p.isOpen = false) (inbox : p.inbox = [])
      (all : handled = accepted) (heard : 0 < p.outbound.subscriptions.length)
      (closed : p.outbound.closed = true)
  | dead (isGone : gone) (worker : p.worker = .ended) (isClosed : p.isOpen = false)
      (inbox : p.inbox = []) (none : handled = []) (unheard : p.outbound.subscriptions = [])
      (closed : p.outbound.closed = true)

variable {gone gone' : Prop} {accepted handled : List DisconnectEvent}

/-- A pipeline stays at its stage if a machine that is gone stays so. -/
theorem Stage.imp (h : p.Stage gone accepted handled) (later : gone → gone') :
    p.Stage gone' accepted handled := by
  cases h with
  | waiting worker inbox none unheard => exact .waiting worker inbox none unheard
  | working worker inbox heard isOpen => exact .working worker inbox heard isOpen
  | done worker isClosed inbox all heard closed => exact .done worker isClosed inbox all heard closed
  | dead isGone worker isClosed inbox none unheard closed =>
    exact .dead (later isGone) worker isClosed inbox none unheard closed

/-- What is done with subscriptions that are there does not matter. -/
theorem Stage.listen (h : p.Stage gone accepted handled) {channel : Broadcast DisconnectedError}
    (closed : channel.closed = p.outbound.closed)
    (length : channel.subscriptions.length = p.outbound.subscriptions.length) :
    { p with outbound := channel }.Stage gone accepted handled := by
  cases h with
  | waiting worker inbox none unheard =>
    rw [unheard] at closed length
    have empty : channel = {} := by
      obtain ⟨subscriptions, _⟩ := channel
      cases List.length_eq_zero_iff.1 length
      cases closed
      rfl
    exact .waiting worker inbox none empty
  | working worker inbox heard isOpen =>
    exact .working worker inbox (length ▸ heard) (closed ▸ isOpen)
  | done worker isClosed inbox all heard ended =>
    exact .done worker isClosed inbox all (length ▸ heard) (closed ▸ ended)
  | dead isGone worker isClosed inbox none unheard ended =>
    rw [unheard] at length
    exact .dead isGone worker isClosed inbox none (List.length_eq_zero_iff.1 length) (closed ▸ ended)

/-- A report that is accepted waits behind those accepted before. -/
theorem Stage.report (h : p.Stage gone accepted handled) (e : DisconnectEvent) :
    (p.push e).Stage gone (accepted ++ p.accepted (.report e)) handled := by
  rw [push_eq]
  have ignored (isClosed : p.isOpen = false) : p.accepted (.report e) = [] := by
    simp [DisconnectPipeline.accepted, isClosed]
  cases h with
  | waiting worker inbox none unheard =>
    exact .waiting worker (by rw [← inbox]) none unheard
  | working worker inbox heard isOpen =>
    exact .working worker (by rw [← inbox, List.append_assoc]) heard isOpen
  | done worker isClosed inbox all heard closed =>
    rw [ignored isClosed, List.append_nil, List.append_nil]
    exact .done worker isClosed inbox all heard closed
  | dead isGone worker isClosed inbox none unheard closed =>
    rw [ignored isClosed, List.append_nil, List.append_nil]
    exact .dead isGone worker isClosed inbox none unheard closed

theorem Stage.closeInbox (h : p.Stage gone accepted handled) :
    p.closeInbox.Stage gone accepted handled := by
  cases h with
  | waiting worker inbox none unheard => exact .waiting worker inbox none unheard
  | working worker inbox heard isOpen => exact .working worker inbox heard isOpen
  | done worker _ inbox all heard closed => exact .done worker rfl inbox all heard closed
  | dead isGone worker _ inbox none unheard closed =>
    exact .dead isGone worker rfl inbox none unheard closed

/-- A pipeline without a worker dies with its machine, any other one only closes its inbox. -/
theorem Stage.shutdown (h : p.Stage gone accepted handled) :
    p.shutdown.Stage True accepted handled := by
  have started (started : p.worker ≠ .notStarted) : p.shutdown.Stage True accepted handled := by
    rw [shutdown_of_started started]
    exact (h.closeInbox).imp fun _ => trivial
  cases h with
  | waiting worker inbox none unheard =>
    rw [DisconnectPipeline.shutdown, if_pos worker]
    exact .dead trivial rfl rfl rfl none (by rw [unheard]; rfl) rfl
  | working worker _ _ _ => exact started (by simp [worker])
  | done worker _ _ _ _ _ => exact started (by simp [worker])
  | dead _ worker _ _ _ _ _ => exact started (by simp [worker])

/-- The first subscription starts the worker. -/
theorem Stage.subscribe (h : p.Stage gone accepted handled) (alive : ¬gone) :
    p.subscribe.1.Stage gone accepted handled := by
  have heard : 0 < p.subscribe.1.outbound.subscriptions.length := by
    have more := p.length_use {cpuCount := 0, memorySize := 0} .subscribe
    rw [if_pos rfl] at more
    exact Nat.lt_of_lt_of_eq (Nat.succ_pos _) more.symm
  cases h with
  | waiting worker inbox none unheard =>
    refine .working (if_pos worker) (by rw [none, ← inbox]; rfl) heard ?_
    show p.outbound.closed = false
    rw [unheard]
  | working worker inbox _ isOpen =>
    exact .working ((if_neg (by simp [worker])).trans worker) inbox heard isOpen
  | done worker isClosed inbox all _ closed =>
    exact .done ((if_neg (by simp [worker])).trans worker) isClosed inbox all heard closed
  | dead isGone _ _ _ _ _ _ => exact absurd isGone alive

/-- The worker handles the next event, or it ends. -/
theorem Stage.work (h : p.Stage gone accepted handled) (c : MachineConfiguration) :
    (p.work c).Stage gone accepted (handled ++ p.handled .work) := by
  have idle (idle : p.worker ≠ .running) :
      (p.work c).Stage gone accepted (handled ++ p.handled .work) := by
    rw [DisconnectPipeline.work, if_neg idle, DisconnectPipeline.handled, if_neg idle,
      List.append_nil]
    exact h
  cases h with
  | waiting worker _ _ _ => exact idle (by simp [worker])
  | working worker inbox heard isOpen =>
    rw [DisconnectPipeline.handled, if_pos worker]
    cases waits : p.inbox with
    | cons e rest =>
      rw [work_of_cons worker waits]
      refine .working worker ?_ ?_ isOpen
      · rw [← inbox, waits, List.append_assoc]
        rfl
      · exact Nat.lt_of_lt_of_eq heard (Broadcast.length_publish _ _).symm
    | nil =>
      have all : handled = accepted := by rw [← inbox, waits, List.append_nil]
      rw [work_of_nil worker waits,
        show handled ++ ([] : List DisconnectEvent).head?.toList = handled from List.append_nil _]
      cases isClosed : p.isOpen with
      | true => exact .working worker inbox heard isOpen
      | false =>
        exact .done rfl rfl waits all (Nat.lt_of_lt_of_eq heard (List.length_map _).symm) rfl
  | done worker _ _ _ _ _ => exact idle (by simp [worker])
  | dead _ worker _ _ _ _ _ => exact idle (by simp [worker])

/-- Every use keeps the account, as long as nobody subscribes to a machine that is gone. -/
theorem Stage.use (h : p.Stage gone accepted handled) (c : MachineConfiguration)
    (alive : u = .subscribe → ¬gone) :
    (p.use c u).Stage (gone ∨ u = .shutdown) (accepted ++ p.accepted u)
      (handled ++ p.handled u) := by
  have unchanged {q : DisconnectPipeline} (same : q.Stage gone accepted handled) :
      q.Stage (gone ∨ u = .shutdown) (accepted ++ []) (handled ++ []) := by
    rw [List.append_nil, List.append_nil]
    exact same.imp .inl
  cases u with
  | report e =>
    rw [show handled ++ p.handled (.report e) = handled from List.append_nil _]
    exact (h.report e).imp .inl
  | endReports => exact unchanged h.closeInbox
  | shutdown =>
    have gone' : p.shutdown.Stage (gone ∨ Use.shutdown = .shutdown) accepted handled :=
      h.shutdown.imp fun _ => .inr rfl
    rw [← List.append_nil accepted, ← List.append_nil handled] at gone'
    exact gone'
  | subscribe => exact unchanged (h.subscribe (alive rfl))
  | receive i =>
    have length := p.length_use c (.receive i)
    exact unchanged (h.listen (Broadcast.closed_receive _ _) length)
  | drop i =>
    have length := p.length_use c (.drop i)
    exact unchanged (h.listen rfl length)
  | work =>
    rw [show accepted ++ p.accepted .work = accepted from List.append_nil _]
    exact (h.work c).imp .inl

/-- The worker of a pipeline that had a subscriber was started. -/
theorem Stage.started (h : p.Stage gone accepted handled)
    (heard : 0 < p.outbound.subscriptions.length) : p.worker ≠ .notStarted := by
  cases h with
  | waiting _ _ _ unheard => simp [unheard] at heard
  | working worker _ _ _ => simp [worker]
  | done worker _ _ _ _ _ => simp [worker]
  | dead _ worker _ _ _ _ _ => simp [worker]

/-- Once there was a subscriber, every event that was accepted was handled or is in the inbox. -/
theorem Stage.handled_append (h : p.Stage gone accepted handled)
    (heard : 0 < p.outbound.subscriptions.length) : handled ++ p.inbox = accepted := by
  cases h with
  | waiting _ _ _ unheard => simp [unheard] at heard
  | working _ inbox _ _ => exact inbox
  | done _ _ inbox all _ _ => rw [inbox, all, List.append_nil]
  | dead _ _ _ _ _ unheard _ => simp [unheard] at heard

/-- Without a subscriber nothing is handled. -/
theorem Stage.handled_eq_nil (h : p.Stage gone accepted handled)
    (unheard : p.outbound.subscriptions.length = 0) : handled = [] := by
  cases h with
  | waiting _ _ none _ => exact none
  | working _ _ heard _ => exact absurd unheard (Nat.ne_of_gt heard)
  | done _ _ _ _ heard _ => exact absurd unheard (Nat.ne_of_gt heard)
  | dead _ _ _ _ none _ _ => exact none

/-- Once there was a subscriber, a turn of the worker handles the next event. -/
theorem Stage.handled_work (h : p.Stage gone accepted handled)
    (heard : 0 < p.outbound.subscriptions.length) : p.handled .work = p.inbox.head?.toList := by
  unfold DisconnectPipeline.handled
  cases h with
  | waiting _ _ _ unheard => simp [unheard] at heard
  | working worker _ _ _ => rw [if_pos worker]
  | done worker _ inbox _ _ _ => simp [worker, inbox]
  | dead _ _ _ _ _ unheard _ => simp [unheard] at heard

/-- When the worker has nothing to do, all was handled, and the public channel is closed if
and only if the inbox is. -/
theorem Stage.idle (h : p.Stage gone accepted handled)
    (heard : 0 < p.outbound.subscriptions.length) (idle : p.canWork = false) :
    p.inbox = [] ∧ p.outbound.closed = !p.isOpen := by
  cases h with
  | waiting _ _ _ unheard => simp [unheard] at heard
  | working worker inbox _ isOpen =>
    simp only [canWork, worker, beq_self_eq_true, Bool.true_and, Bool.or_eq_false_iff,
      Bool.not_eq_false', List.isEmpty_iff] at idle
    simp [idle.1, idle.2, isOpen]
  | done _ isClosed inbox _ _ closed => simp [isClosed, inbox, closed]
  | dead _ _ _ _ _ unheard _ => simp [unheard] at heard

/-- A worker that has ended has closed the public channel. -/
theorem Stage.closed_of_ended (h : p.Stage gone accepted handled) (ended : p.worker = .ended) :
    p.outbound.closed = true := by
  cases h with
  | waiting worker _ _ _ => simp [worker] at ended
  | working worker _ _ _ => simp [worker] at ended
  | done _ _ _ _ _ closed => exact closed
  | dead _ _ _ _ _ _ closed => exact closed

/-! ## subscribers -/

/-- A subscriber that keeps its receiver is owed what is handled. -/
theorem owes_use {ahead : List DisconnectedError} (owes : p.outbound.Owes i ahead)
    (h : p.Stage gone accepted handled) (c : MachineConfiguration) (kept : u ≠ .drop i) :
    ∃ ahead', (p.use c u).outbound.Owes i ahead' ∧
      p.received i u ++ ahead' = ahead ++ (p.handled u).map (·.enrich c) := by
  have unchanged {channel : Broadcast DisconnectedError} (owes' : channel.Owes i ahead) :
      ∃ ahead', channel.Owes i ahead' ∧ ([] : List DisconnectedError) ++ ahead' = ahead ++ [] :=
    ⟨ahead, owes', (List.append_nil ahead).symm⟩
  cases u with
  | report e =>
    rw [use, push_eq]
    exact unchanged owes
  | endReports => exact unchanged owes
  | shutdown =>
    refine unchanged ?_
    rw [use, shutdown]
    split
    · exact owes.close
    · exact owes
  | subscribe => exact unchanged owes.subscribe
  | receive j =>
    by_cases own : j = i
    · subst own
      refine ⟨ahead.tail, owes.receive.2, ?_⟩
      rw [received, if_pos rfl, owes.receive.1, Received.toList_next_append]
      exact (List.append_nil ahead).symm
    · rw [received, if_neg own]
      refine unchanged ?_
      show (p.outbound.receive j).1.Owes i ahead
      rw [Broadcast.receive_fst]
      exact owes.receiveMany_of_ne 1 own
  | drop j =>
    have other : j ≠ i := fun same => kept (same ▸ rfl)
    exact unchanged (owes.drop other)
  | work =>
    rw [use, DisconnectPipeline.handled]
    split
    · next running =>
      cases h with
      | waiting worker _ _ _ | done worker _ _ _ _ _ | dead _ worker _ _ _ _ _ =>
        rw [running] at worker
        cases worker
      | working _ _ _ isOpen =>
        cases waits : p.inbox with
        | cons e rest =>
          have published := owes.publish (e.enrich c)
          rw [isOpen] at published
          rw [work_of_cons running waits]
          exact ⟨_, published, rfl⟩
        | nil =>
          rw [work_of_nil running waits]
          refine unchanged ?_
          split
          · exact owes
          · exact owes.close
    · next idle =>
      rw [work, if_neg idle]
      exact unchanged owes

/-! ## the end of the stream -/

/-- The turns that the worker needs until it ends, if no more events arrive. -/
def left (p : DisconnectPipeline) : Nat := if p.worker = .ended then 0 else p.inbox.length + 1

/-- Once the inbox is closed, every turn of the worker brings the end nearer, and nothing
else matters. -/
theorem left_use (c : MachineConfiguration) (u : Use) (started : p.worker ≠ .notStarted)
    (isClosed : p.isOpen = false) :
    (p.use c u).worker ≠ .notStarted ∧ (p.use c u).left = p.left - if u = .work then 1 else 0 := by
  cases u with
  | report e =>
    rw [use, push, isClosed]
    exact ⟨started, rfl⟩
  | shutdown =>
    rw [use, shutdown_of_started started]
    exact ⟨started, rfl⟩
  | subscribe =>
    have same : p.subscribe.1.worker = p.worker := if_neg started
    exact ⟨same ▸ started, by rw [left, use, same]; rfl⟩
  | endReports | receive | drop => exact ⟨started, rfl⟩
  | work =>
    rw [use, if_pos rfl]
    cases status : p.worker with
    | notStarted => exact absurd status started
    | running =>
      cases waits : p.inbox with
      | cons e rest => simp [work, left, status, waits]
      | nil => simp [work, left, status, waits, isClosed]
    | ended => simp [work, left, status]

end DisconnectPipeline

end MachineBridge
