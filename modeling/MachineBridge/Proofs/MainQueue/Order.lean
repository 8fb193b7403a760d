import MachineBridge.Proofs.MainQueue.Record

/-!
# MachineBridge.Proofs.MainQueue.Order

Which tasks a main queue runs.  Over every run, `Kept` relates what was accepted, begun, ended
and discarded to what is still queued and running (`kept_run`).  The contract of the queue
follows (`runs_tasks`): the tasks before the first request to quit are run in the order in
which they were accepted, each once and whether or not others panic, and no others are.
-/

namespace MachineBridge

variable {ν : Type}

/-! ## the tasks before a request to quit -/

namespace MainQueue

variable {τ : Type}

/-- The tasks before the first request to quit. -/
def beforeQuit : List (Message τ) → List τ
  | .run t :: rest => t :: beforeQuit rest
  | .quit :: _ => []
  | [] => []

def behindQuit : List (Message τ) → List τ
  | .run _ :: rest => behindQuit rest
  | .quit :: rest => rest.filterMap Message.task?
  | [] => []

/-- Tasks that stand before other messages are before the first request to quit. -/
theorem beforeQuit_append (ts : List τ) (messages : List (Message τ)) :
    beforeQuit (ts.map .run ++ messages) = ts ++ beforeQuit messages := by
  induction ts with
  | nil => rfl
  | cons t ts ih => exact congrArg (t :: ·) ih

/-- Tasks that stand before other messages are not behind the first request to quit. -/
theorem behindQuit_append (ts : List τ) (messages : List (Message τ)) :
    behindQuit (ts.map .run ++ messages) = behindQuit messages := by
  induction ts with
  | nil => rfl
  | cons t ts ih => exact ih

/-- Without a request to quit, all tasks are before it. -/
theorem beforeQuit_of_not_mem {messages : List (Message τ)} (never : .quit ∉ messages) :
    beforeQuit messages = messages.filterMap Message.task? := by
  induction messages with
  | nil => rfl
  | cons m rest ih =>
    cases m with
    | quit => exact absurd List.mem_cons_self never
    | run t => exact congrArg (t :: ·) (ih fun later => never (List.mem_cons_of_mem _ later))

end MainQueue

open MainQueue

/-! ## handles that tasks hold -/

mutual

/-- A task uses the queue that runs it, for which it holds a handle. -/
def Program.usesQueue : Program ν → Bool
  | .isMain => true
  | .sync _ => true
  | .dispatch _ => true
  | .quit => true
  | .cloneHandle => true
  | .dropHandle => true
  | .seq ps => Program.anyUsesQueue ps
  | .log _ => false
  | .panic _ => false
  | .wait _ => false

def Program.anyUsesQueue : List (Program ν) → Bool
  | [] => false
  | p :: ps => p.usesQueue || Program.anyUsesQueue ps

end

namespace Loop

/-- The handles that there are while no task is running: those outside of tasks, and those that
queued tasks hold. -/
def handlesHeld (l : Loop ν) : Nat :=
  l.queue.handles + l.queue.tasks.countP fun job => job.program.usesQueue

/-! ## what becomes of the loop -/

/-- An event decides what becomes of the loop: it is run, or it is dropped. -/
def Event.isChoice : Event ν → Bool
  | .start => true
  | .dropUnrun => true
  | _ => false

/-- What becomes of the loop. What the host does first counts. -/
def choice? (events : List (Event ν)) : Option (Event ν) := events.find? Event.isChoice

/-- What an event decides counts if nothing was decided before. -/
theorem choice?_append_singleton (before : List (Event ν)) (e : Event ν) :
    choice? (before ++ [e]) = (choice? before).or (if e.isChoice then some e else none) := by
  rw [choice?, List.find?_append, choice?]
  cases h : e.isChoice <;> simp [List.find?, h]

/-! ## the account of a run -/

/-- How a loop that is gone came to its end, by what was done with its tasks. -/
inductive Ending (choice : Option (Event ν)) (h : Deed ν) : Prop where
  /-- It was dropped without being run. -/
  | unrun (dropped : choice = some .dropUnrun) (begun : h.begun = [])
      (discarded : h.discarded = h.accepted.filterMap Message.task?)
  /-- It came to a request to quit. -/
  | quit (started : choice = some .start) (rest : List (Message (Job ν)))
      (accepted : h.accepted = h.begun.map .run ++ .quit :: rest)
      (discarded : h.discarded = rest.filterMap Message.task?)
  /-- Nobody could hand it anything any more. -/
  | unheld (started : choice = some .start) (accepted : h.accepted = h.begun.map .run)
      (discarded : h.discarded = [])

/-- What was done with the tasks of a queue, and what it still has. -/
structure Kept (choice : Option (Event ν)) (h : Deed ν) (l : Loop ν) : Prop where
  busy : l.current ≠ none → l.queue.status = .running
  outcomes : h.begun.map Job.taskEnd = h.ended ++ (l.current.map Activity.taskEnd).toList
  pending : l.queue.status ≠ .gone → h.accepted = h.begun.map .run ++ l.queue.messages
  discarded : l.queue.status ≠ .gone → h.discarded = []
  fresh : l.queue.status = .notStarted → choice = none ∧ h.begun = []
  started : l.queue.status = .running → choice = some .start
  gone : l.queue.status = .gone → l.queue.messages = [] ∧ Ending choice h

/-- An event that decides what becomes of the loop does not leave it as it was. -/
theorem isChoice_of_fresh {l : Loop ν} {e : Event ν} (fresh : l.queue.status = .notStarted)
    (still : (l.step e).queue.status = .notStarted) : e.isChoice = false := by
  cases e with
  | start =>
    rw [step, MainQueue.start, if_pos fresh] at still
    contradiction
  | dropUnrun =>
    obtain ⟨-, -, status, -⟩ :=
      ({ l with queue := l.queue.finish } : Loop ν).discard_frame l.queue.tasks
    rw [step, if_pos fresh, dropUnrun, status] at still
    contradiction
  | _ => rfl

/-- A decision that was made stays. -/
theorem or_isChoice {choice : Option (Event ν)} {e f : Event ν} (made : choice = some f) :
    choice.or (if e.isChoice then some e else none) = some f := by
  rw [made, Option.some_or]

/-- A loop that is gone stays so, and only calls are made on it, in vain. -/
theorem Ending.step {choice : Option (Event ν)} {h : Deed ν} (ending : Ending choice h)
    (e : Event ν) (ps : List (Program ν)) :
    Ending (choice.or (if e.isChoice then some e else none)) (h.append { called := ps }) := by
  cases ending with
  | unrun dropped begun discarded =>
    exact .unrun (or_isChoice dropped) (by simpa [Deed.append] using begun)
      (by simpa [Deed.append] using discarded)
  | quit started rest accepted discarded =>
    exact .quit (or_isChoice started) rest (by simpa [Deed.append] using accepted)
      (by simpa [Deed.append] using discarded)
  | unheld started accepted discarded =>
    exact .unheld (or_isChoice started) (by simpa [Deed.append] using accepted)
      (by simpa [Deed.append] using discarded)

/-- A loop ends in one of three ways. -/
theorem Kept.ending {choice : Option (Event ν)} {h : Deed ν} {l : Loop ν} {e : Event ν}
    {jobs : List (Job ν)} (kept : Kept choice h l) (closing : Closing l e jobs) :
    Ending (choice.or (if e.isChoice then some e else none))
      (h.append { discarded := jobs }) := by
  cases closing with
  | unrun drop status =>
    have here : l.queue.status ≠ .gone := by rw [status]; decide
    obtain ⟨undecided, begun⟩ := kept.fresh status
    refine .unrun ?_ (by simpa [Deed.append] using begun) ?_
    · rw [undecided, drop]
      rfl
    · simp [Deed.append, kept.discarded here, kept.pending here, begun, MainQueue.tasks]
  | @quit rest running messages =>
    have here : l.queue.status ≠ .gone := by rw [running]; decide
    refine .quit (or_isChoice (kept.started running)) rest ?_ ?_
    · simp [Deed.append, kept.pending here, messages]
    · simp [Deed.append, kept.discarded here]
  | unheld running messages handles =>
    have here : l.queue.status ≠ .gone := by rw [running]; decide
    refine .unheld (or_isChoice (kept.started running)) ?_ ?_
    · simp [Deed.append, kept.pending here, messages]
    · simp [Deed.append, kept.discarded here]

/-- The account is kept when messages are sent or calls are made, while the loop is as far as
it was. -/
theorem Kept.sends {choice : Option (Event ν)} {h : Deed ν} {l l' : Loop ν} {e : Event ν}
    (kept : Kept choice h l) (sent : List (Message (Job ν))) (calls : List (Program ν))
    (refused : l.queue.isOpen = false → sent = [])
    (undecided : l'.queue.status = .notStarted → e.isChoice = false)
    (messages : l'.queue.messages = l.queue.messages ++ sent)
    (status : l'.queue.status = l.queue.status)
    (current : l'.current.map Activity.taskEnd = l.current.map Activity.taskEnd) :
    Kept (choice.or (if e.isChoice then some e else none))
      (h.append { accepted := sent, called := calls }) l' where
  busy running := by
    rw [status]
    refine kept.busy fun none => running ?_
    rw [none, Option.map_none] at current
    exact Option.map_eq_none_iff.1 current
  outcomes := by
    rw [current]
    simpa [Deed.append] using kept.outcomes
  pending here := by
    rw [status] at here
    simp [Deed.append, kept.pending here, messages]
  discarded here := by
    rw [status] at here
    simpa [Deed.append] using kept.discarded here
  fresh fresh := by
    obtain ⟨before, begun⟩ := kept.fresh (status ▸ fresh)
    rw [undecided fresh, before]
    exact ⟨rfl, by simpa [Deed.append] using begun⟩
  started running := or_isChoice (kept.started (status ▸ running))
  gone gone := by
    rw [status] at gone
    obtain ⟨empty, ending⟩ := kept.gone gone
    have nothing : sent = [] := refused (by simp [MainQueue.isOpen, gone])
    subst nothing
    exact ⟨by rw [messages, empty]; rfl, ending.step e calls⟩

/-- The account of a loop that runs. -/
theorem Kept.of_running {choice : Option (Event ν)} {h : Deed ν} {l : Loop ν}
    (status : l.queue.status = .running) (started : choice = some .start)
    (outcomes : h.begun.map Job.taskEnd = h.ended ++ (l.current.map Activity.taskEnd).toList)
    (pending : h.accepted = h.begun.map .run ++ l.queue.messages)
    (discarded : h.discarded = []) : Kept choice h l where
  busy _ := status
  outcomes := outcomes
  pending _ := pending
  discarded _ := discarded
  fresh fresh := by rw [status] at fresh; contradiction
  started _ := started
  gone gone := by rw [status] at gone; contradiction

/-- The account is kept by every event. -/
theorem Kept.step {choice : Option (Event ν)} {h : Deed ν} {l : Loop ν}
    (kept : Kept choice h l) (e : Event ν) :
    Kept (choice.or (if e.isChoice then some e else none)) (h.append (l.deed e)) (l.step e) := by
  have undecided (status : (l.step e).queue.status = l.queue.status)
      (fresh : (l.step e).queue.status = .notStarted) : e.isChoice = false :=
    isChoice_of_fresh (status ▸ fresh) fresh
  cases stepCase_step l e kept.busy with
  | goes sent deed refused uncalled messages status current callers =>
    rw [deed]
    exact kept.sends sent [] refused (undecided status) messages status current
  | accepts p call deed isOpen messages status current callers =>
    rw [deed]
    refine kept.sends _ [p] (fun gone => ?_) (undecided status) messages status
      (congrArg _ current)
    rw [isOpen] at gone
    contradiction
  | refuses p call deed gone queue current callers =>
    have status := congrArg MainQueue.status queue
    rw [deed]
    refine kept.sends [] [p] (fun _ => rfl) (undecided status) ?_ status (congrArg _ current)
    rw [queue, List.append_nil]
  | starts start deed before status messages current callers =>
    have here : l.queue.status ≠ .gone := by rw [before]; decide
    rw [deed]
    refine .of_running status ?_ ?_ ?_ ?_
    · rw [(kept.fresh before).1, start]
      rfl
    · rw [current]
      simpa [Deed.append] using kept.outcomes
    · simp [Deed.append, kept.pending here, messages]
    · simpa [Deed.append] using kept.discarded here
  | begins job deed running idle messages status current callers =>
    have here : l.queue.status ≠ .gone := by rw [running]; decide
    have outcomes := kept.outcomes
    rw [idle] at outcomes
    rw [deed]
    refine .of_running status (or_isChoice (kept.started running)) ?_ ?_ ?_
    · rw [current]
      simpa [Deed.append] using outcomes
    · simp [Deed.append, kept.pending here, messages]
    · simpa [Deed.append] using kept.discarded here
  | ends o deed running current messages status callers =>
    have busy : l.queue.status = .running := kept.busy fun none => by
      rw [none] at running
      contradiction
    have here : l.queue.status ≠ .gone := by rw [busy]; decide
    have outcomes := kept.outcomes
    rw [running] at outcomes
    rw [deed]
    refine .of_running (status.trans busy) (or_isChoice (kept.started busy)) ?_ ?_ ?_
    · rw [current]
      simpa [Deed.append] using outcomes
    · simp [Deed.append, kept.pending here, messages]
    · simpa [Deed.append] using kept.discarded here
  | closes jobs deed closing idle status messages current callers =>
    rw [deed]
    refine ⟨fun some => absurd current some, ?_, fun here => absurd status here,
      fun here => absurd status here, fun fresh => ?_, fun running => ?_,
      fun _ => ⟨messages, kept.ending closing⟩⟩
    · have outcomes := kept.outcomes
      rw [idle] at outcomes
      rw [current]
      simpa [Deed.append] using outcomes
    · rw [status] at fresh
      contradiction
    · rw [status] at running
      contradiction

/-- The account is kept by every run of a new queue. -/
theorem kept_run (events : List (Event ν)) :
    Kept (choice? events) (history events) (after events) := by
  induction events using List.reverseRecOn with
  | nil =>
    have fresh : (@after ν []).queue.status = .notStarted := rfl
    exact ⟨fun busy => absurd rfl busy, rfl, fun _ => rfl, fun _ => rfl, fun _ => ⟨rfl, rfl⟩,
      by simp [fresh], by simp [fresh]⟩
  | append_singleton before e ih =>
    rw [choice?_append_singleton, history_append_singleton, after_append_singleton]
    exact ih.step e

/-! ## rest and the end -/

/-- Once the loop is gone, an event does nothing with tasks. -/
theorem gone_step {l : Loop ν} (idle : l.current = none) (gone : l.queue.status = .gone)
    (e : Event ν) : (l.step e).queue.status = .gone ∧ (l.deed e).accepted = [] ∧
      (l.deed e).begun = [] := by
  have closed : l.queue.isOpen = false := by simp [MainQueue.isOpen, gone]
  have other : ∀ {s : LoopStatus}, l.queue.status = s → s ≠ .gone → False :=
    fun same differs => differs (same.symm.trans gone)
  cases stepCase_step l e (fun some => absurd idle some) with
  | goes sent deed refused uncalled messages status =>
    rw [deed]
    exact ⟨status.trans gone, refused closed, rfl⟩
  | accepts p call deed isOpen =>
    rw [closed] at isOpen
    contradiction
  | refuses p call deed _ queue =>
    rw [deed, queue]
    exact ⟨gone, rfl, rfl⟩
  | starts start deed before => exact (other before (by decide)).elim
  | begins job deed running => exact (other running (by decide)).elim
  | ends o deed running =>
    rw [idle] at running
    contradiction
  | closes jobs deed closing =>
    cases closing with
    | unrun drop status => exact (other status (by decide)).elim
    | quit running messages => exact (other running (by decide)).elim
    | unheld running messages handles => exact (other running (by decide)).elim

/-- A loop that is gone runs no task. -/
theorem Kept.idle {choice : Option (Event ν)} {h : Deed ν} {l : Loop ν}
    (kept : Kept choice h l) (gone : l.queue.status = .gone) : l.current = none := by
  by_contra running
  exact absurd (gone.symm.trans (kept.busy running)) (by decide)

/-- A loop that is gone stays so. -/
theorem gone_run {events : List (Event ν)} (gone : (after events).queue.status = .gone)
    (more : List (Event ν)) :
    (after (events ++ more)).queue.status = .gone ∧
      (history (events ++ more)).accepted = (history events).accepted ∧
      (history (events ++ more)).begun = (history events).begun := by
  induction more using List.reverseRecOn with
  | nil =>
    rw [List.append_nil]
    exact ⟨gone, rfl, rfl⟩
  | append_singleton more e ih =>
    obtain ⟨still, accepted, begun⟩ := ih
    have idle := (kept_run (events ++ more)).idle still
    obtain ⟨status, nothing, none⟩ := gone_step idle still e
    rw [← List.append_assoc, after_append_singleton, history_append_singleton]
    refine ⟨status, ?_, ?_⟩
    · rw [Deed.append, accepted, nothing, List.append_nil]
    · rw [Deed.append, begun, none, List.append_nil]

/-- If only tasks were accepted, they are all before a request to quit, and none is behind. -/
theorem accepted_map_run {h : Deed ν} (accepted : h.accepted = h.begun.map .run) :
    .quit ∉ h.accepted ∧ h.begun = h.accepted.filterMap Message.task? ∧
      h.begun = beforeQuit h.accepted ∧ behindQuit h.accepted = [] := by
  have before := beforeQuit_append h.begun []
  have behind := behindQuit_append h.begun []
  rw [List.append_nil, beforeQuit, List.append_nil] at before
  rw [List.append_nil, behindQuit] at behind
  have never : .quit ∉ h.accepted := by simp [accepted]
  rw [← accepted] at before behind
  exact ⟨never, before.symm.trans (beforeQuit_of_not_mem never), before.symm, behind⟩

/-- What was discarded stood behind a request to quit, or in a queue that was never run. -/
theorem Kept.discardedJobs {choice : Option (Event ν)} {h : Deed ν} {l : Loop ν}
    (kept : Kept choice h l) : h.discarded = [] ∨ l.queue.status = .gone ∧
      (choice = some .start ∧ h.discarded = behindQuit h.accepted ∨
        choice = some .dropUnrun ∧ h.discarded = h.accepted.filterMap Message.task?) := by
  by_cases gone : l.queue.status = .gone
  · cases (kept.gone gone).2 with
    | unrun dropped _ discarded => exact .inr ⟨gone, .inr ⟨dropped, discarded⟩⟩
    | quit started rest accepted discarded =>
      refine .inr ⟨gone, .inl ⟨started, ?_⟩⟩
      rw [accepted, behindQuit_append]
      exact discarded
    | unheld _ _ discarded => exact .inl discarded
  · exact .inl (kept.discarded gone)

/-- The tasks that are begun are the first of those before a request to quit. -/
theorem Kept.inOrder {choice : Option (Event ν)} {h : Deed ν} {l : Loop ν}
    (kept : Kept choice h l) : h.begun <+: beforeQuit h.accepted := by
  by_cases gone : l.queue.status = .gone
  · cases (kept.gone gone).2 with
    | unrun dropped begun discarded =>
      rw [begun]
      exact List.nil_prefix
    | quit started rest accepted discarded =>
      rw [accepted, beforeQuit_append]
      exact List.prefix_append _ _
    | unheld started accepted discarded =>
      exact ⟨[], (List.append_nil _).trans (accepted_map_run accepted).2.2.1⟩
  · rw [kept.pending gone, beforeQuit_append]
    exact List.prefix_append _ _

/-- Every task that is begun was accepted. -/
theorem Kept.accepted_of_begun {choice : Option (Event ν)} {h : Deed ν} {l : Loop ν}
    (kept : Kept choice h l) {job : Job ν} (begun : job ∈ h.begun) : .run job ∈ h.accepted := by
  have sent : Message.run job ∈ h.begun.map Message.run := List.mem_map_of_mem begun
  by_cases gone : l.queue.status = .gone
  · cases (kept.gone gone).2 with
    | unrun _ none =>
      rw [none] at begun
      contradiction
    | quit _ rest accepted =>
      rw [accepted]
      exact List.mem_append_left _ sent
    | unheld _ accepted =>
      rw [accepted]
      exact sent
  · rw [kept.pending gone]
    exact List.mem_append_left _ sent

/-- A loop that is run and can do nothing by itself waits in a task, or for more messages. -/
theorem resting {l : Loop ν} (running : l.queue.status = .running) (rest : l.canTick = false) :
    (∃ a gate, l.current = some a ∧ a.focus = .waiting gate) ∨
      l.current = none ∧ l.queue.messages = [] ∧ l.queue.handles ≠ 0 := by
  cases found : l.current with
  | none => exact .inr ⟨rfl, by simpa [canTick, found, running] using rest⟩
  | some a =>
    refine .inl ⟨a, ?_⟩
    obtain ⟨caller, stack, focus⟩ := a
    cases focus with
    | waiting gate => exact ⟨gate, rfl, rfl⟩
    | run p => simp [canTick, found] at rest
    | yield v => simp [canTick, found] at rest

/-- A loop that was run and is gone has run the tasks before the first request to quit, and
discarded those behind it. -/
theorem Kept.exited {choice : Option (Event ν)} {h : Deed ν} {l : Loop ν}
    (kept : Kept choice h l) (gone : l.queue.status = .gone) (started : choice = some .start) :
    h.begun = beforeQuit h.accepted ∧ h.discarded = behindQuit h.accepted := by
  cases (kept.gone gone).2 with
  | unrun dropped => exact absurd (started.symm.trans dropped) (by simp)
  | quit _ rest accepted discarded =>
    rw [accepted, beforeQuit_append, behindQuit_append]
    exact ⟨(List.append_nil _).symm, discarded⟩
  | unheld _ accepted discarded =>
    obtain ⟨-, -, before, behind⟩ := accepted_map_run accepted
    exact ⟨before, discarded.trans behind.symm⟩

/-- A loop that was not run has begun no task, and has discarded all of them once it is gone. -/
theorem Kept.unrun {choice : Option (Event ν)} {h : Deed ν} {l : Loop ν}
    (kept : Kept choice h l) (other : choice ≠ some .start) :
    h.begun = [] ∧
      (l.queue.status = .gone → h.discarded = h.accepted.filterMap Message.task?) := by
  cases status : l.queue.status with
  | notStarted => exact ⟨(kept.fresh status).2, fun gone => absurd gone (by decide)⟩
  | running => exact absurd (kept.started status) other
  | gone =>
    cases (kept.gone status).2 with
    | unrun dropped begun discarded => exact ⟨begun, fun _ => discarded⟩
    | quit started => exact absurd started other
    | unheld started => exact absurd started other

/-- A loop that runs ends by closing, while no task is running. -/
theorem closing_of_gone {l : Loop ν} {e : Event ν} (running : l.queue.status = .running)
    (gone : (l.step e).queue.status = .gone) :
    l.current = none ∧ ∃ jobs, Closing l e jobs := by
  have stays (still : (l.step e).queue.status = .running) :
      l.current = none ∧ ∃ jobs, Closing l e jobs := by
    rw [still] at gone
    contradiction
  cases stepCase_step l e (fun _ => running) with
  | goes sent deed refused uncalled messages status => exact stays (status.trans running)
  | accepts p call deed isOpen messages status => exact stays (status.trans running)
  | refuses p call deed closed queue => exact stays (by rw [queue]; exact running)
  | starts start deed before status => exact stays status
  | begins job deed _ idle messages status => exact stays status
  | ends o deed _ current messages status => exact stays (status.trans running)
  | closes jobs deed closing idle => exact ⟨idle, jobs, closing⟩

/-- A loop that runs and was not asked to quit ends when nothing is queued and no handle is
left. -/
theorem Closing.unheld_of_running {l : Loop ν} {e : Event ν} {jobs : List (Job ν)}
    (closing : Closing l e jobs) (running : l.queue.status = .running)
    (unasked : .quit ∉ l.queue.messages) : l.queue.messages = [] ∧ l.queue.handles = 0 := by
  cases closing with
  | unrun drop status =>
    rw [running] at status
    contradiction
  | quit _ messages => exact absurd (messages ▸ List.mem_cons_self) unasked
  | unheld _ messages handles => exact ⟨messages, handles⟩

/-- The task that panics is over, and the queue is left as it is. -/
theorem tick_panic {l : Loop ν} {a : Activity ν} {v : ν} (running : l.current = some a)
    (focus : a.focus = .run (.panic v)) : l.tick.current = none ∧
      l.tick.queue.status = l.queue.status ∧ l.tick.queue.messages = l.queue.messages := by
  have tick : l.tick = l.runProgram a (.panic v) := by simp only [tick, running, focus]
  obtain ⟨-, messages, status, -⟩ := (l.record (.value v)).answer_frame ⟨a.caller, none⟩
  rw [tick]
  exact ⟨rfl, status, messages⟩

/-- Whether a task is accepted depends on whether the loop is gone. -/
theorem dispatch_result (l : Loop ν) (p : Program ν) :
    (l.dispatch p).2 = if l.queue.status = .gone then .error .mainLoopNotRunning else .ok () := by
  cases status : l.queue.status <;>
    simp [dispatch, MainQueue.dispatch, MainQueue.isOpen, status]

/-! ## the contract -/

/-- Which tasks a main queue runs, for every run of it. -/
structure RunsTasks (events : List (Event ν)) : Prop where
  /-- The tasks that are begun are the first of those before a request to quit, in the order in
  which they were accepted, and each is begun once. -/
  inOrder : (history events).begun <+: beforeQuit (history events).accepted
  /-- Every task that is begun comes to its own end before the next is begun: to its value, or
  to none if it panics. -/
  toTheEnd : (history events).begun.map Job.taskEnd = (history events).ended ++
    ((after events).current.map Activity.taskEnd).toList
  /-- A panic leaves the queue to the tasks behind it. -/
  panics : ∀ a v, (after events).current = some a → a.focus = .run (.panic v) →
    (after events).tick.current = none ∧
      (after events).tick.queue.status = .running ∧
      (after events).tick.queue.messages = (after events).queue.messages
  /-- A task is accepted as long as the loop is not gone. -/
  accepts : ∀ p, ((after events).dispatch p).2 =
    if (after events).queue.status = .gone then .error .mainLoopNotRunning
    else .ok ()
  /-- The loop comes to rest by its own steps. -/
  settles : ∃ n, (after (events ++ List.replicate n .tick)).canTick = false
  /-- A loop that is run and is at rest waits in a task, or it has run every task that was
  accepted, was not asked to quit, and somebody still has a handle. -/
  rests : (after events).queue.status = .running →
    (after events).canTick = false →
    (∃ a gate, (after events).current = some a ∧ a.focus = .waiting gate) ∨
      (after events).current = none ∧ .quit ∉ (history events).accepted ∧
        (history events).begun = (history events).accepted.filterMap Message.task? ∧
        (after events).queue.handles ≠ 0
  /-- A loop that was run and has exited has run exactly the tasks before the first request to
  quit, and discarded those behind it. -/
  exited : (after events).queue.status = .gone → choice? events = some .start →
    (after events).current = none ∧
      (history events).begun = beforeQuit (history events).accepted ∧
      (history events).discarded = behindQuit (history events).accepted
  /-- If it was never asked to quit, these are all tasks that were accepted. -/
  unasked : (after events).queue.status = .gone → choice? events = some .start →
    .quit ∉ (history events).accepted →
    (history events).begun = (history events).accepted.filterMap Message.task?
  /-- A loop that is run and was not asked to quit exits only when no task is queued or running
  and no handle is left, those that queued tasks hold included. -/
  exits : ∀ e, (after events).queue.status = .running →
    ((after events).step e).queue.status = .gone →
    .quit ∉ (history events).accepted →
    (after events).handlesHeld = 0 ∧ (after events).current = none ∧
      (history events).begun = (history events).accepted.filterMap Message.task?
  /-- Until a loop is run, and if it is dropped without being run, no task is begun; all are
  discarded with it. -/
  unrun : choice? events ≠ some .start → (history events).begun = [] ∧
    ((after events).queue.status = .gone →
      (history events).discarded = (history events).accepted.filterMap Message.task?)
  /-- Once the loop is gone it stays so.  Every task is refused, and nothing is accepted, queued
  or begun any more. -/
  gone : (after events).queue.status = .gone → ∀ more,
    (after (events ++ more)).queue.status = .gone ∧
      (after (events ++ more)).queue.messages = [] ∧
      (after (events ++ more)).current = none ∧
      (history (events ++ more)).accepted = (history events).accepted ∧
      (history (events ++ more)).begun = (history events).begun ∧
      ∀ p, (after (events ++ more)).dispatch p =
        (after (events ++ more), .error .mainLoopNotRunning)

/-- A main queue runs the tasks that are accepted before the first request to quit, in their
order and each once, and no others. -/
theorem runs_tasks (events : List (Event ν)) : RunsTasks events where
  inOrder := (kept_run events).inOrder
  toTheEnd := (kept_run events).outcomes
  panics a v running focus := by
    obtain ⟨idle, status, messages⟩ := tick_panic running focus
    exact ⟨idle, status.trans ((kept_run events).busy (by simp [running])), messages⟩
  accepts := (after events).dispatch_result
  settles := by
    obtain ⟨n, settled⟩ := (after events).settle_eq_run
    refine ⟨n, ?_⟩
    rw [after_append, ← settled]
    exact canTick_settle _
  rests running rest := by
    refine (resting running rest).imp_right fun still => ?_
    obtain ⟨idle, messages, handles⟩ := still
    have pending := (kept_run events).pending (by rw [running]; decide)
    rw [messages, List.append_nil] at pending
    obtain ⟨never, all, -⟩ := accepted_map_run pending
    exact ⟨idle, never, all, handles⟩
  exited gone started := ⟨(kept_run events).idle gone, (kept_run events).exited gone started⟩
  unasked gone started never :=
    ((kept_run events).exited gone started).1.trans (beforeQuit_of_not_mem never)
  exits e running gone never := by
    have pending := (kept_run events).pending (by rw [running]; decide)
    obtain ⟨idle, jobs, closing⟩ := closing_of_gone running gone
    obtain ⟨messages, handles⟩ := closing.unheld_of_running running fun queued =>
      never (pending ▸ List.mem_append_right _ queued)
    rw [messages, List.append_nil] at pending
    refine ⟨?_, idle, (accepted_map_run pending).2.1⟩
    simp [handlesHeld, MainQueue.tasks, messages, handles]
  unrun := (kept_run events).unrun
  gone gone more := by
    obtain ⟨still, accepted, begun⟩ := gone_run gone more
    have kept := kept_run (events ++ more)
    refine ⟨still, (kept.gone still).1, kept.idle still, accepted, begun, fun p => ?_⟩
    simp [dispatch, MainQueue.dispatch, MainQueue.isOpen, still]

end Loop

end MachineBridge
