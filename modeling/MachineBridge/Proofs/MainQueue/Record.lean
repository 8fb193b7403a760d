import MachineBridge.Proofs.MainQueue.Value
import Mathlib.Data.List.Induction

/-!
# MachineBridge.Proofs.MainQueue.Record

What a run of a main queue did with its tasks.  A `Deed` is what one event does with them:
messages are accepted, tasks are begun, come to their ends or are discarded, and calls are
made.  `record` puts the deeds of a run together, in order.

`StepCase` says once what an event can make of a loop, and with which deed; everything about
runs is derived from it.
-/

namespace MachineBridge

variable {ν : Type}

/-! ## deeds -/

/-- What an event does with the tasks of a queue. -/
structure Deed (ν : Type) where
  /-- The messages that the queue accepts. -/
  accepted : List (Message (Job ν)) := []
  /-- The tasks that the loop takes off its queue and begins to run. -/
  begun : List (Job ν) := []
  /-- The ends that running tasks come to. -/
  ended : List (TaskEnd ν) := []
  /-- The tasks that are thrown away with the queue. -/
  discarded : List (Job ν) := []
  /-- The programs of the calls that are made from other threads. -/
  called : List (Program ν) := []
deriving Repr

/-- One deed and then another. -/
def Deed.append (first second : Deed ν) : Deed ν where
  accepted := first.accepted ++ second.accepted
  begun := first.begun ++ second.begun
  ended := first.ended ++ second.ended
  discarded := first.discarded ++ second.discarded
  called := first.called ++ second.called

/-- What the caller of a task gets of its end. -/
def TaskEnd.result (o : TaskEnd ν) : Except BridgeError (TaskValue ν) :=
  match o.value? with
  | some v => .ok v
  | none => .error .taskDropped

/-- The end of a task that is never run. -/
def Job.lost (job : Job ν) : TaskEnd ν := ⟨job.caller, none⟩

/-- The caller that waits for what a message asks for. -/
def callerOf : Message (Job ν) → Option Nat
  | .run job => job.caller
  | .quit => none

namespace Loop

def accepts (l : Loop ν) (job : Job ν) : List (Message (Job ν)) :=
  match l.queue.dispatch job with
  | .ok _ => [.run job]
  | .error _ => []

def acceptsQuit (l : Loop ν) : List (Message (Job ν)) := if l.queue.isOpen then [.quit] else []

/-- What a step of the running task does. -/
def deedOf (l : Loop ν) (a : Activity ν) : Deed ν :=
  match a.focus, a.stack with
  | .run (.dispatch p), _ => { accepted := l.accepts { program := p } }
  | .run .quit, _ => { accepted := l.acceptsQuit }
  | .run (.panic _), _ => { ended := [⟨a.caller, none⟩] }
  | .yield v, [] => { ended := [⟨a.caller, some v⟩] }
  | _, _ => {}

/-- What the loop does when it looks at its queue. -/
def deedOfTurn (l : Loop ν) : Deed ν :=
  match l.queue.status, l.queue.messages with
  | .running, .run job :: _ => { begun := [job] }
  | .running, .quit :: rest => { discarded := rest.filterMap MainQueue.Message.task? }
  | _, _ => {}

/-- What an event does with the tasks of a queue. -/
def deed (l : Loop ν) : Event ν → Deed ν
  | .dispatch p => { accepted := l.accepts { program := p } }
  | .call p =>
    { accepted := l.accepts { program := p, caller := some l.callers.length }, called := [p] }
  | .quit => { accepted := l.acceptsQuit }
  | .dropUnrun =>
    if l.queue.status = .notStarted then { discarded := l.queue.tasks } else {}
  | .tick =>
    match l.current with
    | some a => l.deedOf a
    | none => l.deedOfTurn
  | _ => {}

/-- What a sequence of events does with the tasks of a queue. -/
def deeds (l : Loop ν) : List (Event ν) → Deed ν
  | [] => {}
  | e :: rest => (l.deed e).append ((l.step e).deeds rest)

/-- What was done with the tasks of a new queue. -/
def history (events : List (Event ν)) : Deed ν := ({} : Loop ν).deeds events

/-- What is done in a run is what is done in its parts. -/
theorem deeds_append (l : Loop ν) (first second : List (Event ν)) :
    l.deeds (first ++ second) = (l.deeds first).append ((l.run first).deeds second) := by
  induction first generalizing l with
  | nil => rfl
  | cons e first ih =>
    rw [List.cons_append, deeds, ih, deeds]
    simp only [Deed.append, List.append_assoc]
    rfl

/-- The last event of a run adds what it does. -/
theorem history_append_singleton (before : List (Event ν)) (e : Event ν) :
    history (before ++ [e]) = (history before).append ((after before).deed e) := by
  rw [history, deeds_append, deeds, deeds]
  simp [Deed.append, history, after]

/-! ## answers to callers -/

/-- What the callers have once the task of one of them has come to its end, which they are
told as well if it is discarded. -/
def answered (callers : List (CallerResult ν)) (o : TaskEnd ν) : List (CallerResult ν) :=
  match o.caller with
  | none => callers
  | some c => callers.set c (some o.result)

/-- Answering a caller does to the callers what it has to, and nothing to the messages. -/
theorem answer_frame (l : Loop ν) (o : TaskEnd ν) :
    (l.answer o.caller o.result).callers = answered l.callers o ∧
      (l.answer o.caller o.result).queue.messages = l.queue.messages ∧
      (l.answer o.caller o.result).queue.status = l.queue.status ∧
      (l.answer o.caller o.result).current = l.current := by
  unfold answer answered
  cases o.caller with
  | none => exact ⟨rfl, rfl, rfl, rfl⟩
  | some c => exact ⟨rfl, rfl, rfl, rfl⟩

/-- The callers of discarded tasks are told so, and nothing else happens. -/
theorem discard_frame (l : Loop ν) (jobs : List (Job ν)) :
    (l.discard jobs).callers = (jobs.map Job.lost).foldl answered l.callers ∧
      (l.discard jobs).queue.messages = l.queue.messages ∧
      (l.discard jobs).queue.status = l.queue.status ∧
      (l.discard jobs).current = l.current := by
  induction jobs generalizing l with
  | nil => exact ⟨rfl, rfl, rfl, rfl⟩
  | cons job jobs ih =>
    obtain ⟨callers, messages, status, current⟩ := ih (l.answer job.caller (.error .taskDropped))
    obtain ⟨told, kept, far, running⟩ := l.answer_frame job.lost
    refine ⟨callers.trans ?_, messages.trans kept, status.trans far, current.trans running⟩
    rw [List.map_cons, List.foldl_cons, ← told]
    rfl

/-! ## what an event can do -/

/-- Why a loop ends, and which tasks are discarded. -/
inductive Closing (l : Loop ν) (e : Event ν) : List (Job ν) → Prop where
  /-- It is dropped without being run. -/
  | unrun (unrun : e = .dropUnrun) (status : l.queue.status = .notStarted) :
      Closing l e l.queue.tasks
  /-- It comes to a request to quit. -/
  | quit {rest : List (Message (Job ν))} (running : l.queue.status = .running)
      (messages : l.queue.messages = .quit :: rest) :
      Closing l e (rest.filterMap MainQueue.Message.task?)
  /-- Nothing is queued, and nobody can queue anything any more. -/
  | unheld (running : l.queue.status = .running) (messages : l.queue.messages = [])
      (handles : l.queue.handles = 0) : Closing l e []

/-- What an event can make of a loop. -/
inductive StepCase (l : Loop ν) (e : Event ν) (l' : Loop ν) : Prop where
  /-- Messages are accepted, if the loop is not gone, and the task that is running goes on. -/
  | goes (sent : List (Message (Job ν))) (deed : l.deed e = { accepted := sent })
      (refused : l.queue.isOpen = false → sent = []) (uncalled : sent.filterMap callerOf = [])
      (messages : l'.queue.messages = l.queue.messages ++ sent)
      (status : l'.queue.status = l.queue.status)
      (current : l'.current.map Activity.taskEnd = l.current.map Activity.taskEnd)
      (callers : l'.callers = l.callers)
  /-- A call is made from another thread. -/
  | accepts (p : Program ν) (call : e = .call p)
      (deed : l.deed e = { accepted := [.run ⟨p, some l.callers.length⟩], called := [p] })
      (isOpen : l.queue.isOpen = true)
      (messages : l'.queue.messages = l.queue.messages ++ [.run ⟨p, some l.callers.length⟩])
      (status : l'.queue.status = l.queue.status) (current : l'.current = l.current)
      (callers : l'.callers = l.callers ++ [none])
  /-- A call that is made from another thread is refused. -/
  | refuses (p : Program ν) (call : e = .call p) (deed : l.deed e = { called := [p] })
      (gone : l.queue.isOpen = false) (queue : l'.queue = l.queue)
      (current : l'.current = l.current)
      (callers : l'.callers = l.callers ++ [some (.error .mainLoopNotRunning)])
  /-- The loop is let run. -/
  | starts (start : e = .start) (deed : l.deed e = {})
      (before : l.queue.status = .notStarted) (status : l'.queue.status = .running)
      (messages : l'.queue.messages = l.queue.messages) (current : l'.current = l.current)
      (callers : l'.callers = l.callers)
  /-- The loop takes a task off its queue. -/
  | begins (job : Job ν) (deed : l.deed e = { begun := [job] })
      (running : l.queue.status = .running) (idle : l.current = none)
      (messages : l.queue.messages = .run job :: l'.queue.messages)
      (status : l'.queue.status = .running)
      (current : l'.current.map Activity.taskEnd = some job.taskEnd)
      (callers : l'.callers = l.callers)
  /-- The task that is running comes to its end. -/
  | ends (o : TaskEnd ν) (deed : l.deed e = { ended := [o] })
      (running : l.current.map Activity.taskEnd = some o) (current : l'.current = none)
      (messages : l'.queue.messages = l.queue.messages)
      (status : l'.queue.status = l.queue.status) (callers : l'.callers = answered l.callers o)
  /-- The loop ends. -/
  | closes (jobs : List (Job ν)) (deed : l.deed e = { discarded := jobs })
      (closing : Closing l e jobs) (idle : l.current = none)
      (status : l'.queue.status = .gone) (messages : l'.queue.messages = [])
      (current : l'.current = none)
      (callers : l'.callers = (jobs.map Job.lost).foldl answered l.callers)

/-- A queue accepts a task unless its loop is gone. -/
theorem accepts_eq (l : Loop ν) (job : Job ν) :
    l.accepts job = if l.queue.isOpen then [.run job] else [] := by
  cases h : l.queue.isOpen <;> simp [accepts, MainQueue.dispatch, h]

/-- What is handed over is what the queue accepts. -/
theorem dispatch_eq (l : Loop ν) (p : Program ν) :
    (l.dispatch p).1 = { l with
      queue := { l.queue with messages := l.queue.messages ++ l.accepts { program := p } } } := by
  cases h : l.queue.isOpen <;> simp [dispatch, MainQueue.dispatch, accepts_eq, h]

/-- A queue that is asked to quit has accepted the request, or is gone. -/
theorem quit_eq (l : Loop ν) :
    l.queue.quit = { l.queue with messages := l.queue.messages ++ l.acceptsQuit } := by
  cases h : l.queue.isOpen <;> simp [MainQueue.quit, acceptsQuit, h]

/-- Nothing is accepted once the loop is gone. -/
theorem accepts_of_gone {l : Loop ν} (gone : l.queue.isOpen = false) (job : Job ν) :
    l.accepts job = [] := by
  rw [accepts_eq, gone]
  rfl

theorem acceptsQuit_of_gone {l : Loop ν} (gone : l.queue.isOpen = false) :
    l.acceptsQuit = [] := by
  rw [acceptsQuit, gone]
  rfl

/-- Nobody waits for a task that is handed over without a caller. -/
theorem callers_accepts (l : Loop ν) (p : Program ν) :
    (l.accepts { program := p }).filterMap callerOf = [] := by
  rw [accepts_eq]
  split <;> rfl

/-- Nobody waits for a request to quit. -/
theorem callers_acceptsQuit (l : Loop ν) : l.acceptsQuit.filterMap callerOf = [] := by
  rw [acceptsQuit]
  split <;> rfl

/-- A step in which nothing is done with any task. -/
theorem StepCase.quiet {l l' : Loop ν} {e : Event ν} (deed : l.deed e = {})
    (messages : l'.queue.messages = l.queue.messages)
    (status : l'.queue.status = l.queue.status)
    (current : l'.current.map Activity.taskEnd = l.current.map Activity.taskEnd)
    (callers : l'.callers = l.callers) : StepCase l e l' :=
  .goes [] deed (fun _ => rfl) rfl (by rw [messages, List.append_nil]) status current callers

/-- A step in which the running task goes on, with what it has accepted. -/
theorem StepCase.of_goesOn {l l' : Loop ν} {e : Event ν} {a : Activity ν}
    (running : l.current = some a) (on : GoesOn l a l') (sent : List (Message (Job ν)))
    (deed : l.deed e = { accepted := sent }) (refused : l.queue.isOpen = false → sent = [])
    (uncalled : sent.filterMap callerOf = [])
    (messages : l'.queue.messages = l.queue.messages ++ sent) : StepCase l e l' := by
  obtain ⟨a', found, same⟩ := on.current
  refine .goes sent deed refused uncalled messages on.status ?_ on.callers
  rw [found, running, Option.map_some, Option.map_some, same]

/-- A step in which the running task ends, and its caller is told. -/
theorem StepCase.of_end {l l₁ : Loop ν} {e : Event ν} {a : Activity ν} {o : TaskEnd ν}
    (running : l.current = some a) (outcome : a.taskEnd = o) (deed : l.deed e = { ended := [o] })
    (same : l₁.queue = l.queue ∧ l₁.callers = l.callers) :
    StepCase l e (l₁.answer o.caller o.result).leave := by
  obtain ⟨callers, messages, status, -⟩ := l₁.answer_frame o
  refine .ends o deed ?_ rfl (messages.trans ?_) (status.trans ?_) (callers.trans ?_)
  · rw [running, Option.map_some, outcome]
  · rw [same.1]
  · rw [same.1]
  · rw [same.2]

/-- What a step of a program that is running can do. -/
theorem stepCase_runProgram {l : Loop ν} {a : Activity ν} {p : Program ν}
    (running : l.current = some a) (isOpen : l.queue.isOpen = true) (focus : a.focus = .run p) :
    StepCase l .tick (l.runProgram a p) := by
  have deed : l.deed .tick = l.deedOf a := by rw [Loop.deed, running]
  rw [deedOf, focus] at deed
  have on := @goesOn_runProgram ν l a p isOpen focus
  have quiet : ∀ {q : Program ν}, p = q → l.deed .tick = {} → (∀ v, q ≠ .panic v) →
      (l.runProgram a q).queue.messages = l.queue.messages →
      StepCase l .tick (l.runProgram a q) := by
    rintro q rfl none calm messages
    exact .of_goesOn running (on calm) [] none (fun _ => rfl) rfl
      (by rw [messages, List.append_nil])
  cases p with
  | log v => exact quiet rfl deed (by simp) rfl
  | isMain => exact quiet rfl deed (by simp) rfl
  | sync p => exact quiet rfl deed (by simp) rfl
  | wait gate => exact quiet rfl deed (by simp) rfl
  | cloneHandle => exact quiet rfl deed (by simp) rfl
  | dropHandle => exact quiet rfl deed (by simp) rfl
  | seq ps => cases ps <;> exact quiet rfl deed (by simp) rfl
  | dispatch p =>
    exact .of_goesOn running (on (by simp)) _ deed (fun gone => accepts_of_gone gone _)
      (callers_accepts l p) (congrArg (fun l : Loop ν => l.queue.messages) (dispatch_eq l p))
  | quit =>
    exact .of_goesOn running (on (by simp)) _ deed acceptsQuit_of_gone
      (callers_acceptsQuit l) (congrArg MainQueue.messages (quit_eq l))
  | panic v =>
    refine @StepCase.of_end ν l (l.record (.value v)) .tick a ⟨a.caller, none⟩ running ?_ deed
      ⟨rfl, rfl⟩
    rw [Activity.taskEnd, Activity.value?, focus]
    exact congrArg _ (Continuation.resumeAll?_none a.stack)

/-- What a step with a value of the running task can do. -/
theorem stepCase_returnValue {l : Loop ν} {a : Activity ν} {v : TaskValue ν}
    (running : l.current = some a) (focus : a.focus = .yield v) :
    StepCase l .tick (l.returnValue a v) := by
  have deed : l.deed .tick = l.deedOf a := by rw [Loop.deed, running]
  rw [deedOf, focus] at deed
  cases stack : a.stack with
  | nil =>
    rw [stack] at deed
    rw [returnValue, stack]
    refine @StepCase.of_end ν l l .tick a ⟨a.caller, some v⟩ running ?_ deed ⟨rfl, rfl⟩
    rw [Activity.taskEnd, Activity.value?, focus, stack]
    rfl
  | cons k rest =>
    rw [stack] at deed
    have on := goesOn_returnValue (l := l) focus (by simp [stack])
    refine .of_goesOn running on [] deed (fun _ => rfl) rfl ?_
    rw [List.append_nil, returnValue, stack]
    cases k with
    | inPlace => rfl
    | seq reversed rest => cases rest <;> rfl

/-- What the loop can do when it looks at its queue. -/
theorem stepCase_turn {l : Loop ν} (idle : l.current = none) : StepCase l .tick l.tick := by
  have deed : l.deed .tick = l.deedOfTurn := by rw [Loop.deed, idle]
  have still : l.tick = l → l.deed .tick = {} → StepCase l .tick l.tick := fun same none => by
    rw [same]
    exact .quiet none rfl rfl rfl rfl
  by_cases running : l.queue.status = .running
  · rw [deedOfTurn, running] at deed
    cases found : l.queue.messages with
    | nil =>
      rw [found] at deed
      by_cases handles : l.queue.handles = 0
      · have tick : l.tick = ({ l with queue := l.queue.finish } : Loop ν).discard [] := by
          simp only [tick, idle, running, if_true, MainQueue.take, found, handles]
        rw [tick]
        exact .closes [] deed (.unheld running found handles) idle rfl rfl idle rfl
      · refine still ?_ deed
        simp only [tick, idle, running, if_true, MainQueue.take, found, if_neg handles]
    | cons m rest =>
      rw [found] at deed
      cases m with
      | run job =>
        have tick : l.tick = { l with
            queue := { l.queue with messages := rest }
            current := some { caller := job.caller, focus := .run job.program } } := by
          simp only [tick, idle, running, if_true, MainQueue.take, found]
        rw [tick]
        exact .begins job deed running idle found running rfl rfl
      | quit =>
        have tick : l.tick = ({ l with queue := l.queue.finish } : Loop ν).discard
            (rest.filterMap MainQueue.Message.task?) := by
          simp only [tick, idle, running, if_true, MainQueue.take, found]
        obtain ⟨callers, messages, status, current⟩ :=
          ({ l with queue := l.queue.finish } : Loop ν).discard_frame
            (rest.filterMap MainQueue.Message.task?)
        rw [tick]
        exact .closes _ deed (.quit running found) idle status messages (current.trans idle) callers
  · refine still ?_ (deed.trans ?_)
    · simp only [tick, idle, if_neg running]
    · rw [deedOfTurn]
      split
      · next now _ => exact absurd now running
      · next now _ => exact absurd now running
      · rfl

/-- What a call from another thread can do. -/
theorem stepCase_call (l : Loop ν) (p : Program ν) :
    StepCase l (.call p) (l.step (.call p)) := by
  cases isOpen : l.queue.isOpen with
  | true =>
    rw [step, call]
    simp only [MainQueue.dispatch, isOpen, if_true]
    refine .accepts p rfl ?_ isOpen rfl rfl rfl rfl
    rw [deed, accepts_eq, isOpen]
    rfl
  | false =>
    rw [step, call]
    simp only [MainQueue.dispatch, isOpen, if_neg Bool.false_ne_true]
    refine .refuses p rfl ?_ isOpen rfl rfl rfl
    rw [deed, accepts_of_gone isOpen]

/-- A loop is let run once. -/
theorem stepCase_start (l : Loop ν) : StepCase l .start (l.step .start) := by
  by_cases fresh : l.queue.status = .notStarted
  · rw [step, MainQueue.start, if_pos fresh]
    exact .starts rfl rfl fresh rfl rfl rfl rfl
  · rw [step, MainQueue.start, if_neg fresh]
    exact .quiet rfl rfl rfl rfl rfl

/-- A loop that is dropped without being run throws all its tasks away. -/
theorem stepCase_dropUnrun {l : Loop ν} (busy : l.current ≠ none → l.queue.status = .running) :
    StepCase l .dropUnrun (l.step .dropUnrun) := by
  by_cases fresh : l.queue.status = .notStarted
  · have idle : l.current = none := by
      by_contra running
      rw [busy running] at fresh
      contradiction
    obtain ⟨callers, messages, status, current⟩ :=
      ({ l with queue := l.queue.finish } : Loop ν).discard_frame l.queue.tasks
    rw [step, if_pos fresh]
    exact .closes _ (if_pos fresh) (.unrun rfl fresh) idle status messages
      (current.trans idle) callers
  · rw [step, if_neg fresh]
    exact .quiet (if_neg fresh) rfl rfl rfl rfl

/-- To open a gate does nothing with any task but the one that waits at it. -/
theorem stepCase_openGate (l : Loop ν) (gate : String) :
    StepCase l (.openGate gate) (l.step (.openGate gate)) := by
  rw [step]
  obtain same | ⟨a, g, running, focus, opened⟩ := l.openGate_cases gate
  · rw [same]
    exact .quiet rfl rfl rfl rfl rfl
  · rw [opened]
    exact .of_goesOn running (goesOn_openGate focus) [] rfl (fun _ => rfl) rfl
      (List.append_nil _).symm

/-- What a step of a loop with a running task can do. -/
theorem stepCase_tick {l : Loop ν} {a : Activity ν} (running : l.current = some a)
    (isOpen : l.queue.isOpen = true) : StepCase l .tick l.tick := by
  cases focus : a.focus with
  | run p =>
    simp only [tick, running, focus]
    exact stepCase_runProgram running isOpen focus
  | yield v =>
    simp only [tick, running, focus]
    exact stepCase_returnValue running focus
  | waiting gate =>
    simp only [tick, running, focus]
    refine .quiet ?_ rfl rfl rfl rfl
    rw [deed, running]
    simp only [deedOf, focus]

/-- Every event does one of these things, if only a loop that runs has a running task. -/
theorem stepCase_step (l : Loop ν) (e : Event ν)
    (busy : l.current ≠ none → l.queue.status = .running) : StepCase l e (l.step e) := by
  cases e with
  | dispatch p =>
    rw [step, dispatch_eq]
    exact .goes _ rfl (fun gone => accepts_of_gone gone _) (callers_accepts l p) rfl rfl rfl rfl
  | call p => exact stepCase_call l p
  | quit =>
    rw [step, quit_eq]
    exact .goes _ rfl acceptsQuit_of_gone (callers_acceptsQuit l) rfl rfl rfl rfl
  | cloneHandle => exact .quiet rfl rfl rfl rfl rfl
  | dropHandle => exact .quiet rfl rfl rfl rfl rfl
  | start => exact stepCase_start l
  | dropUnrun => exact stepCase_dropUnrun busy
  | openGate gate => exact stepCase_openGate l gate
  | tick =>
    cases running : l.current with
    | none => exact stepCase_turn running
    | some a =>
      refine stepCase_tick running ?_
      rw [MainQueue.isOpen, busy (by simp [running])]
      rfl

end Loop

end MachineBridge
