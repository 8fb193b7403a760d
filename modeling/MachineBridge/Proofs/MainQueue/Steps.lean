import MachineBridge.Proofs.MainQueue.InPlace
import MachineBridge.Proofs.MainQueue.Order

/-!
# MachineBridge.Proofs.MainQueue.Steps

What a task does, read off its program.  `Program.steps` are the single steps of a program, depth
first and from left to right; a program that is run in place contributes its own.  A task does
its steps up to the first panic (`upToPanic`), and what it logs and hands over are the entries
and the messages of these.

The loop does the same, whatever else happens in between: what it has done of its tasks, together
with what the running task has still to do, are the steps of the tasks that it began, one task
after the other (`performed_run`).
-/

namespace MachineBridge

variable {ν : Type}

/-! ## the steps of a program -/

mutual

/-- The single steps of a program, in the order in which they come. -/
def Program.steps : Program ν → List (Program ν)
  | .sync p => p.steps
  | .seq ps => Program.allSteps ps
  | .log v => [.log v]
  | .panic v => [.panic v]
  | .isMain => [.isMain]
  | .dispatch p => [.dispatch p]
  | .quit => [.quit]
  | .cloneHandle => [.cloneHandle]
  | .dropHandle => [.dropHandle]
  | .wait gate => [.wait gate]

/-- The single steps of programs that are run one after the other. -/
def Program.allSteps : List (Program ν) → List (Program ν)
  | [] => []
  | p :: ps => p.steps ++ Program.allSteps ps

end

namespace Program

def panics : Program ν → Bool
  | .panic _ => true
  | _ => false

/-- Some steps up to the first panic, which is the last that is done. -/
def upToPanic : List (Program ν) → List (Program ν)
  | [] => []
  | p :: rest => if p.panics then [p] else p :: upToPanic rest

def entry? : Program ν → Option (LogEntry ν)
  | .log v => some (.value v)
  | .panic v => some (.value v)
  | .isMain => some (.isMain true)
  | _ => none

def message? : Program ν → Option (Message (Job ν))
  | .dispatch p => some (.run { program := p })
  | .quit => some .quit
  | _ => none

/-- What a program logs. -/
def entries (p : Program ν) : List (LogEntry ν) := (upToPanic p.steps).filterMap entry?

/-- What a program hands over to the queue. -/
def messages (p : Program ν) : List (Message (Job ν)) := (upToPanic p.steps).filterMap message?

/-- Behind a panic nothing is done. -/
theorem upToPanic_append_of_panic {steps : List (Program ν)} (panic : steps.any panics = true)
    (more : List (Program ν)) : upToPanic (steps ++ more) = upToPanic steps := by
  induction steps with
  | nil => contradiction
  | cons p rest ih =>
    rw [List.cons_append, upToPanic, upToPanic]
    split
    · rfl
    · next calm =>
      rw [List.any_cons, Bool.or_eq_true_iff] at panic
      rw [ih (panic.resolve_left calm)]

/-- Without a panic everything is done, and what comes next as well. -/
theorem upToPanic_append_of_calm {steps : List (Program ν)} (calm : steps.any panics = false)
    (more : List (Program ν)) : upToPanic (steps ++ more) = steps ++ upToPanic more := by
  induction steps with
  | nil => rfl
  | cons p rest ih =>
    rw [List.any_cons, Bool.or_eq_false_iff] at calm
    rw [List.cons_append, upToPanic, calm.1, ih calm.2]
    rfl

/-- Without a panic all steps are done. -/
theorem upToPanic_of_calm {steps : List (Program ν)} (calm : steps.any panics = false) :
    upToPanic steps = steps := by
  simpa [upToPanic] using upToPanic_append_of_calm calm []

theorem upToPanic_sublist (steps : List (Program ν)) : (upToPanic steps).Sublist steps := by
  induction steps with
  | nil => exact .slnil
  | cons p rest ih =>
    rw [upToPanic]
    split
    · exact List.singleton_sublist.2 List.mem_cons_self
    · exact ih.cons_cons p

mutual

/-- A program ends with a value unless one of its steps is a panic. -/
theorem any_panics_steps (p : Program ν) : p.steps.any panics = p.value?.isNone := by
  cases p with
  | sync p =>
    rw [steps, any_panics_steps p, value?, Option.isNone_map]
  | seq ps =>
    rw [steps, any_panics_allSteps ps, value?, Option.isNone_map]
  | _ => rfl

/-- A step panics exactly if a program has no value. -/
theorem any_panics_allSteps (ps : List (Program ν)) :
    (allSteps ps).any panics = (values? ps).isNone := by
  cases ps with
  | nil => rfl
  | cons p ps =>
    rw [allSteps, List.any_append, any_panics_steps p, any_panics_allSteps ps, values?]
    cases p.value? with
    | none => rfl
    | some v => exact Option.isNone_map.symm

end

end Program

open Program

/-! ## what a running task has still to do -/

/-- The steps that what a running task is about to do consists of. -/
def Focus.steps : Focus ν → List (Program ν)
  | .run p => p.steps
  | .yield _ => []
  | .waiting _ => []

/-- The steps of what a running task will go on with. -/
def Continuation.steps : Continuation ν → List (Program ν)
  | .inPlace => []
  | .seq _ rest => Program.allSteps rest

def Activity.steps (a : Activity ν) : List (Program ν) :=
  a.focus.steps ++ a.stack.flatMap Continuation.steps

def Job.steps (job : Job ν) : List (Program ν) := upToPanic job.program.steps

/-- The steps that the running task has still to do, if there is one. -/
def owed : Option (Activity ν) → List (Program ν)
  | none => []
  | some a => upToPanic a.steps

/-- The step that comes next, if it is not to run programs in place or one after the other. -/
def Focus.next : Focus ν → List (Program ν)
  | .run (.sync _) => []
  | .run (.seq _) => []
  | .run p => [p]
  | .yield _ => []
  | .waiting _ => []

namespace Loop

/-- The step of the running task that an event does. -/
def stepOf (l : Loop ν) : Event ν → List (Program ν)
  | .tick => match l.current with
    | some a => a.focus.next
    | none => []
  | _ => []

/-- The steps of tasks that were done in a sequence of events. -/
def performed (l : Loop ν) : List (Event ν) → List (Program ν)
  | [] => []
  | e :: rest => l.stepOf e ++ (l.step e).performed rest

/-- The running task waits at a gate. -/
def WaitsAt (l : Loop ν) (gate : String) : Prop :=
  ∃ a, l.current = some a ∧ a.focus = .waiting gate

/-! ## one event -/

/-- What happens beside the running task: nothing is logged and no task is begun, and the task
that is running stays where it is, or leaves the gate that it waits at. -/
structure Aside (l : Loop ν) (e : Event ν) : Prop where
  log : (l.step e).log = l.log
  begun : (l.deed e).begun = []
  stepOf : l.stepOf e = []
  current : (l.step e).current = l.current ∨ ∃ a gate, l.current = some a ∧
    a.focus = .waiting gate ∧ (l.step e).current = some { a with focus := .yield .waited }

theorem log_answer (l : Loop ν) (caller : Option Nat) (r : Except BridgeError (TaskValue ν)) :
    (l.answer caller r).log = l.log := by
  cases caller <;> rfl

theorem log_discard (l : Loop ν) (jobs : List (Job ν)) : (l.discard jobs).log = l.log := by
  induction jobs generalizing l with
  | nil => rfl
  | cons job jobs ih => exact (ih _).trans (log_answer l job.caller _)

/-- To hand a task over logs nothing. -/
theorem log_dispatch (l : Loop ν) (p : Program ν) : (l.dispatch p).1.log = l.log := by
  rw [dispatch_eq]

/-- Only the loop's own steps do something for the task that is running. -/
theorem aside_of_ne_tick (l : Loop ν) {e : Event ν} (other : e ≠ .tick) : l.Aside e := by
  cases e with
  | dispatch p => exact ⟨log_dispatch l p, rfl, rfl, .inl (current_dispatch l p)⟩
  | call p =>
    refine ⟨?_, rfl, rfl, .inl ?_⟩ <;>
    · rw [step, call]
      split <;> rfl
  | quit => exact ⟨rfl, rfl, rfl, .inl rfl⟩
  | cloneHandle => exact ⟨rfl, rfl, rfl, .inl rfl⟩
  | dropHandle => exact ⟨rfl, rfl, rfl, .inl rfl⟩
  | start => exact ⟨rfl, rfl, rfl, .inl rfl⟩
  | dropUnrun =>
    by_cases fresh : l.queue.status = .notStarted
    · have dropped : l.step .dropUnrun = l.dropUnrun := if_pos fresh
      refine ⟨?_, by rw [deed, if_pos fresh], rfl, .inl ?_⟩
      · rw [dropped]
        exact log_discard _ _
      · rw [dropped]
        exact (discard_frame _ _).2.2.2
    · have kept : l.step .dropUnrun = l := if_neg fresh
      exact ⟨by rw [kept], by rw [deed, if_neg fresh], rfl, .inl (by rw [kept])⟩
  | openGate gate =>
    obtain same | ⟨a, g, running, focus, opened⟩ := l.openGate_cases gate
    · exact ⟨congrArg Loop.log same, rfl, rfl, .inl (congrArg Loop.current same)⟩
    · refine ⟨?_, rfl, rfl, .inr ⟨a, g, running, focus, congrArg Loop.current opened⟩⟩
      rw [step, opened]
      rfl
  | tick => exact absurd rfl other

/-- A running task that has a program to run does a step of it. -/
theorem tick_of_run {l : Loop ν} {a : Activity ν} {p : Program ν} (running : l.current = some a)
    (focus : a.focus = .run p) : l.tick = l.runProgram a p := by
  simp only [tick, running, focus]

/-- A running task that has a value gives it to what it goes on with. -/
theorem tick_of_yield {l : Loop ν} {a : Activity ν} {v : TaskValue ν}
    (running : l.current = some a) (focus : a.focus = .yield v) : l.tick = l.returnValue a v := by
  simp only [tick, running, focus]

/-- A running task that waits at a gate does nothing. -/
theorem tick_of_waiting {l : Loop ν} {a : Activity ν} {gate : String}
    (running : l.current = some a) (focus : a.focus = .waiting gate) : l.tick = l := by
  simp only [tick, running, focus]

theorem stepOf_tick {l : Loop ν} {a : Activity ν} (running : l.current = some a) :
    l.stepOf .tick = a.focus.next := by
  simp only [stepOf, running]

theorem stepOf_tick_of_idle {l : Loop ν} (idle : l.current = none) : l.stepOf .tick = [] := by
  simp only [stepOf, idle]

/-- A loop that looks at its queue logs nothing, and begins at most one task, from its start. -/
theorem turn {l : Loop ν} (idle : l.current = none) :
    l.tick.log = l.log ∧
      (l.tick.current = none ∧ (l.deed .tick).begun = [] ∨
        ∃ job, l.tick.current = some { caller := job.caller, focus := .run job.program } ∧
          (l.deed .tick).begun = [job]) := by
  have deed : l.deed .tick = l.deedOfTurn := by rw [Loop.deed, idle]
  have ended {jobs : List (Job ν)}
      (tick : l.tick = ({ l with queue := l.queue.finish } : Loop ν).discard jobs) :
      l.tick.log = l.log ∧ l.tick.current = none := by
    rw [tick]
    exact ⟨log_discard _ jobs, (discard_frame _ jobs).2.2.2.trans idle⟩
  by_cases running : l.queue.status = .running
  · rw [deedOfTurn, running] at deed
    cases found : l.queue.messages with
    | nil =>
      rw [found] at deed
      by_cases handles : l.queue.handles = 0
      · have closed := @ended [] (by
          simp only [tick, idle, running, if_true, MainQueue.take, found, handles])
        exact ⟨closed.1, .inl ⟨closed.2, by rw [deed]⟩⟩
      · have still : l.tick = l := by
          simp only [tick, idle, running, if_true, MainQueue.take, found, if_neg handles]
        rw [still, deed]
        exact ⟨rfl, .inl ⟨idle, rfl⟩⟩
    | cons m rest =>
      rw [found] at deed
      cases m with
      | run job =>
        have begins : l.tick = { l with
            queue := { l.queue with messages := rest }
            current := some { caller := job.caller, focus := .run job.program } } := by
          simp only [tick, idle, running, if_true, MainQueue.take, found]
        rw [begins, deed]
        exact ⟨rfl, .inr ⟨job, rfl, rfl⟩⟩
      | quit =>
        have closed := @ended (rest.filterMap MainQueue.Message.task?) (by
          simp only [tick, idle, running, if_true, MainQueue.take, found])
        exact ⟨closed.1, .inl ⟨closed.2, by rw [deed]⟩⟩
  · have still : l.tick = l := by simp only [tick, idle, if_neg running]
    have nothing : l.deedOfTurn = {} := by
      rw [deedOfTurn]
      split
      · next now _ => exact absurd now running
      · next now _ => exact absurd now running
      · rfl
    rw [still, deed, nothing]
    exact ⟨rfl, .inl ⟨idle, rfl⟩⟩

/-! ### what is still to be done -/

/-- The first program of a sequence is taken apart before the others. -/
theorem upToPanic_allSteps (p : Program ν) (ps more : List (Program ν)) :
    upToPanic (p.steps ++ (allSteps ps ++ more)) = upToPanic (allSteps (p :: ps) ++ more) := by
  rw [allSteps, List.append_assoc]

/-- A program that is running does the first of its steps, or is only taken apart. -/
theorem owed_runProgram {l : Loop ν} {a : Activity ν} {p : Program ν}
    (focus : a.focus = .run p) :
    a.focus.next ++ owed (l.runProgram a p).current = upToPanic a.steps := by
  rw [Activity.steps, focus]
  cases p with
  | seq ps =>
    cases ps with
    | nil => rfl
    | cons p ps => exact upToPanic_allSteps p ps _
  | _ => rfl

/-- What is done with a value does no step. -/
theorem owed_returnValue {l : Loop ν} {a : Activity ν} {v : TaskValue ν}
    (focus : a.focus = .yield v) : owed (l.returnValue a v).current = upToPanic a.steps := by
  rw [Activity.steps, focus, returnValue]
  cases a.stack with
  | nil => rfl
  | cons k stack =>
    cases k with
    | inPlace => rfl
    | seq reversed rest =>
      cases rest with
      | nil => rfl
      | cons p ps => exact upToPanic_allSteps p ps _

/-- A task that is begun has all its steps before it. -/
theorem owed_begin (job : Job ν) :
    owed (some { caller := job.caller, focus := .run job.program }) = job.steps := by
  simp [owed, Activity.steps, Focus.steps, Job.steps]

/-- What an event does of the steps of the running task, and what the task then has still to do,
are what it had to do before, or what a task that begins is to do. -/
theorem owed_step (l : Loop ν) (e : Event ν) :
    l.stepOf e ++ owed (l.step e).current =
      owed l.current ++ (l.deed e).begun.flatMap Job.steps := by
  by_cases own : e = .tick
  · subst own
    cases running : l.current with
    | none =>
      rw [stepOf_tick_of_idle running, List.nil_append, step]
      obtain ⟨-, ⟨idle, begun⟩ | ⟨job, begins, begun⟩⟩ := turn running
      · rw [idle, begun]
        rfl
      · rw [begins, begun, owed_begin, List.flatMap_singleton]
        rfl
    | some a =>
      rw [stepOf_tick running, begun_tick running, List.flatMap_nil, List.append_nil, step]
      cases focus : a.focus with
      | run p =>
        rw [tick_of_run running focus, ← focus]
        exact owed_runProgram focus
      | yield v =>
        rw [tick_of_yield running focus]
        exact owed_returnValue focus
      | waiting gate =>
        rw [tick_of_waiting running focus, running]
        rfl
  · obtain ⟨-, begun, none, current⟩ := l.aside_of_ne_tick own
    rw [none, begun, List.flatMap_nil, List.append_nil, List.nil_append]
    obtain same | ⟨a, gate, running, focus, on⟩ := current
    · rw [same]
    · rw [running, on, owed, owed, Activity.steps, Activity.steps, focus]
      rfl

/-! ### what is logged and handed over -/

/-- A step of a program logs the entry of the step. -/
theorem log_runProgram (l : Loop ν) (a : Activity ν) (p : Program ν) :
    (l.runProgram a p).log = l.log ++ (Focus.run p).next.filterMap entry? := by
  cases p with
  | panic v => exact log_answer (l.record (.value v)) a.caller _
  | log v => rfl
  | isMain => rfl
  | dispatch p => exact (log_dispatch l p).trans (List.append_nil _).symm
  | seq ps => cases ps <;> exact (List.append_nil _).symm
  | _ => exact (List.append_nil _).symm

/-- To give a value on logs nothing. -/
theorem log_returnValue (l : Loop ν) (a : Activity ν) (v : TaskValue ν) :
    (l.returnValue a v).log = l.log := by
  rw [returnValue]
  split
  · exact log_answer l a.caller _
  · rfl
  · rfl
  · rfl

/-- The log grows by the entry of the step that an event does, and by nothing else. -/
theorem log_step (l : Loop ν) (e : Event ν) :
    (l.step e).log = l.log ++ (l.stepOf e).filterMap entry? := by
  by_cases own : e = .tick
  · subst own
    cases running : l.current with
    | none =>
      rw [stepOf_tick_of_idle running, List.filterMap_nil, List.append_nil]
      exact (turn running).1
    | some a =>
      rw [stepOf_tick running, step]
      cases focus : a.focus with
      | run p =>
        rw [tick_of_run running focus]
        exact log_runProgram l a p
      | yield v =>
        rw [tick_of_yield running focus, log_returnValue]
        exact (List.append_nil _).symm
      | waiting gate =>
        rw [tick_of_waiting running focus]
        exact (List.append_nil _).symm
  · obtain ⟨log, -, none, -⟩ := l.aside_of_ne_tick own
    rw [log, none]
    exact (List.append_nil _).symm

/-- What a step of the loop hands over to the queue is what the step of the task hands over, if
only a loop that runs has a running task. -/
theorem accepted_tick {l : Loop ν} (busy : l.current ≠ none → l.queue.status = .running) :
    (l.deed .tick).accepted = (l.stepOf .tick).filterMap message? := by
  cases running : l.current with
  | none =>
    rw [stepOf_tick_of_idle running, deed, running]
    simp only [deedOfTurn]
    split <;> rfl
  | some a =>
    have isOpen : l.queue.isOpen = true := by
      rw [MainQueue.isOpen, busy (by simp [running])]
      rfl
    rw [stepOf_tick running, deed, running]
    simp only [deedOf]
    cases a.focus with
    | run p =>
      cases p with
      | dispatch p =>
        show l.accepts { program := p } = _
        rw [accepts_eq, isOpen]
        rfl
      | quit =>
        show l.acceptsQuit = _
        rw [acceptsQuit, isOpen]
        rfl
      | _ => rfl
    | yield v => cases a.stack <;> rfl
    | waiting gate => rfl

/-- A program comes to wait at a gate by being the step to wait there. -/
theorem waiting_runProgram {l : Loop ν} {a a' : Activity ν} {p : Program ν} {gate : String}
    (current : (l.runProgram a p).current = some a') (focus : a'.focus = .waiting gate) :
    p = .wait gate := by
  cases p with
  | wait g =>
    cases current
    cases focus
    rfl
  | panic v => cases current
  | seq ps =>
    cases ps <;>
    · cases current
      cases focus
  | _ =>
    cases current
    cases focus

/-- A task that gives a value on does not wait. -/
theorem not_waiting_returnValue {l : Loop ν} {a a' : Activity ν} {v : TaskValue ν}
    {gate : String} (current : (l.returnValue a v).current = some a') :
    a'.focus ≠ .waiting gate := by
  intro focus
  rw [returnValue] at current
  split at current
  · cases current
  all_goals
    cases current
    cases focus

/-- A task comes to wait at a gate by a step of its own. -/
theorem WaitsAt.before {l : Loop ν} {e : Event ν} {gate : String}
    (waits : (l.step e).WaitsAt gate) : l.WaitsAt gate ∨ .wait gate ∈ l.stepOf e := by
  obtain ⟨a', current, focus'⟩ := waits
  by_cases own : e = .tick
  · subst own
    rw [step] at current
    cases running : l.current with
    | none =>
      obtain ⟨-, ⟨idle, -⟩ | ⟨job, begins, -⟩⟩ := turn running
      · rw [idle] at current
        contradiction
      · rw [begins] at current
        cases current
        cases focus'
    | some a =>
      cases focus : a.focus with
      | run p =>
        rw [tick_of_run running focus] at current
        cases waiting_runProgram current focus'
        rw [stepOf_tick running, focus]
        exact .inr List.mem_cons_self
      | yield v =>
        rw [tick_of_yield running focus] at current
        exact absurd focus' (not_waiting_returnValue current)
      | waiting g =>
        rw [tick_of_waiting running focus] at current
        exact .inl ⟨a', current, focus'⟩
  · obtain ⟨-, -, -, same | ⟨a, g, -, -, on⟩⟩ := l.aside_of_ne_tick own
    · exact .inl ⟨a', same ▸ current, focus'⟩
    · rw [on, Option.some.injEq] at current
      subst current
      cases focus'

/-! ## runs -/

/-- What a run does of the steps of tasks, and what the running task then has still to do, are
what was to be done before and the steps of the tasks that are begun, one task after the
other. -/
theorem performed_run (l : Loop ν) (events : List (Event ν)) :
    l.performed events ++ owed (l.run events).current =
      owed l.current ++ (l.deeds events).begun.flatMap Job.steps := by
  induction events generalizing l with
  | nil => exact (List.append_nil _).symm
  | cons e rest ih =>
    calc l.performed (e :: rest) ++ owed (l.run (e :: rest)).current
        = l.stepOf e ++ ((l.step e).performed rest ++ owed ((l.step e).run rest).current) :=
          List.append_assoc _ _ _
      _ = l.stepOf e ++ owed (l.step e).current ++
            ((l.step e).deeds rest).begun.flatMap Job.steps := by
          rw [ih, List.append_assoc]
      _ = owed l.current ++ ((l.deed e).begun.flatMap Job.steps ++
            ((l.step e).deeds rest).begun.flatMap Job.steps) := by
          rw [owed_step, List.append_assoc]
      _ = owed l.current ++ (l.deeds (e :: rest)).begun.flatMap Job.steps := by
          rw [deeds, Deed.append, List.flatMap_append]

/-- The log of a run is what its steps log. -/
theorem log_run (l : Loop ν) (events : List (Event ν)) :
    (l.run events).log = l.log ++ (l.performed events).filterMap entry? := by
  induction events generalizing l with
  | nil => exact (List.append_nil _).symm
  | cons e rest ih =>
    rw [performed, List.filterMap_append, ← List.append_assoc, ← log_step]
    exact ih (l.step e)

/-- A task that waits at a gate has done the step that waits there. -/
theorem waitsAt_run {l : Loop ν} {events : List (Event ν)} {gate : String}
    (waits : (l.run events).WaitsAt gate) :
    l.WaitsAt gate ∨ .wait gate ∈ l.performed events := by
  induction events generalizing l with
  | nil => exact .inl waits
  | cons e rest ih =>
    obtain here | later := @ih (l.step e) waits
    · exact here.before.imp_right (List.mem_append_left _)
    · exact .inr (List.mem_append_right _ later)

/-- What a run of the loop's own steps hands over is what the steps of its tasks hand over. -/
theorem accepted_ticks (events : List (Event ν)) (n : Nat) :
    (history (events ++ List.replicate n .tick)).accepted = (history events).accepted ++
      ((after events).performed (List.replicate n .tick)).filterMap message? := by
  induction n generalizing events with
  | zero =>
    rw [List.replicate_zero, List.append_nil]
    exact (List.append_nil _).symm
  | succ n ih =>
    have first := accepted_tick (kept_run events).busy
    rw [List.replicate_succ, List.append_cons, ih, history_append_singleton,
      after_append_singleton, performed, List.filterMap_append, ← first, Deed.append,
      List.append_assoc]

end Loop

end MachineBridge
