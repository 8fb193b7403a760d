import MachineBridge.Proofs.MainQueue.Steps

/-!
# MachineBridge.Proofs.MainQueue.Completing

Tasks of the main thread run to completion.  For every run of a main queue, whatever is queued
and whatever other threads do in between, the tasks that are begun do the steps of their programs,
one task after the other and each up to its first panic.  A program that is run in place is done
there and then, a program that is handed over waits its turn, a request to quit lets what was
accepted before it finish, and a panic ends the task that it is in, and no other
(`runs_to_completion`).
-/

namespace MachineBridge

variable {ν : Type}

/-! ## what is accepted first -/

namespace MainQueue

variable {τ : Type}

/-- What is accepted behind a request to quit is not before it. -/
theorem beforeQuit_append_of_mem {first : List (Message τ)} (quits : .quit ∈ first)
    (second : List (Message τ)) : beforeQuit (first ++ second) = beforeQuit first := by
  induction first with
  | nil => contradiction
  | cons m rest ih =>
    cases m with
    | quit => rfl
    | run t =>
      have later : .quit ∈ rest := by simpa using quits
      exact congrArg (t :: ·) (ih later)

/-- Without a request to quit, what is accepted next counts. -/
theorem beforeQuit_append_of_not_mem {first : List (Message τ)} (never : .quit ∉ first)
    (second : List (Message τ)) :
    beforeQuit (first ++ second) = first.filterMap Message.task? ++ beforeQuit second := by
  induction first with
  | nil => rfl
  | cons m rest ih =>
    cases m with
    | quit => exact absurd List.mem_cons_self never
    | run t => exact congrArg (t :: ·) (ih fun later => never (List.mem_cons_of_mem _ later))

theorem beforeQuit_prefix_tasks (messages : List (Message τ)) :
    beforeQuit messages <+: messages.filterMap Message.task? := by
  induction messages with
  | nil => exact List.prefix_rfl
  | cons m rest ih =>
    cases m with
    | quit => exact List.nil_prefix
    | run t => exact List.prefix_cons_inj t |>.2 ih

/-- What comes behind a request to quit is not before one. -/
theorem beforeQuit_append_quit (first second : List (Message τ)) :
    beforeQuit (first ++ .quit :: second) = beforeQuit first := by
  by_cases quits : .quit ∈ first
  · exact beforeQuit_append_of_mem quits _
  · rw [beforeQuit_append_of_not_mem quits, beforeQuit_of_not_mem quits]
    exact List.append_nil _

/-- Tasks that are taken in their order reach a task only behind all that were accepted before
it. -/
theorem before_or_reached {first second : List (Message τ)} {t : τ} {begun : List τ}
    (inOrder : begun <+: beforeQuit (first ++ .run t :: second)) :
    begun <+: first.filterMap Message.task? ∨
      first.filterMap Message.task? ++ [t] <+: begun := by
  by_cases quits : .quit ∈ first
  · rw [beforeQuit_append_of_mem quits] at inOrder
    exact .inl (inOrder.trans (beforeQuit_prefix_tasks first))
  · rw [beforeQuit_append_of_not_mem quits, beforeQuit, List.append_cons] at inOrder
    obtain short | long := List.prefix_or_prefix_of_prefix inOrder (List.prefix_append _ _)
    · obtain same | short := List.prefix_concat_iff.1 short
      · exact .inr (same ▸ List.prefix_rfl)
      · exact .inl short
    · exact .inr long

end MainQueue

open MainQueue Program

namespace Loop

/-! ## longer runs -/

/-- Messages that were accepted stay accepted. -/
theorem accepted_append (events more : List (Event ν)) :
    (history (events ++ more)).accepted =
      (history events).accepted ++ ((after events).deeds more).accepted := by
  rw [history, deeds_append]
  rfl

/-- The tasks that are begun in a run are those of its parts. -/
theorem begun_append (events more : List (Event ν)) :
    (history (events ++ more)).begun =
      (history events).begun ++ ((after events).deeds more).begun := by
  rw [history, deeds_append]
  rfl

/-- What the running task hands over in its next step is accepted first. -/
theorem accepted_behind_tick {events : List (Event ν)} {a : Activity ν} {p : Program ν}
    {m : Message (Job ν)} (running : (after events).current = some a) (focus : a.focus = .run p)
    (next : (Focus.run p).next = [p]) (message : p.message? = some m) (more : List (Event ν)) :
    ∃ later, (history (events ++ .tick :: more)).accepted =
      (history events).accepted ++ m :: later := by
  have first := accepted_tick (kept_run events).busy
  rw [stepOf_tick running, focus, next, List.filterMap_cons_some message,
    List.filterMap_nil] at first
  refine ⟨(((after events).step .tick).deeds more).accepted, ?_⟩
  rw [accepted_append, deeds, Deed.append, first]
  rfl

/-- Of two tasks that are begun, the first has ended. -/
theorem Kept.ended_of_begun {choice : Option (Event ν)} {h : Deed ν} {l : Loop ν}
    (kept : Kept choice h l) {jobs : List (Job ν)} {job : Job ν}
    (begun : jobs ++ [job] <+: h.begun) : jobs.map Job.taskEnd <+: h.ended := by
  have all := begun.map Job.taskEnd
  rw [kept.outcomes, List.map_append] at all
  have length := all.length_le
  have one : (l.current.map Activity.taskEnd).toList.length ≤ 1 := by
    cases l.current <;> simp
  refine List.prefix_of_prefix_length_le ((List.prefix_append _ _).trans all)
    (List.prefix_append _ _) ?_
  simp only [List.length_append, List.length_map, List.length_singleton] at length ⊢
  omega

/-- What is decided first counts. -/
theorem choice?_append (events more : List (Event ν)) :
    choice? (events ++ more) = (choice? events).or (choice? more) :=
  List.find?_append

/-- A loop that was run, was asked to quit and is at rest waits at a gate, or has ended behind the
tasks that were accepted first. -/
theorem Kept.at_rest {choice : Option (Event ν)} {h : Deed ν} {l : Loop ν}
    (kept : Kept choice h l) (started : choice = some .start) (asked : .quit ∈ h.accepted)
    (rest : l.canTick = false) :
    (∃ gate, l.WaitsAt gate) ∨
      l.queue.status = .gone ∧ l.current = none ∧ h.begun = beforeQuit h.accepted ∧
        h.ended = (beforeQuit h.accepted).map Job.taskEnd := by
  cases status : l.queue.status with
  | notStarted => exact absurd (started.symm.trans (kept.fresh status).1) (by simp)
  | running =>
    obtain ⟨a, gate, waits⟩ | ⟨-, messages, -⟩ := resting status rest
    · exact .inl ⟨gate, a, waits⟩
    · have pending := kept.pending (by rw [status]; decide)
      rw [messages, List.append_nil] at pending
      exact absurd asked (accepted_map_run pending).1
  | gone =>
    have idle := kept.idle status
    have begun := (kept.exited status started).1
    have outcomes := kept.outcomes
    rw [idle, begun] at outcomes
    exact .inr ⟨rfl, idle, begun, (outcomes.trans (List.append_nil _)).symm⟩

/-- A task that waits at a gate does so in a step of its own. -/
theorem waiting_of_begun {events : List (Event ν)} {gate : String}
    (waits : (after events).WaitsAt gate) :
    ∃ job ∈ (history events).begun, .wait gate ∈ job.program.steps := by
  obtain here | done := waitsAt_run waits
  · obtain ⟨a, current, -⟩ := here
    contradiction
  · have all := performed_run ({} : Loop ν) events
    have step : .wait gate ∈ (history events).begun.flatMap Job.steps := by
      rw [← List.nil_append ((history events).begun.flatMap _)]
      exact all ▸ List.mem_append_left _ done
    obtain ⟨job, begun, step⟩ := List.mem_flatMap.1 step
    exact ⟨job, begun, (upToPanic_sublist _).subset step⟩

/-! ## the running task -/

/-- By its own steps, and with no other task begun, the loop comes to the end of the task that is
running, or to a gate. -/
theorem works_to_end (l : Loop ν) :
    ∃ l', l.Works l' ∧ (l'.current = none ∨ ∃ gate, l'.WaitsAt gate) := by
  cases running : l.current with
  | none => exact ⟨l, .refl l, .inl running⟩
  | some a =>
    by_cases ticks : l.canTick = true
    · obtain ⟨l', works, ends⟩ := works_to_end l.tick
      exact ⟨l', (works_tick running).trans works, ends⟩
    · refine ⟨l, .refl l, .inr ?_⟩
      obtain ⟨caller, stack, focus⟩ := a
      cases focus with
      | waiting gate => exact ⟨gate, _, running, rfl⟩
      | run p => simp [canTick, running] at ticks
      | yield v => simp [canTick, running] at ticks
termination_by l.work
decreasing_by exact work_tick_lt l ticks

/-- What the loop has done by its own steps, with no other task begun. -/
structure Worked (events : List (Event ν)) (n : Nat) (steps : List (Program ν)) : Prop where
  begun : (history (events ++ List.replicate n .tick)).begun = (history events).begun
  log : (after (events ++ List.replicate n .tick)).log =
    (after events).log ++ steps.filterMap entry?
  accepted : (history (events ++ List.replicate n .tick)).accepted =
    (history events).accepted ++ steps.filterMap message?

/-- What is done of a task without another being begun is what it has then no more to do. -/
theorem worked_of_begun {events : List (Event ν)} {n : Nat}
    (none : ((after events).deeds (List.replicate n .tick)).begun = [])
    {steps : List (Program ν)}
    (done : steps ++ owed ((after events).run (List.replicate n .tick)).current =
      owed (after events).current) : Worked events n steps := by
  have all := performed_run (after events) (List.replicate n .tick)
  rw [none, List.flatMap_nil, List.append_nil, ← done] at all
  have performed := List.append_cancel_right all
  refine ⟨?_, ?_, ?_⟩
  · rw [begun_append, none, List.append_nil]
  · rw [after_append, log_run, performed]
  · rw [accepted_ticks, performed]

/-- A program that is run in place does its steps up to the first panic. -/
theorem done_in_place {p : Program ν} {caller : Option Nat} {stack : List (Continuation ν)} :
    upToPanic p.steps ++
        owed (p.value?.map fun v => ⟨caller, stack, .yield v⟩) =
      owed (some ⟨caller, stack, .run p⟩) := by
  have panics := any_panics_steps p
  cases value : p.value? with
  | none =>
    rw [value] at panics
    exact (List.append_nil _).trans (upToPanic_append_of_panic panics _).symm
  | some v =>
    rw [value] at panics
    rw [upToPanic_of_calm panics]
    exact (upToPanic_append_of_calm panics _).symm

/-- The log is what the tasks that were begun log, but for what the running one has still to do. -/
theorem log_of_begun (events : List (Event ν)) :
    (after events).log ++ (owed (after events).current).filterMap entry? =
      (history events).begun.flatMap fun job => job.program.entries := by
  have log := log_run ({} : Loop ν) events
  have all := performed_run ({} : Loop ν) events
  rw [show (after events).log = _ from log, List.nil_append, ← List.filterMap_append,
    show (after events).current = (({} : Loop ν).run events).current from rfl, all]
  exact List.filterMap_flatMap

/-- A task that waits at no gate is brought to its end. -/
theorem worked_to_end {events : List (Event ν)} {a : Activity ν}
    (running : (after events).current = some a) (free : ∀ gate, a.focus ≠ .waiting gate)
    (calm : ∀ gate, .wait gate ∉ a.steps) : ∃ n, Worked events n (upToPanic a.steps) ∧
      (after (events ++ List.replicate n .tick)).current = none ∧
      (history (events ++ List.replicate n .tick)).ended =
        (history events).ended ++ [a.taskEnd] := by
  obtain ⟨l', ⟨n, rfl, none⟩, ends⟩ := works_to_end (after events)
  have idle : ((after events).run (List.replicate n .tick)).current = Option.none := by
    refine ends.resolve_right fun ⟨gate, waits⟩ => ?_
    obtain ⟨a', found, focus⟩ | done := waitsAt_run waits
    · cases running.symm.trans found
      exact free gate focus
    · have all := performed_run (after events) (List.replicate n .tick)
      rw [none, running, List.flatMap_nil, List.append_nil] at all
      have step : .wait gate ∈ owed (some a) := all ▸ List.mem_append_left _ done
      exact calm gate ((upToPanic_sublist a.steps).subset step)
  have worked : Worked events n (upToPanic a.steps) := by
    refine worked_of_begun none ?_
    rw [idle, running]
    exact List.append_nil _
  rw [← after_append] at idle
  refine ⟨n, worked, idle, ?_⟩
  have before := (kept_run events).outcomes
  have later := (kept_run (events ++ List.replicate n .tick)).outcomes
  rw [running] at before
  rw [idle, worked.begun, before] at later
  exact (later.trans (List.append_nil _)).symm

/-- A program that waits at no gate is run in place to its value or its panic. -/
theorem worked_in_place {events : List (Event ν)} {caller : Option Nat}
    {stack : List (Continuation ν)} {p : Program ν}
    (running : (after events).current = some ⟨caller, stack, .run (.sync p)⟩)
    (calm : p.waits = false) : ∃ n, Worked events n (upToPanic p.steps) ∧
      (after (events ++ List.replicate n .tick)).current =
        p.value?.map fun v => ⟨caller, stack, .yield (.ran v)⟩ := by
  have isOpen : (after events).queue.isOpen = true := by
    rw [MainQueue.isOpen, (kept_run events).busy (by simp [running])]
    rfl
  obtain ⟨l', ⟨n, rfl, none⟩, -, current⟩ := runs_in_place (.sync p) calm isOpen running
  refine ⟨n, worked_of_begun none ?_, ?_⟩
  · rw [current, running]
    exact done_in_place (p := .sync p)
  · rw [after_append, current, Program.value?, Option.map_map]
    rfl

/-! ## the request to quit of a task -/

section Quitting

variable {events : List (Event ν)} {a : Activity ν} (running : (after events).current = some a)
  (focus : a.focus = .run .quit)

include running focus

/-- A request to quit of the running task is accepted, and stands before whatever is accepted
later. -/
theorem quit_accepted (more : List (Event ν)) :
    .quit ∈ (history (events ++ .tick :: more)).accepted ∧
      beforeQuit (history (events ++ .tick :: more)).accepted =
        beforeQuit (history events).accepted := by
  obtain ⟨later, accepted⟩ := accepted_behind_tick running focus rfl rfl more
  rw [accepted]
  exact ⟨by simp, beforeQuit_append_quit _ _⟩

/-- No task is begun that is accepted behind the request. -/
theorem begun_before_quit (more : List (Event ν)) :
    (history (events ++ .tick :: more)).begun <+: beforeQuit (history events).accepted :=
  (quit_accepted running focus more).2 ▸ (kept_run (events ++ .tick :: more)).inOrder

/-- By its own steps the loop ends behind the tasks before the request, or one of them waits at a
gate. -/
theorem settles_behind_quit (more : List (Event ν)) :
    let before := beforeQuit (history events).accepted
    ∃ n, let last := events ++ .tick :: more ++ List.replicate n .tick
      (∃ gate, (after last).WaitsAt gate ∧ ∃ job ∈ before, .wait gate ∈ job.program.steps) ∨
      (after last).queue.status = .gone ∧ (after last).current = none ∧
        (history last).begun = before ∧ (history last).ended = before.map Job.taskEnd := by
  obtain ⟨n, settled⟩ := (after (events ++ .tick :: more)).settle_eq_run
  have rest := canTick_settle (after (events ++ .tick :: more))
  rw [settled, ← after_append] at rest
  have started : choice? (events ++ .tick :: more ++ List.replicate n .tick) = some .start := by
    rw [List.append_assoc, choice?_append,
      (kept_run events).started ((kept_run events).busy (by simp [running])), Option.some_or]
  have same : events ++ .tick :: more ++ List.replicate n .tick =
      events ++ .tick :: (more ++ List.replicate n .tick) := by
    rw [List.append_assoc, List.cons_append]
  obtain ⟨asked, before⟩ := quit_accepted running focus (more ++ List.replicate n .tick)
  have inOrder := begun_before_quit running focus (more ++ List.replicate n .tick)
  rw [← same] at asked before inOrder
  refine ⟨n, ((kept_run _).at_rest started asked rest).imp ?_ ?_⟩
  · rintro ⟨gate, waits⟩
    obtain ⟨job, begun, step⟩ := waiting_of_begun waits
    exact ⟨gate, waits, job, inOrder.subset begun, step⟩
  · rintro ⟨gone, idle, begun, ended⟩
    exact ⟨gone, idle, begun.trans before, ended.trans (congrArg _ before)⟩

end Quitting

/-! ## the contract -/

/-- What tasks of a main queue do, for every run of it. -/
structure RunsToCompletion (events : List (Event ν)) : Prop where
  /-- The steps that were done and those that the running task has still to do are those of the
  tasks that were begun, one task after the other, each from its first step to its last or to
  its first panic. -/
  steps : ({} : Loop ν).performed events ++ owed (after events).current =
    (history events).begun.flatMap fun job => upToPanic job.program.steps
  /-- So the log is what the tasks that were begun log, one task after the other. -/
  log : (after events).log ++ (owed (after events).current).filterMap entry? =
    (history events).begun.flatMap fun job => job.program.entries
  /-- What the loop accepts from the running task is what the step that is done hands over. -/
  sends : ((after events).deed .tick).accepted =
    ((after events).stepOf .tick).filterMap message?
  /-- A task that is begun is brought to its end by the loop's own steps with no other task begun,
  unless it waits at a gate. -/
  completes : ∀ a, (after events).current = some a → (∀ gate, a.focus ≠ .waiting gate) →
    (∀ gate, .wait gate ∉ a.steps) → ∃ n, Worked events n (upToPanic a.steps) ∧
      (after (events ++ List.replicate n .tick)).current = none ∧
      (history (events ++ List.replicate n .tick)).ended =
        (history events).ended ++ [a.taskEnd]
  /-- A program that the running task runs on the main thread is run in its place, with no task
  of the queue begun: all it logs and hands over is what the program does, and the task goes on
  with the value of the program, or ends with its panic. -/
  inPlace : ∀ caller stack p,
    (after events).current = some ⟨caller, stack, .run (.sync p)⟩ → p.waits = false →
    ∃ n, Worked events n (upToPanic p.steps) ∧
      (after (events ++ List.replicate n .tick)).current =
        p.value?.map fun v => ⟨caller, stack, .yield (.ran v)⟩
  /-- A program that the running task hands over is begun only when every task that was accepted
  before it has ended. -/
  dispatch : ∀ a p, (after events).current = some a → a.focus = .run (.dispatch p) → ∀ more,
    let before := (history events).accepted.filterMap Message.task?
    let h := history (events ++ .tick :: more)
    h.begun <+: before ∨
      before ++ [{ program := p }] <+: h.begun ∧ before.map Job.taskEnd <+: h.ended
  /-- When the running task asks the loop to quit, no task is begun that is accepted later. All
  that were accepted before, and before an earlier request to quit if there was one, are begun
  and come to their ends, and the loop ends, unless one of them waits at a gate. -/
  quit : ∀ a, (after events).current = some a → a.focus = .run .quit → ∀ more,
    let before := beforeQuit (history events).accepted
    let later := events ++ .tick :: more
    (.quit ∉ (history events).accepted →
      before = (history events).accepted.filterMap Message.task?) ∧
    (history later).begun <+: before ∧
    ∃ n, let last := later ++ List.replicate n .tick
      (∃ gate, (after last).WaitsAt gate ∧ ∃ job ∈ before, .wait gate ∈ job.program.steps) ∨
      (after last).queue.status = .gone ∧ (after last).current = none ∧
        (history last).begun = before ∧ (history last).ended = before.map Job.taskEnd
  /-- A panic, at any depth, ends the task that is running. Its entry is logged, whoever waits
  for the task is told that it is lost, and the queue, with every task behind it, and all other
  callers are left alone. -/
  panic : ∀ a v, (after events).current = some a → a.focus = .run (.panic v) →
    (after events).tick.current = none ∧
      (after events).tick.log = (after events).log ++ [.value v] ∧
      (after events).tick.queue.messages = (after events).queue.messages ∧
      (after events).tick.queue.status = .running ∧
      (after events).tick.callers = answered (after events).callers ⟨a.caller, none⟩

/-- Tasks run to completion, one after the other, whatever programs they are. -/
theorem runs_to_completion (events : List (Event ν)) : RunsToCompletion events where
  steps := performed_run {} events
  log := log_of_begun events
  sends := accepted_tick (kept_run events).busy
  completes a running free calm := worked_to_end running free calm
  inPlace caller stack p running calm := worked_in_place running calm
  dispatch a p running focus more := by
    have kept := kept_run (events ++ .tick :: more)
    obtain ⟨later, accepted⟩ := accepted_behind_tick running focus rfl rfl more
    have inOrder := kept.inOrder
    rw [accepted] at inOrder
    exact (before_or_reached inOrder).imp_right fun reached =>
      ⟨reached, kept.ended_of_begun reached⟩
  quit a running focus more :=
    ⟨beforeQuit_of_not_mem, begun_before_quit running focus more,
      settles_behind_quit running focus more⟩
  panic a v running focus := by
    obtain ⟨idle, status, messages⟩ := tick_panic running focus
    obtain ⟨callers, -⟩ := ((after events).record (.value v)).answer_frame ⟨a.caller, none⟩
    refine ⟨idle, ?_, messages, status.trans ((kept_run events).busy (by simp [running])), ?_⟩
    · rw [tick_of_run running focus]
      exact log_answer ((after events).record (.value v)) a.caller _
    · rw [tick_of_run running focus]
      exact callers

/-- A task that hands a program over, runs one in place that asks the loop to quit and then
panics two levels deep, and is followed by a task that was queued before it began. -/
example :
    let first : Program Nat := .seq [.log 1, .dispatch (.log 9),
      .sync (.seq [.log 2, .sync (.seq [.quit, .panic 3, .log 4]), .log 5]), .log 6]
    let l := after ([.dispatch first, .dispatch (.log 7), .start] ++ List.replicate 40 .tick)
    l.log = [.value 1, .value 2, .value 3, .value 7, .value 9] ∧ l.queue.status = .gone := by
  decide +kernel

end Loop

end MachineBridge
