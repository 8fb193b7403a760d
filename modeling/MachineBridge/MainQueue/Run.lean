import MachineBridge.MainQueue.Host

/-!
# MachineBridge.MainQueue.Run

What can happen to a main queue, one event at a time and in any order: threads use their
handles, the host runs or drops the loop, gates are opened, and the loop does the next step
of its own.  Tasks use the queue as well, in the steps of the loop that run them.
-/

namespace MachineBridge

namespace Loop

variable {ν : Type}

/-- What happens to a main queue. -/
inductive Event (ν : Type) where
  /-- A thread hands a task over. -/
  | dispatch (p : Program ν)
  /-- A thread other than the main thread hands a task over and waits for it. -/
  | call (p : Program ν)
  | quit
  | cloneHandle
  | dropHandle
  /-- The host lets the loop run. -/
  | start
  /-- The host drops the loop without running it. -/
  | dropUnrun
  | openGate (gate : String)
  /-- The loop does its next step. -/
  | tick
deriving Repr

/-- What an event makes of a loop.  A loop that was let run is no longer the host's to drop. -/
def step (l : Loop ν) : Event ν → Loop ν
  | .dispatch p => (l.dispatch p).1
  | .call p => (l.call p).1
  | .quit => { l with queue := l.queue.quit }
  | .cloneHandle => { l with queue := l.queue.cloneHandle }
  | .dropHandle => { l with queue := l.queue.dropHandle }
  | .start => { l with queue := l.queue.start }
  | .dropUnrun => if l.queue.status = .notStarted then l.dropUnrun else l
  | .openGate gate => (l.openGate gate).1
  | .tick => l.tick

def run (l : Loop ν) (events : List (Event ν)) : Loop ν := events.foldl step l

/-- A sequence of events is taken up where another one left the loop. -/
theorem run_append (l : Loop ν) (first second : List (Event ν)) :
    l.run (first ++ second) = (l.run first).run second :=
  List.foldl_append

theorem run_append_singleton (l : Loop ν) (before : List (Event ν)) (e : Event ν) :
    l.run (before ++ [e]) = (l.run before).step e :=
  run_append l before [e]

/-- What a sequence of events makes of a new loop. -/
def after (events : List (Event ν)) : Loop ν := ({} : Loop ν).run events

theorem after_append (first second : List (Event ν)) :
    after (first ++ second) = (after first).run second :=
  run_append {} first second

/-- The last event of a run is a step from what the events before it made of the loop. -/
theorem after_append_singleton (before : List (Event ν)) (e : Event ν) :
    after (before ++ [e]) = (after before).step e :=
  run_append_singleton {} before e

/-- Letting the loop work until it can do no more is a run of its own steps. -/
theorem settle_eq_run (l : Loop ν) : ∃ n, l.settle = l.run (List.replicate n .tick) := by
  fun_induction settle l with
  | case1 l _ ih =>
    obtain ⟨n, rest⟩ := ih
    exact ⟨n + 1, rest⟩
  | case2 l _ => exact ⟨0, rfl⟩

end Loop

/-! ## the host's steps -/

namespace Host

variable {ν : Type}

/-- An event, and then the steps of the loop until it can do no more. -/
theorem settle_step_eq_run (l : Loop ν) (e : Loop.Event ν) :
    ∃ events, (l.step e).settle = l.run events := by
  obtain ⟨n, settled⟩ := (l.step e).settle_eq_run
  exact ⟨e :: List.replicate n .tick, settled⟩

/-- What a step with a handle makes of the loop is a run if the use of the handle is. -/
theorem withHandle_eq_run (h : Host ν) (handle : String) (use : Host ν × Reply ν)
    (runs : ∃ events, use.1.loop = h.loop.run events) :
    ∃ events, (h.withHandle handle use).1.loop = h.loop.run events := by
  unfold withHandle
  split
  · exact runs
  · exact ⟨[], rfl⟩

/-- Whatever a host does is a run of its loop, as long as it only has a loop that was not
started. -/
theorem step_eq_run (h : Host ν) (s : Step ν)
    (own : h.hasLoop = true → h.loop.queue.status = .notStarted) :
    ∃ events, (h.step s).1.loop = h.loop.run events := by
  have nothing : ∃ events, h.loop = h.loop.run events := ⟨[], rfl⟩
  cases s with
  | clone handle newName =>
    refine withHandle_eq_run h handle _ ?_
    by_cases replaced : h.handles.contains newName = true
    · simpa only [replaced, if_true] using nothing
    · simp only [replaced, if_neg Bool.false_ne_true]
      exact ⟨[.cloneHandle], rfl⟩
  | drop handle =>
    rw [step]
    split
    · exact settle_step_eq_run h.loop .dropHandle
    · exact nothing
  | quit handle => exact withHandle_eq_run h handle _ (settle_step_eq_run h.loop .quit)
  | isMain handle => exact withHandle_eq_run h handle _ nothing
  | run =>
    rw [step]
    split
    · exact settle_step_eq_run h.loop .start
    · exact nothing
  | dropLoop =>
    rw [step]
    split
    · next owned => exact ⟨[.dropUnrun], (if_pos (own owned)).symm⟩
    · exact nothing
  | dispatch handle task =>
    exact withHandle_eq_run h handle _ (settle_step_eq_run h.loop (.dispatch task))
  | sync handle task call =>
    exact withHandle_eq_run h handle _ (settle_step_eq_run h.loop (.call task))
  | join call =>
    rw [step]
    split <;> exact nothing
  | openGate gate => exact settle_step_eq_run h.loop (.openGate gate)

end Host

end MachineBridge
