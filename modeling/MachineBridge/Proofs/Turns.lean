import MachineBridge.Bridge.Run

/-!
# MachineBridge.Proofs.Turns

What a main loop, a watcher or a background stop does when it takes its turn.  Each of them
looks at something first and goes on from there, so there are a few cases, and the state that
they lead to is written out in each.  Proofs about turns split into these cases and do not
unfold the turn again.
-/

namespace MachineBridge

namespace Bridge

/-! ## main loops -/

/-- The loop looks at its queue: it takes the first task, or it ends, or there is nothing. -/
theorem take_cases (q : MainQueue MainTask) :
    (∃ t rest, q.messages = .run t :: rest ∧ q.take = ({ q with messages := rest }, .run t)) ∨
      (q.handles = 0 ∨ .quit ∈ q.messages) ∧ (∃ ts, q.take = (q.finish, .exit ts)) ∨
      q.take = (q, .idle) := by
  obtain ⟨messages, handles, status⟩ := q
  cases messages with
  | nil =>
    by_cases none : handles = 0
    · exact .inr (.inl ⟨.inl none, [], by simp [MainQueue.take, none]⟩)
    · exact .inr (.inr (by simp [MainQueue.take, none]))
  | cons message rest =>
    cases message with
    | run t => exact .inl ⟨t, rest, rfl, rfl⟩
    | quit => exact .inr (.inl ⟨.inr (by simp), _, rfl⟩)

theorem take_of_run {q : MainQueue MainTask} {t : MainTask} {rest : List (Message MainTask)}
    (task : q.messages = .run t :: rest) : q.take = ({ q with messages := rest }, .run t) := by
  rw [MainQueue.take, task]

/-- A loop that can turn does not find its queue idle. -/
theorem take_ne_idle {q : MainQueue MainTask} (busy : q.messages ≠ [] ∨ q.handles = 0) :
    q.take.2 ≠ .idle := by
  intro idle
  unfold MainQueue.take at idle
  split at idle
  · cases idle
  · cases idle
  · next empty =>
    split at idle
    · cases idle
    · next handled =>
      obtain full | none := busy
      · exact full empty
      · exact handled none

/-- What a main loop leaves of its queue when it takes a message. -/
def dequeue (b : Bridge) (a : Nat) : Bridge :=
  b.modifyApplication a fun x => { x with queue := x.queue.take.1 }

/-- What a turn of a main loop does: nothing, the first task of its queue, or it ends and
discards all tasks. -/
inductive TurnStep (env : Environment) (b : Bridge) (a : Nat) : Bridge → Prop
  | waits (idle : b.canTurn a = false) : TurnStep env b a b
  | runs {x : Application} {t : MainTask} {rest : List (Message MainTask)}
      (ready : b.canTurn a = true) (there : b.applications[a]? = some x)
      (task : x.queue.messages = .run t :: rest) : TurnStep env b a ((b.dequeue a).runTask env a t)
  | ends {x : Application} {ts : List MainTask} (ready : b.canTurn a = true)
      (there : b.applications[a]? = some x) (cause : x.queue.handles = 0 ∨ .quit ∈ x.queue.messages)
      (exits : x.queue.take = (x.queue.finish, .exit ts)) :
      TurnStep env b a (ts.foldl discardTask (b.dequeue a))

/-- A main loop waits, runs the next task or ends. -/
theorem turnStep_mainTurn (env : Environment) (b : Bridge) (a : Nat) :
    TurnStep env b a (b.mainTurn env a) := by
  unfold mainTurn
  split
  · next ready =>
    split
    · next absent => exact .waits (by rw [canTurn, absent])
    · next x there =>
      have busy : x.queue.messages ≠ [] ∨ x.queue.handles = 0 := by
        have turns := ready
        rw [canTurn, there] at turns
        simp at turns
        exact turns.2
      obtain ⟨t, rest, task, took⟩ | ⟨cause, ts, took⟩ | took := take_cases x.queue
      · rw [took]
        exact .runs ready there task
      · rw [took]
        exact .ends ready there cause took
      · exact absurd (by rw [took]) (take_ne_idle busy)
  · next idle => exact .waits (Bool.eq_false_iff.2 idle)

/-! ## watchers -/

/-- What a turn of a watcher does: nothing, it passes over a state, it ends, or it asks for
its window to be closed and ends. -/
inductive WatchStep (b : Bridge) (w : Nat) : Bridge → Prop
  | waits (idle : b.canWatch w = false) : WatchStep b w b
  | passes {watcher : Watcher} {x : ExecutionState} (found : b.watchers[w]? = some watcher)
      (running : watcher.running = true) (isOpen : watcher.isOpen = true)
      (received : (b.receiveState watcher.machine watcher.subscription).2 = .value x)
      (goesOn : x.isTerminal = false) :
      WatchStep b w (b.receiveState watcher.machine watcher.subscription).1
  | stops {watcher : Watcher} {x : ExecutionState} (found : b.watchers[w]? = some watcher)
      (running : watcher.running = true) (isOpen : watcher.isOpen = true)
      (received : (b.receiveState watcher.machine watcher.subscription).2 = .value x)
      (terminal : x.isTerminal = true) :
      WatchStep b w (((b.receiveState watcher.machine watcher.subscription).1.dispatch
        watcher.application (.closeForStop watcher.id w)).1.endWatcher w watcher)
  | ends {watcher : Watcher} (found : b.watchers[w]? = some watcher)
      (running : watcher.running = true) (isOpen : watcher.isOpen = true)
      (received : (b.receiveState watcher.machine watcher.subscription).2 = .ended) :
      WatchStep b w
        ((b.receiveState watcher.machine watcher.subscription).1.endWatcher w watcher)
  | closed {watcher : Watcher} (found : b.watchers[w]? = some watcher)
      (running : watcher.running = true) (shut : watcher.isOpen = false) :
      WatchStep b w (b.endWatcher w watcher)

/-- A watcher passes over a state, closes its window for a stop, or ends. -/
theorem watchStep_watch (b : Bridge) (w : Nat) : WatchStep b w (b.watch w) := by
  unfold watch
  split
  · next absent => exact .waits (by rw [canWatch, absent])
  · next watcher found =>
    split
    · next running =>
      split
      · next isOpen =>
        split
        · next c x h =>
          have first : c = (b.receiveState watcher.machine watcher.subscription).1 := by rw [h]
          subst first
          split
          · next terminal => exact .stops found running isOpen (by rw [h]) terminal
          · next goesOn =>
            exact .passes found running isOpen (by rw [h]) (Bool.eq_false_iff.2 goesOn)
        · next c h =>
          have first : c = (b.receiveState watcher.machine watcher.subscription).1 := by rw [h]
          subst first
          exact .ends found running isOpen (by rw [h])
        · next h => exact .waits (by rw [canWatch, found]; simp [h, isOpen])
      · next shut => exact .closed found running (Bool.eq_false_iff.2 shut)
    · next idle => exact .waits (by rw [canWatch, found]; simp [idle])

/-! ## background stops -/

/-- A refused operation changes nothing. -/
theorem beginControl_of_error {b : Bridge} {m : Nat} {op : Operation} {e : BridgeError}
    (refused : (b.beginControl m op).2 = .error e) : (b.beginControl m op).1 = b := by
  unfold beginControl at refused ⊢
  split at refused
  · rfl
  · cases refused

/-- What a step of a background stop does: nothing, it asks and goes on, it begins a call and
waits for it, or it ends, perhaps after it asked. -/
inductive StopTurn (env : Environment) (b : Bridge) (s : Nat) : Bridge → Prop
  | waits : StopTurn env b s b
  | asks (m : Nat) : StopTurn env b s ((b.ask env m .canStop).1.setStage s .stopping)
  | begins {m call : Nat} (found : b.stops[s]? = some { machine := m, stage := .stopping })
      (begun : (b.beginControl m .stop).2 = .ok call) :
      StopTurn env b s ((b.beginControl m .stop).1.setStage s (.waiting call))
  | ends (m : Nat) : StopTurn env b s (b.endStop s m)
  | givesUp (m : Nat) : StopTurn env b s ((b.ask env m .canStop).1.endStop s m)

/-- A background stop goes from one stage to the next, or ends. -/
theorem stopTurn_stop (env : Environment) (b : Bridge) (s : Nat) :
    StopTurn env b s (b.stop env s) := by
  unfold stop
  split
  · exact .waits
  · next m stage found =>
    cases stage with
    | checking =>
      dsimp only
      split
      · next c h =>
        obtain rfl : (b.ask env m .canStop).1 = c := by rw [h]
        exact .asks m
      · next c h =>
        obtain rfl : (b.ask env m .canStop).1 = c := by rw [h]
        exact .givesUp m
    | stopping =>
      dsimp only
      split
      · next c call h =>
        obtain rfl : (b.beginControl m .stop).1 = c := by rw [h]
        exact .begins found (by rw [h])
      · next c e h =>
        obtain rfl : (b.beginControl m .stop).1 = c := by rw [h]
        rw [beginControl_of_error (e := e) (by rw [h])]
        exact .ends m
    | waiting call =>
      dsimp only
      split
      · exact .ends m
      · exact .waits
    | ended => exact .waits

end Bridge

end MachineBridge
