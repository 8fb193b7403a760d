import MachineBridge.Proofs.Windows.Following
import Mathlib.Algebra.GroupWithZero.Nat
import Mathlib.Algebra.Order.BigOperators.Group.List
import Mathlib.Algebra.Order.Group.Nat

/-!
# MachineBridge.Proofs.Windows.Settling

An application that is left to itself comes to rest.  Its main loop and the watchers of its
windows take turns as long as there is something to do: a task that is queued, a task of the
host that is running, a state that a watcher has not seen, a window that was closed under its
watcher.  Every turn lowers the `backlog` (`backlog_lt`), so the turns come to an end, and
then no task is queued and no watcher has anything to do (`atRest_of_idle`).
-/

namespace MachineBridge

namespace Bridge

variable {b b' : Bridge} {env : Environment} {act : Action} {a m i w : Nat} {x : Watcher}

/-! ## turns -/

/-- A turn of an application that has something to do: of its main loop, of the task of the
host that is running on it, or of the watcher of one of its windows. -/
inductive Turns (a : Nat) (b : Bridge) (env : Environment) : Action → Prop
  | main (ready : b.canTurn a = true) : Turns a b env (.mainTurn a)
  | job {y : Application} {j : Nat} (there : b.applications[a]? = some y)
      (running : y.job = some j) : Turns a b env (.leaveJob a)
  | watcher {w : Nat} {x : Watcher} (found : b.watchers[w]? = some x) (own : x.application = a)
      (ready : b.canWatch w = true) : Turns a b env (.watch w)

/-- No task is queued in an application, and none of its watchers has anything to do. -/
structure AtRest (b : Bridge) (a : Nat) : Prop where
  tasks : b.tasks a = []
  watchers : ∀ (w : Nat) (x : Watcher), b.watchers[w]? = some x → x.application = a →
    b.canWatch w = false

instance (b : Bridge) (a : Nat) : Decidable (b.AtRest a) :=
  decidable_of_iff (b.tasks a = [] ∧ ∀ (w : Nat) (h : w < b.watchers.length),
      b.watchers[w].application = a → b.canWatch w = false) <| by
    constructor
    · rintro ⟨tasks, watchers⟩
      refine ⟨tasks, fun w x found own => ?_⟩
      obtain ⟨h, rfl⟩ := List.getElem?_eq_some_iff.1 found
      exact watchers w h own
    · intro rest
      exact ⟨rest.tasks, fun w h => rest.watchers w _ (List.getElem?_eq_getElem h)⟩

/-- Turns of an application respect its windows. -/
theorem Turns.respects (h : Turns a b env act) (m : Nat) : Respects m a b env act := by
  cases h with
  | main _ => exact ⟨by simp, by simp⟩
  | job _ _ => exact ⟨by simp, by simp⟩
  | watcher _ _ _ => exact ⟨by simp, by simp⟩

/-- An application without a turn to take is at rest. -/
theorem atRest_of_idle (alive : ∀ y, b.applications[a]? = some y → Alive y)
    (idle : ∀ act, ¬Turns a b env act) : b.AtRest a where
  tasks := by
    cases there : b.applications[a]? with
    | none => rw [tasks, there]; rfl
    | some y =>
      rw [tasks_of_found there, MainQueue.tasks]
      cases messages : y.queue.messages with
      | nil => rfl
      | cons first rest =>
        exfalso
        cases job : y.job with
        | some j => exact idle _ (.job there job)
        | none =>
          refine idle _ (.main ?_)
          rw [canTurn, there]
          simp [job, (alive y there).running, messages]
  watchers w x found own := Bool.eq_false_iff.2 fun ready => idle _ (.watcher found own ready)

/-! ## what is left to do -/

def queuedStates (b : Bridge) (m i : Nat) : Nat :=
  ((b.states? m).map (·.channel.queued i)).getD 0

/-- A task counts for itself and for what comes of it: a task of the host runs on, and a window
that is presented gets a watcher. -/
def taskWork (b : Bridge) : MainTask → Nat
  | .present _ _ m i => b.queuedStates m i + 6
  | _ => 2

/-- A watcher of an application counts for the states that it has not seen, its end, and the
task that it hands over then. -/
def watcherWork (b : Bridge) (a : Nat) (x : Watcher) : Nat :=
  if x.application = a ∧ x.running = true then b.queuedStates x.machine x.subscription + 4 else 0

/-- A task of the host that is running counts until it is left. -/
def jobWork (b : Bridge) (a : Nat) : Nat :=
  if ((b.applications[a]?).bind (·.job)).isSome then 1 else 0

/-- The work of all tasks that are queued in an application. -/
def tasksWork (b : Bridge) (a : Nat) : Nat := ((b.tasks a).map b.taskWork).sum

/-- The work of all watchers of an application. -/
def watchersWork (b : Bridge) (a : Nat) : Nat := (b.watchers.map (b.watcherWork a)).sum

/-- What an application has to do, as a number. -/
def backlog (b : Bridge) (a : Nat) : Nat := b.tasksWork a + b.watchersWork a + b.jobWork a

theorem jobWork_le (b : Bridge) (a : Nat) : b.jobWork a ≤ 1 := by
  unfold jobWork
  split <;> omega

theorem two_le_taskWork (b : Bridge) (t : MainTask) : 2 ≤ b.taskWork t := by
  unfold taskWork
  split <;> omega

section Listening

variable {own : Nat → Nat → Prop} (listens : ListensAt own b b')

include listens

/-- Nothing is published by those who listen. -/
theorem queuedStates_le (m i : Nat) : b'.queuedStates m i ≤ b.queuedStates m i := by
  unfold queuedStates
  cases found : b.states? m with
  | none =>
    rw [listens.unknown found]
  | some s =>
    obtain ⟨s', found', heard⟩ := listens.known found
    rw [found']
    exact heard.queued_le i

theorem taskWork_le (t : MainTask) : b'.taskWork t ≤ b.taskWork t := by
  cases t with
  | present id spec m i => exact Nat.add_le_add_right (queuedStates_le listens m i) 6
  | _ => exact Nat.le_refl _

theorem watcherWork_le (a : Nat) (x : Watcher) : b'.watcherWork a x ≤ b.watcherWork a x := by
  unfold watcherWork
  split
  · exact Nat.add_le_add_right (queuedStates_le listens _ _) 4
  · exact Nat.le_refl _

theorem sum_taskWork_le (ts : List MainTask) :
    (ts.map b'.taskWork).sum ≤ (ts.map b.taskWork).sum :=
  List.sum_le_sum fun t _ => taskWork_le listens t

theorem sum_watcherWork_le (a : Nat) (ws : List Watcher) :
    (ws.map (b'.watcherWork a)).sum ≤ (ws.map (b.watcherWork a)).sum :=
  List.sum_le_sum fun x _ => watcherWork_le listens a x

end Listening

/-- Turns publish nothing. -/
theorem listensAt_of_turns (env : Environment) (turns : Turns a b env act) :
    ListensAt (b.Uses act) b (b.step env act) := by
  cases turns with
  | main _ => exact b.listensAt_step env (by simp) (by simp) (by simp)
  | job _ _ => exact b.listensAt_step env (by simp) (by simp) (by simp)
  | watcher _ _ _ => exact b.listensAt_step env (by simp) (by simp) (by simp)

/-! ## turns of the main loop -/

/-- What the first task of a queue leaves to the watchers of the application. -/
theorem watchersWork_mainTurn (ready : b.canTurn a = true) {t : MainTask}
    (task : b.tasks a = t :: (b.mainTurn env a).tasks a) :
    (b.mainTurn env a).watchersWork a + 2 ≤ b.watchersWork a + b.taskWork t := by
  have listens := listensAt_of_turns env (.main ready)
  have step := b.watcherStep_step env (.mainTurn a)
  have least := b.two_le_taskWork t
  rw [Bridge.step] at listens step
  generalize b.mainTurn env a = b' at *
  have work := sum_watcherWork_le listens a b.watchers
  unfold watchersWork
  cases step with
  | undisturbed same =>
    rw [same.watchers]
    omega
  | ended cause _ => cases cause
  | @created k m i id spec cause first _ creates =>
    cases cause
    rw [task] at first
    cases first
    have more : b.taskWork (.present id spec m i) = b.queuedStates m i + 6 := rfl
    have new : b'.watcherWork a { application := a, id, machine := m, subscription := i } =
        b'.queuedStates m i + 4 := by simp [watcherWork]
    have queued := queuedStates_le listens m i
    rw [creates.watchers, List.map_append, List.sum_append, List.map_singleton, List.sum_singleton,
      new]
    omega
  | closed cause shuts =>
    have same (w : Nat) : (b.watchers.modify w fun x => { x with isOpen := false }).map
        (b'.watcherWork a) = b.watchers.map (b'.watcherWork a) :=
      map_modify_watchers _ _ fun _ => rfl
    rw [shuts.watchers, same]
    omega

/-- A running loop that turns takes the first task of its queue. -/
theorem tasks_mainTurn (alive : ∀ y, b.applications[a]? = some y → Alive y)
    (ready : b.canTurn a = true) (env : Environment) :
    ∃ t, b.tasks a = t :: (b.mainTurn env a).tasks a := by
  have turned := b.turnStep_mainTurn env a
  generalize b.mainTurn env a = b' at turned ⊢
  cases turned with
  | waits idle =>
    rw [ready] at idle
    cases idle
  | runs _ there task =>
    rw [tasks_runTask]
    exact ⟨_, tasks_dequeue there task⟩
  | @ends y ts _ there cause _ =>
    obtain none | asked := cause
    · exact absurd none (alive y there).handled
    · exact absurd asked (alive y there).unasked

/-- A turn of the main loop leaves less to do. -/
theorem backlog_mainTurn (alive : ∀ y, b.applications[a]? = some y → Alive y)
    (ready : b.canTurn a = true) (env : Environment) :
    (b.mainTurn env a).backlog a < b.backlog a := by
  obtain ⟨t, task⟩ := tasks_mainTurn alive ready env
  have watchers := watchersWork_mainTurn ready task
  have tasks := sum_taskWork_le (listensAt_of_turns env (.main ready))
    ((b.mainTurn env a).tasks a)
  have total : b.tasksWork a =
      b.taskWork t + (((b.mainTurn env a).tasks a).map b.taskWork).sum := by
    rw [tasksWork, task, List.map_cons, List.sum_cons]
  have job := (b.mainTurn env a).jobWork_le a
  unfold backlog
  rw [total, tasksWork]
  rw [Bridge.step] at tasks
  omega

/-! ## turns of the watchers -/

/-- What all watchers have to do when one of them is modified. -/
theorem sum_modify {ws : List Watcher} (found : ws[w]? = some x) (f : Watcher → Watcher)
    (g : Watcher → Nat) :
    ((ws.modify w f).map g).sum + g x = (ws.map g).sum + g (f x) := by
  induction ws generalizing w with
  | nil => cases found
  | cons y rest ih =>
    cases w with
    | zero =>
      cases found
      simp only [List.modify_zero_cons, List.map_cons, List.sum_cons]
      omega
    | succ w =>
      have later := ih found
      simp only [List.modify_succ_cons, List.map_cons, List.sum_cons]
      omega

/-- A watcher that ends has nothing to do any more, and hands over one task at most. -/
theorem backlog_of_ended {own : Nat → Nat → Prop} (listens : ListensAt own b b')
    (found : b.watchers[w]? = some x) (mine : x.application = a) (running : x.running = true)
    (watchers : b'.watchers = b.watchers.modify w fun y => { y with running := false })
    (tasks : b'.tasks a = b.tasks a ∨ b'.tasks a = b.tasks a ++ [.closeForStop x.id w]) :
    b'.backlog a < b.backlog a := by
  have before : b.watcherWork a x = b.queuedStates x.machine x.subscription + 4 :=
    if_pos ⟨mine, running⟩
  have after : b.watcherWork a { x with running := false } = 0 := by simp [watcherWork]
  have fewer := sum_watcherWork_le listens a b'.watchers
  have one := sum_modify found (fun y => { y with running := false }) (b.watcherWork a)
  have same := sum_taskWork_le listens (b'.tasks a)
  have more : ((b'.tasks a).map b.taskWork).sum ≤ b.tasksWork a + 2 := by
    obtain tasks | tasks := tasks
    · rw [tasks, tasksWork]
      omega
    · rw [tasks, tasksWork, List.map_append, List.sum_append]
      exact Nat.le_refl _
  have job := b'.jobWork_le a
  rw [watchers] at fewer
  rw [before, after] at one
  unfold backlog tasksWork watchersWork at *
  rw [watchers]
  omega

/-- A watcher that passes over a state has one state less to see. -/
theorem backlog_of_passes {e : ExecutionState} (found : b.watchers[w]? = some x)
    (mine : x.application = a) (running : x.running = true)
    (received : (b.receiveState x.machine x.subscription).2 = .value e) :
    (b.receiveState x.machine x.subscription).1.backlog a < b.backlog a := by
  have listens : ListensAt (fun _ _ => True) b (b.receiveState x.machine x.subscription).1 :=
    b.listensAt_receiveState trivial
  have fewer : (b.receiveState x.machine x.subscription).1.queuedStates x.machine x.subscription <
      b.queuedStates x.machine x.subscription := by
    cases known : b.states? x.machine with
    | none =>
      rw [receiveState, Option.map_eq_none_iff.1 known] at received
      cases received
    | some s =>
      rw [receiveState_snd known] at received
      have queued := Broadcast.queued_pos_of_value received
      rw [queuedStates, queuedStates, receiveState_eq,
        states?_modifyMachine b x.machine x.machine
          (g := fun s => { s with channel := (s.channel.receive x.subscription).1 }) fun _ => rfl,
        if_pos rfl, known]
      show (s.channel.receive x.subscription).1.queued x.subscription < s.channel.queued _
      rw [Broadcast.queued_receive, if_pos rfl]
      omega
  have watchers := b.watchers_receiveState x.machine x.subscription
  have applications := b.applications_receiveState x.machine x.subscription
  have queue := b.tasks_receiveState x.machine x.subscription a
  generalize (b.receiveState x.machine x.subscription).1 = b' at *
  have work : (b.watchers.map (b'.watcherWork a)).sum < (b.watchers.map (b.watcherWork a)).sum := by
    refine List.sum_lt_sum _ _ (fun y _ => watcherWork_le listens a y)
      ⟨x, List.mem_of_getElem? found, ?_⟩
    rw [watcherWork, watcherWork, if_pos ⟨mine, running⟩, if_pos ⟨mine, running⟩]
    omega
  have tasks := sum_taskWork_le listens (b.tasks a)
  have job : b'.jobWork a = b.jobWork a := by rw [jobWork, jobWork, applications]
  rw [backlog, backlog, job, tasksWork, tasksWork, watchersWork, watchersWork, queue, watchers]
  omega

/-- A turn of a watcher leaves less to do. -/
theorem backlog_watch (found : b.watchers[w]? = some x) (mine : x.application = a)
    (ready : b.canWatch w = true) : (b.watch w).backlog a < b.backlog a := by
  have listens : ListensAt (fun _ _ => True) b (b.watch w) :=
    b.listensAt_watch w fun _ _ _ => trivial
  have turned := b.watchStep_watch w
  have ended {c : Bridge} (same : c.watchers = b.watchers) : (c.endWatcher w x).watchers =
      b.watchers.modify w fun y => { y with running := false } := by
    rw [← same]
    rfl
  have queue (c : Bridge) : (c.endWatcher w x).tasks a = c.tasks a := rfl
  have received := b.watchers_receiveState x.machine x.subscription
  have kept := b.tasks_receiveState x.machine x.subscription a
  generalize b.watch w = b' at turned listens ⊢
  cases turned with
  | waits idle =>
    rw [ready] at idle
    cases idle
  | passes known running _ value _ =>
    cases found.symm.trans known
    exact backlog_of_passes found mine running value
  | stops known running _ _ _ =>
    cases found.symm.trans known
    refine backlog_of_ended listens found mine running
      (ended (((edits_dispatch ..).undisturbed rfl).watchers.trans received)) ?_
    rw [queue]
    obtain same | ⟨-, more⟩ := (b.receiveState x.machine x.subscription).1.tasks_dispatch
      x.application (.closeForStop x.id w) a
    · exact .inl (same.trans kept)
    · exact .inr (more.trans (by rw [kept]))
  | ends known running _ _ =>
    cases found.symm.trans known
    exact backlog_of_ended listens found mine running (ended received)
      (.inl ((queue _).trans kept))
  | closed known running _ =>
    cases found.symm.trans known
    exact backlog_of_ended listens found mine running (ended rfl) (.inl (queue b))

/-! ## turns of the host -/

/-- A task of the host that is left leaves less to do. -/
theorem backlog_leaveJob {y : Application} {j : Nat} (there : b.applications[a]? = some y)
    (running : y.job = some j) : (b.leaveJob a .ended).backlog a < b.backlog a := by
  have listens : ListensAt (fun _ _ => False) b (b.leaveJob a .ended) :=
    .of_eq ((b.edits_leaveJob a .ended).states? rfl)
  have watchers := ((b.edits_leaveJob a .ended).undisturbed rfl).watchers
  have left : (b.leaveJob a .ended).applications[a]? = some { y with job := none } := by
    rw [leaveJob, there, Option.bind_some, running]
    dsimp only
    rw [getElem?_modifyApplication, if_pos rfl]
    show (b.applications[a]?).map _ = _
    rw [there]
    rfl
  generalize b.leaveJob a .ended = b' at *
  have work := sum_watcherWork_le listens a b.watchers
  have tasks := sum_taskWork_le listens (b.tasks a)
  have queue : b'.tasks a = b.tasks a := (tasks_of_found left).trans (tasks_of_found there).symm
  have before : b.jobWork a = 1 := by simp [jobWork, there, running]
  have after : b'.jobWork a = 0 := by simp [jobWork, left]
  rw [backlog, backlog, before, after, tasksWork, tasksWork, watchersWork, watchersWork, queue,
    watchers]
  omega

/-! ## every turn -/

/-- Every turn of a running application leaves it less to do. -/
theorem backlog_lt (alive : ∀ y, b.applications[a]? = some y → Alive y)
    (turns : Turns a b env act) : (b.step env act).backlog a < b.backlog a := by
  cases turns with
  | main ready => exact backlog_mainTurn alive ready env
  | job there running => exact backlog_leaveJob there running
  | watcher found own ready => exact backlog_watch found own ready

/-- An application takes no more turns than it has work. -/
theorem length_le_backlog {actions more : List (Environment × Action)}
    (unasked : ∀ s ∈ actions, s.2 ≠ .quit a)
    (turns : (({} : Bridge).run actions).Along (Turns a) more) :
    more.length ≤ (({} : Bridge).run actions).backlog a := by
  induction more generalizing actions with
  | nil => exact Nat.zero_le _
  | cons s rest ih =>
    have fewer := backlog_lt (fun y there => alive_run unasked there) turns.1
    have unasked' : ∀ t ∈ actions ++ [s], t.2 ≠ .quit a := by
      intro t mem
      rw [List.mem_append, List.mem_singleton] at mem
      obtain mem | rfl := mem
      · exact unasked t mem
      · exact (turns.1.respects 0).unasked
    have turns' : (({} : Bridge).run (actions ++ [s])).Along (Turns a) rest := by
      rw [run_append]
      exact turns.2
    have later := ih unasked' turns'
    rw [run_append] at later
    have last : (({} : Bridge).run actions).run [s] =
        (({} : Bridge).run actions).step s.1 s.2 := rfl
    rw [last] at later
    rw [List.length_cons]
    omega

end Bridge

end MachineBridge
