import MachineBridge.Proofs.Windows.Settling
import Mathlib.Data.List.Nodup

/-!
# MachineBridge.Proofs.Windows.Stopping

When a machine stops, its windows are closed: those that are open, and those whose request is
queued.  A window is known by its watcher, and the watcher follows the subscription that the
request for the window took (`requested_run`), so a stop before the request is never seen by
it, and a stop behind the request always is.
-/

namespace MachineBridge

namespace Bridge

variable {b b' : Bridge} {env : Environment} {act : Action} {a k m i w : Nat} {id : Handle}
  {x : Watcher} {actions before after : List (Environment × Action)}

/-! ## the request for a window -/

/-- Behind `before`, an action is the request for a window of a machine in an application that
took the given subscription. -/
structure RequestedAt (m a i : Nat) (before : List (Environment × Action)) (act : Action) :
    Prop where
  accepted : (({} : Bridge).run before).acceptedRequest? m act = some a
  taken : (({} : Bridge).run before).taken m = i

/-- A run has a request for a window of a machine in an application that took the given
subscription. -/
def Requested (m a i : Nat) (actions : List (Environment × Action)) : Prop :=
  ∃ before env act after, actions = before ++ (env, act) :: after ∧ RequestedAt m a i before act

theorem Requested.append_singleton (h : Requested m a i actions) (s : Environment × Action) :
    Requested m a i (actions ++ [s]) := by
  obtain ⟨before, env, act, after, rfl, requested⟩ := h
  refine ⟨before, env, act, after ++ [s], ?_, requested⟩
  rw [List.append_assoc]
  rfl

/-- After every run the tasks that present a window and the watchers have been requested. -/
theorem requested_run (actions : List (Environment × Action)) :
    (∀ k m i, (m, i) ∈ (({} : Bridge).run actions).brought k → Requested m k i actions) ∧
      ∀ (w : Nat) (x : Watcher), (({} : Bridge).run actions).watchers[w]? = some x →
        Requested x.machine x.application x.subscription actions := by
  induction actions using List.reverseRecOn with
  | nil =>
    refine ⟨fun k m i mem => ?_, fun w x found => ?_⟩
    · cases mem
    · cases found
  | append_singleton before s ih =>
    obtain ⟨queued, watched⟩ := ih
    rw [run_append]
    constructor
    · intro k m i mem
      have mem : (m, i) ∈ ((({} : Bridge).run before).step s.1 s.2).brought k := mem
      cases (({} : Bridge).run before).broughtStep_step s.1 s.2 with
      | fewer _ fewer => exact (queued k m i ((fewer k).subset mem)).append_singleton s
      | more accepted _ _ tasks =>
        rw [brought, tasks] at mem
        split at mem
        · next own =>
          rw [List.filterMap_append, List.mem_append] at mem
          obtain earlier | new := mem
          · exact (queued k m i earlier).append_singleton s
          · cases List.mem_singleton.1 new
            exact ⟨before, s.1, s.2, [], rfl, own ▸ accepted, rfl⟩
        · exact (queued k m i mem).append_singleton s
    · intro w x' found'
      obtain ⟨x, found, later⟩ | ⟨k, id, spec, m, i, -, task, -, -, rfl⟩ :=
        ((({} : Bridge).run before).watcherStep_step s.1 s.2).watcher_before found'
      · rw [later.machine, later.application, later.subscription]
        exact (watched w x found).append_singleton s
      · have mem : (m, i) ∈ (({} : Bridge).run before).brought k :=
          mem_brought.2 ⟨id, spec, task ▸ List.mem_cons_self⟩
        exact (queued k m i mem).append_singleton s

/-! ## windows that a stop concerns -/

/-- A window is open, or the task that creates it is queued. -/
def Expects (b : Bridge) (w : Nat) (x : Watcher) : Prop :=
  b.watcherOf? x.application x.id = some w ∨
    ∃ spec, .present x.id spec x.machine x.subscription ∈ b.tasks x.application

/-- The subscription of a window that is expected is taken. -/
theorem Expects.lt_taken (expects : (({} : Bridge).run before).Expects w x)
    (found : (({} : Bridge).run (before ++ after)).watchers[w]? = some x) :
    x.subscription < (({} : Bridge).run before).taken x.machine := by
  have reachable : (({} : Bridge).run before).Reachable := ⟨before, rfl⟩
  obtain held | ⟨spec, queued⟩ := expects
  · obtain ⟨y, known, -⟩ := (attended_run before x.application x.id w).1 held
    obtain ⟨x', found', later⟩ := watcher_run after known
    rw [run_append] at found
    cases found.symm.trans found'
    rw [later.machine, later.subscription]
    exact reachable.refers_lt (refers_of_watcher known)
  · exact reachable.refers_lt (refers_of_task queued)

/-- A state that is accepted while a window is expected is accepted since its request. -/
theorem Expects.mem_acceptedSince {e : ExecutionState}
    (expects : (({} : Bridge).run before).Expects w x)
    (found : (({} : Bridge).run (before ++ (env, act) :: after)).watchers[w]? = some x)
    (accepted : e ∈ (({} : Bridge).run before).acceptedState x.machine act) :
    e ∈ acceptedSince x.machine x.subscription {} (before ++ (env, act) :: after) := by
  have taken := expects.lt_taken found
  rw [acceptedSince_append, acceptedSince_of_lt ⟨before, rfl⟩ taken, acceptedStates, collect]
  exact List.mem_append_right _ (List.mem_append_left _ accepted)

/-- A watcher that has nothing to do has seen everything. -/
theorem OwesStates.eq_nil {ahead : List ExecutionState}
    (owes : b.OwesStates x.machine x.subscription ahead) (reachable : b.Reachable)
    (unfinished : ¬b.Finalized x.machine) (found : b.watchers[w]? = some x)
    (running : x.running = true) (idle : b.canWatch w = false) : ahead = [] := by
  have received := (owes.receive reachable unfinished).1
  cases ahead with
  | nil => rfl
  | cons first rest =>
    rw [canWatch, found] at idle
    simp [running, received, Received.next] at idle

/-- A window with a terminal state behind its request is closed when its application is at
rest. -/
theorem not_held_of_atRest {e : ExecutionState}
    (respects : ({} : Bridge).Along (Respects x.machine x.application) actions)
    (ongoing : (({} : Bridge).run actions).Ongoing x.machine)
    (rest : (({} : Bridge).run actions).AtRest x.application)
    (found : (({} : Bridge).run actions).watchers[w]? = some x)
    (accepted : e ∈ acceptedSince x.machine x.subscription {} actions)
    (terminal : e.isTerminal = true) :
    (({} : Bridge).run actions).watcherOf? x.application x.id ≠ some w := by
  intro held
  obtain ⟨y, found', -, -, isOpen⟩ := (attended_run actions x.application x.id w).1 held
  cases found.symm.trans found'
  cases running : x.running with
  | false =>
    have queued := (pursued_run respects ongoing).ended w x found rfl rfl isOpen running
    rw [rest.tasks] at queued
    cases queued
  | true =>
    obtain ⟨seen, ahead, owes, total, quiet⟩ :=
      (followed_run respects ongoing).running w x found rfl running
    have none := owes.eq_nil ⟨actions, rfl⟩ ongoing.not_finalized found running
      (rest.watchers w x found rfl)
    rw [none, List.append_nil] at total
    rw [quiet e (total ▸ accepted)] at terminal
    cases terminal

/-- A window of an application that is not held any more was closed. -/
theorem held_iff (found : (({} : Bridge).run actions).watchers[w]? = some x)
    (own : x.application = a) :
    (({} : Bridge).run actions).watcherOf? a x.id ≠ some w ↔
      w ∈ (shut a {} actions).map Prod.fst := by
  have attended := attended_run actions a x.id w
  have once := closedOnce_run a actions
  constructor
  · intro lost
    refine once.all w x found own (Bool.eq_false_iff.2 fun isOpen => lost ?_)
    exact attended.2 ⟨x, found, own, rfl, isOpen⟩
  · intro mem held
    obtain ⟨entry, closing, rfl⟩ := List.mem_map.1 mem
    obtain ⟨y, found', -, closed, -⟩ := once.known entry.1 entry.2 closing
    obtain ⟨z, found'', -, -, isOpen⟩ := attended.1 held
    cases found'.symm.trans found''
    rw [isOpen] at closed
    cases closed

/-- Two events that close the same window are the same. -/
theorem ClosedOnce.unique {shut : List (Nat × WindowEvent)} (h : b.ClosedOnce a shut)
    {e f : WindowEvent} (first : (w, e) ∈ shut) (second : (w, f) ∈ shut) : e = f :=
  congrArg Prod.snd (List.inj_on_of_nodup_map h.once first second rfl)

/-! ## an application that is left to itself -/

/-- Turns leave the lives of machines. -/
theorem life?_of_turns (turns : Turns a b env act) : (b.step env act).life? = b.life? := by
  cases turns with
  | main _ => exact (b.edits_mainTurn env a).life? rfl
  | job _ _ => exact (b.edits_leaveJob a .ended).life? rfl
  | watcher _ _ _ => exact (b.edits_watch _).life? rfl

/-- No turn begins the teardown of a machine. -/
theorem Ongoing.of_turns (ongoing : b.Ongoing m) (turns : Turns a b env act) :
    (b.step env act).Ongoing m := by
  intro machine' found'
  have known := life?_of_found found'
  rw [life?_of_turns turns] at known
  obtain ⟨machine, found, same⟩ := Option.map_eq_some_iff.1 known
  have phase : machine.phase = machine'.phase := congrArg Life.phase same
  rw [← phase]
  exact ongoing machine found

/-- A machine goes on while an application takes its turns. -/
theorem Ongoing.run_turns {more : List (Environment × Action)} (ongoing : b.Ongoing m)
    (turns : b.Along (Turns a) more) : (b.run more).Ongoing m := by
  induction more generalizing b with
  | nil => exact ongoing
  | cons s rest ih => exact ih (ongoing.of_turns turns.1) turns.2

/-- An application that nobody asks to quit comes to rest when it has no turn left. -/
theorem atRest_of_turns {more : List (Environment × Action)}
    (unasked : ∀ s ∈ actions, s.2 ≠ .quit a)
    (turns : (({} : Bridge).run actions).Along (Turns a) more)
    (idle : ∀ env act, ¬Turns a ((({} : Bridge).run actions).run more) env act) :
    ((({} : Bridge).run actions).run more).AtRest a := by
  refine atRest_of_idle (fun y there => ?_) (idle .idle)
  rw [← run_append] at there
  refine alive_run (fun s mem => ?_) there
  obtain earlier | later := List.mem_append.1 mem
  · exact unasked s earlier
  · exact turns.forall (Q := fun _ act => act ≠ .quit a) (fun _ _ _ h => (h.respects 0).unasked) s
      later

/-! ## the windows of a machine that stops -/

/-- What becomes of the windows of a machine in an application, in a run that leads to `b`.  A
window is known by the number of its watcher. -/
structure ClosesStopped (m a : Nat) (actions : List (Environment × Action)) (b : Bridge) :
    Prop where
  /-- The windows that were closed come with the events that closed them, by calls of the
  toolkit and by the user, and there are no other such events. -/
  recorded : (shut a {} actions).map Prod.snd = b.closings a
  /-- An event closes a window under the token of the window. -/
  token : ∀ w e, (w, e) ∈ shut a {} actions →
    ∃ x, b.watchers[w]? = some x ∧ x.application = a ∧ e.closes? = some x.id
  /-- There is one event at most for each window. -/
  once : ((shut a {} actions).map Prod.fst).Nodup
  /-- So a window that the user closed is not closed by a call as well. -/
  user : ∀ w id id', (w, .closedByUser id) ∈ shut a {} actions →
    (w, .called (.close id')) ∉ shut a {} actions
  /-- The application has a window until it is closed by such an event. -/
  closed : ∀ (w : Nat) (x : Watcher), b.watchers[w]? = some x → x.application = a →
    (b.watcherOf? a x.id ≠ some w ↔ w ∈ (shut a {} actions).map Prod.fst)
  /-- Each window was created for a request, and follows the subscription that the request
  took. -/
  requested : ∀ (w : Nat) (x : Watcher), b.watchers[w]? = some x →
    Requested x.machine x.application x.subscription actions
  /-- A terminal state that is accepted while a window is open, or while the task that creates
  it is queued, leads to the window being closed. -/
  stops : ∀ before env act after e (w : Nat) (x : Watcher),
    actions = before ++ (env, act) :: after → ({} : Bridge).Along (Respects m a) actions →
    b.Ongoing m → e ∈ (({} : Bridge).run before).acceptedState m act → e.isTerminal = true →
    b.watchers[w]? = some x → x.machine = m → x.application = a →
    (({} : Bridge).run before).Expects w x → b.AtRest a →
    b.watcherOf? a x.id ≠ some w ∧ w ∈ (shut a {} actions).map Prod.fst
  /-- No call closes a window without a terminal state that was accepted after its request. -/
  spares : ∀ before env act after (w : Nat) (x : Watcher) id,
    actions = before ++ (env, act) :: after → ({} : Bridge).Along (Respects m a) actions →
    b.Ongoing m → RequestedAt m a x.subscription before act →
    (∀ e ∈ acceptedStates m ((({} : Bridge).run before).step env act) after,
      e.isTerminal = false) →
    b.watchers[w]? = some x → x.machine = m → (w, .called (.close id)) ∉ shut a {} actions
  /-- Left to itself, the application takes no more turns than it has work. -/
  turns : ∀ more, (∀ s ∈ actions, s.2 ≠ .quit a) → b.Along (Turns a) more →
    more.length ≤ b.backlog a
  /-- It has come to rest when there is no turn left, and the machine goes on. -/
  rests : ∀ more, (∀ s ∈ actions, s.2 ≠ .quit a) → b.Along (Turns a) more →
    (∀ env act, ¬Turns a (b.run more) env act) → (b.run more).AtRest a ∧
      b.Along (Respects m a) more ∧ (b.Ongoing m → (b.run more).Ongoing m)

/-- A stop of a machine closes the windows that it should, over every run. -/
theorem closes_stopped (m a : Nat) (actions : List (Environment × Action)) :
    ClosesStopped m a actions (({} : Bridge).run actions) where
  recorded := (closedOnce_run a actions).recorded
  token := by
    intro w e mem
    obtain ⟨x, found, own, -, event⟩ := (closedOnce_run a actions).known w e mem
    exact ⟨x, found, own, event⟩
  once := (closedOnce_run a actions).once
  user := by
    intro w id id' first second
    cases (closedOnce_run a actions).unique first second
  closed := fun w x found own => held_iff found own
  requested := (requested_run actions).2
  stops := by
    rintro before env act after e w x rfl respects ongoing accepted terminal found rfl rfl expects
      rest
    have since := expects.mem_acceptedSince found accepted
    have lost := not_held_of_atRest respects ongoing rest found since terminal
    exact ⟨lost, (held_iff found rfl).1 lost⟩
  spares := by
    rintro before env act after w x id rfl respects ongoing requested quiet found machine closed
    have pursued := pursued_run respects ongoing
    obtain ⟨e, since, terminal⟩ := pursued.stopped w id x closed found machine
    rw [← requested.taken, acceptedSince_of_request requested.accepted] at since
    rw [quiet e since] at terminal
    cases terminal
  turns := fun more unasked turns => length_le_backlog unasked turns
  rests := by
    intro more unasked turns idle
    have respects : (({} : Bridge).run actions).Along (Respects m a) more :=
      turns.mono fun _ _ _ h => h.respects m
    exact ⟨atRest_of_turns unasked turns idle, respects, fun ongoing => ongoing.run_turns turns⟩

/-- A machine stops while the task that presents its window is queued, and the window is shown
again after that. -/
def stopping : List (Environment × Action) :=
  creation ++ [(.idle, .addApplication), (.idle, .receive (.stateChanged ⟨1⟩ 1)),
    (.idle, .startGraphics 0 0 640 480 {}), (.idle, .receive (.stateChanged ⟨1⟩ 0)),
    (.idle, .mainTurn 0), (.idle, .watch 0), (.idle, .showWindow 0), (.idle, .mainTurn 0),
    (.idle, .mainTurn 0)]

/-- The first window is closed, and no call closes the second one, which has the same token. -/
theorem closes_stopped_while_queued :
    (({} : Bridge).Along (Respects 0 0) stopping ∧ (({} : Bridge).run stopping).Ongoing 0 ∧
        (({} : Bridge).run stopping).AtRest 0) ∧
      ((({} : Bridge).run stopping).watcherOf? 0 ⟨3⟩ ≠ some 0 ∧
        0 ∈ (shut 0 {} stopping).map Prod.fst) ∧
      (1, .called (.close ⟨3⟩)) ∉ shut 0 {} stopping := by
  have respects : ({} : Bridge).Along (Respects 0 0) stopping :=
    respects_of_unconcerned (by simp [stopping, creation, Unconcerned])
  have ongoing : (({} : Bridge).run stopping).Ongoing 0 := by decide +kernel
  have rest : (({} : Bridge).run stopping).AtRest 0 := by decide +kernel
  have first : (({} : Bridge).run stopping).watchers[0]? =
      some ⟨0, ⟨3⟩, 0, 0, false, false⟩ := by decide +kernel
  have queued : (({} : Bridge).run (stopping.take 5)).Expects 0
      ⟨0, ⟨3⟩, 0, 0, false, false⟩ := .inr ⟨.ofOptions 640 480 {}, by decide +kernel⟩
  have second : (({} : Bridge).run stopping).watchers[1]? =
      some ⟨0, ⟨3⟩, 0, 1, true, true⟩ := by decide +kernel
  have requested : RequestedAt 0 0 1 (stopping.take 8) (.showWindow 0) :=
    ⟨by decide +kernel, by decide +kernel⟩
  have closes := closes_stopped 0 0 stopping
  refine ⟨⟨respects, ongoing, rest⟩, ?_, ?_⟩
  · exact closes.stops (stopping.take 5) .idle (.receive (.stateChanged ⟨1⟩ 0))
      (stopping.drop 6) .stopped 0 _ rfl respects ongoing (by decide +kernel) rfl first rfl rfl
      queued rest
  · exact closes.spares (stopping.take 8) .idle (.showWindow 0) (stopping.drop 9) 1 _ ⟨3⟩ rfl
      respects ongoing requested (by decide +kernel) second rfl

end Bridge

end MachineBridge
