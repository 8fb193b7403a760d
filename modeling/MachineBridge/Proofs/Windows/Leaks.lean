import MachineBridge.Proofs.Broadcast.Holding
import MachineBridge.Proofs.Lifecycle.Teardown
import MachineBridge.Proofs.Windows.Borrowed
import MachineBridge.Proofs.Windows.Teardown

/-!
# MachineBridge.Proofs.Windows.Leaks

No watcher leaks.  Every request for a window takes a subscription, and however many there were,
an application at rest follows the states of a machine once if it has a window of it, and not at
all otherwise (`leaks_no_watcher`).

The window of a watcher that runs is there, under the token that the machine has, or nobody has
it any more (`owned_or_retired`).  Once the teardown of the machine has begun, every window of it
that is there or requested will be forgotten (`forgets_of_ending`).
-/

namespace MachineBridge

/-! ## the receivers that a value reaches -/

namespace Broadcast

variable {α : Type} {c : Broadcast α}

/-- The values that are queued for a subscription, in order. -/
def ahead (c : Broadcast α) (i : Nat) : List α :=
  ((c.subscriptions[i]?).map (·.queue.toList)).getD []

/-- A value that is published on an open channel is queued for every receiver that was not
dropped, and for no other. -/
theorem Listed.ahead_publish (h : c.Listed) (isOpen : c.closed = false) (a : α) (i : Nat) :
    (c.publish a).ahead i = c.ahead i ++ if c.keeps[i]? = some true then [a] else [] := by
  have delivered : (c.publish a).subscriptions[i]? = (c.subscriptions[i]?).map (·.deliver a) :=
    List.getElem?_map
  rw [ahead, ahead, delivered, keeps, List.getElem?_map]
  cases found : c.subscriptions[i]? with
  | none => rfl
  | some s =>
    cases kept : s.kept with
    | true =>
      have listed := (h s (List.mem_of_getElem? found)).2 isOpen kept
      simp [kept, Subscription.toList_queue_deliver listed kept]
    | false =>
      have same : (s.deliver a).queue = s.queue := by
        simp [Subscription.deliver, kept, apply_ite]
      simp [kept, same]

end Broadcast

namespace Bridge

variable {b b' : Bridge} {env : Environment} {act : Action} {a k m i w : Nat} {id : Handle}
  {x : Watcher} {y : Application} {machine : Machine} {e : ExecutionState}
  {actions : List (Environment × Action)}

/-- The states of a machine that are queued for a subscription, in order. -/
def statesAhead (b : Bridge) (m i : Nat) : List ExecutionState :=
  ((b.states? m).map (·.channel.ahead i)).getD []

/-- The receivers of consumers that were not dropped. -/
def consumerStates (m : Nat) (actions : List (Environment × Action)) : List Nat :=
  (List.range ((({} : Bridge).run actions).taken m)).filter fun i =>
    (({} : Bridge).run actions).keepsStates m i && decide (i ∉ borrowed m {} actions)

theorem lt_taken_of_keepsStates (kept : b.keepsStates m i = true) : i < b.taken m := by
  obtain ⟨s, found, kept⟩ := keepsStates_iff.1 kept
  rw [taken, found, Option.map_some, Option.getD_some, ← Broadcast.length_keeps]
  exact (List.getElem?_eq_some_iff.1 kept).1

/-- The receivers that were not dropped are those of consumers and those of the bridge. -/
theorem mem_receivers (m : Nat) (actions : List (Environment × Action)) (i : Nat) :
    i ∈ consumerStates m actions ++ heldStates m actions ↔
      (({} : Bridge).run actions).keepsStates m i = true := by
  rw [List.mem_append, consumerStates, heldStates, List.mem_filter, List.mem_filter,
    List.mem_range, Bool.and_eq_true, decide_eq_true_iff]
  constructor
  · rintro (⟨-, kept, -⟩ | ⟨-, kept⟩)
    · exact kept
    · exact kept
  · intro kept
    by_cases own : i ∈ borrowed m {} actions
    · exact .inr ⟨own, kept⟩
    · exact .inl ⟨lt_taken_of_keepsStates kept, kept, own⟩

/-- No receiver belongs to a consumer and to the bridge. -/
theorem nodup_receivers (m : Nat) (actions : List (Environment × Action)) :
    (consumerStates m actions ++ heldStates m actions).Nodup := by
  refine List.nodup_append.2 ⟨List.nodup_range.filter _, (borrowed_run m actions).2.filter _,
    fun i consumer j own => ?_⟩
  rintro rfl
  have foreign := (Bool.and_eq_true_iff.1 (List.mem_filter.1 consumer).2).2
  exact of_decide_eq_true foreign (List.mem_filter.1 own).1

/-- A state of a machine is delivered to these subscriptions and to no others: it is the current
one, it is queued for each of them behind all others, and as many receivers are counted. -/
structure Delivered (b b' : Bridge) (m : Nat) (receivers : List Nat) (e : ExecutionState) :
    Prop where
  current : b'.state? m = some e
  queued : ∀ i, b'.statesAhead m i = b.statesAhead m i ++ if i ∈ receivers then [e] else []
  counted : (b'.states? m).map (·.channel.subscriberCount) = some receivers.length

/-- A state that is accepted is delivered to all receivers that were not dropped. -/
theorem delivered_of_accepted (accepted : (({} : Bridge).run actions).acceptedState m act = [e]) :
    Delivered (({} : Bridge).run actions) ((({} : Bridge).run actions).step env act) m
      (consumerStates m actions ++ heldStates m actions) e := by
  have receivers := mem_receivers m actions
  have nodup := nodup_receivers m actions
  have listed (s : StateStream) (found : (({} : Bridge).run actions).states? m = some s) :
      s.channel.Listed := listed_states_run actions found
  have reachable : (({} : Bridge).run actions).Reachable := ⟨actions, rfl⟩
  generalize ({} : Bridge).run actions = b at *
  cases found : b.states? m with
  | none =>
    rw [acceptedState_of_absent found] at accepted
    cases accepted
  | some s =>
    obtain ⟨s', found', change⟩ := stateChange_step reachable env act found
    have kept (i : Nat) : i ∈ consumerStates m actions ++ heldStates m actions ↔
        s.channel.keeps[i]? = some true := by
      rw [receivers, keepsStates_iff, found]
      simp
    cases change with
    | @applied e' same unfinished _ =>
      cases accepted.symm.trans same
      have isOpen : s.channel.closed = false :=
        Bool.eq_false_iff.2 fun closed => unfinished ((reachable.closed_iff found).1 closed)
      refine ⟨?_, fun i => ?_, ?_⟩
      · obtain ⟨machine, there, state⟩ := Option.map_eq_some_iff.1 found'
        rw [state?, there, Option.map_some, state]
        rfl
      · rw [statesAhead, statesAhead, found, found']
        simp only [Option.map_some, Option.getD_some, kept]
        exact (listed s found).ahead_publish isOpen e i
      · have counted := (listed s found).subscriberCount_publish e
        rw [if_neg (by rw [isOpen]; exact Bool.false_ne_true)] at counted
        rw [found', Option.map_some, Broadcast.length_of_keeps nodup kept]
        exact congrArg some counted
    | closed silent _ =>
      rw [silent] at accepted
      cases accepted
    | listened silent _ _ =>
      rw [silent] at accepted
      cases accepted

/-! ## the tokens of windows -/

/-- The machine of a window that is wanted has the token of the window, or its teardown has
begun. -/
theorem machine_of_wanted (wanted : (({} : Bridge).run actions).Wanted m id) :
    ∃ machine, (({} : Bridge).run actions).machines[m]? = some machine ∧
      (machine.window.token = some id ∨ machine.phase.isEnding = true) := by
  obtain ⟨t, known, keeps⟩ := keepsToken_of_wanted wanted
  obtain ⟨machine, found, rfl⟩ := Option.map_eq_some_iff.1 known
  refine ⟨machine, found, keeps.imp_right fun ending => ?_⟩
  obtain releasing | finalized := ending
  · rw [show machine.phase = .releasing from releasing]
    rfl
  · rw [show machine.phase = .finalized from finalized]
    rfl

/-- A machine has no window token once its teardown has begun. -/
theorem token?_of_ending (found : (({} : Bridge).run actions).machines[m]? = some machine)
    (ending : machine.phase.isEnding = true) :
    (({} : Bridge).run actions).token? (.windowBinding m) = none := by
  have gone : machine.window = {} := window_of_idle found (ne_live_of_isEnding ending)
  rw [token?, skeleton?_of_found found]
  exact congrArg WindowState.token gone

/-- After every run a window that is wanted has the token of its machine, or a token that is
retired. -/
theorem owned_or_retired (wanted : (({} : Bridge).run actions).Wanted m id) :
    (({} : Bridge).run actions).token? (.windowBinding m) = some id ∨
      (({} : Bridge).run actions).Retired id := by
  induction actions using List.reverseRecOn with
  | nil =>
    obtain ⟨k, spec, i, mem⟩ | ⟨w, x, found, -⟩ := wanted
    · cases mem
    · cases found
  | append_singleton before s ih =>
    obtain ⟨machine, found, token | ending⟩ := machine_of_wanted wanted
    · left
      rw [token?, skeleton?_of_found found]
      exact token
    · have reachable : (({} : Bridge).run before).Reachable := ⟨before, rfl⟩
      have gone := token?_of_ending found ending
      rw [run_append] at wanted gone ⊢
      obtain earlier | ⟨k, spec, i, posts⟩ := wanted_step wanted
      · obtain owned | retired := ih earlier
        · exact .inr (retired_of_lost reachable owned gone)
        · exact .inr (retired.step reachable.records s.1 s.2)
      · cases posts.token?.symm.trans gone

/-! ## teardown -/

theorem acceptedRequest?_of_start {spec : WindowSpec}
    (start : b.acceptedStart? m act = some (a, spec)) : b.acceptedRequest? m act = some a := by
  cases act with
  | startGraphics k j width height options =>
    obtain rfl : k = m := by
      simp only [acceptedStart?] at start
      split at start
      · exact (Option.ite_none_right_eq_some.1 start).1.1
      · cases start
    rw [acceptedRequest?, start]
    rfl
  | _ => cases start

/-- The latest request that opened the window did so in the application. -/
theorem latestStart?_eq {spec : WindowSpec} (shown : ({} : Bridge).Along (ShownIn m a) actions)
    (latest : latestStart? m actions = some (k, spec)) : k = a := by
  induction actions using List.reverseRecOn with
  | nil => cases latest
  | append_singleton before s ih =>
    rw [along_append] at shown
    rw [latestStart?, latest?_append_singleton] at latest
    obtain start | ⟨-, earlier⟩ := Option.or_eq_some_iff.1 latest
    · exact shown.2.1.requested k (acceptedRequest?_of_start start)
    · exact ih shown.1 earlier

/-- The window of a live machine is in the application. -/
theorem application_of_shownIn {s : MachineSkeleton}
    (shown : ({} : Bridge).Along (ShownIn m a) actions)
    (known : (({} : Bridge).run actions).skeleton? m = some s) (live : s.phase = .live)
    (token : s.window.token = some id) : s.window.application = some a := by
  have recorded := windowRecorded_run actions m
  rw [WindowRecorded, known] at recorded
  cases latest : latestStart? m actions with
  | none =>
    have none := recorded.token live
    rw [token, latest] at none
    cases none
  | some start =>
    rw [recorded.application live, latest, Option.map_some]
    exact congrArg some (latestStart?_eq shown latest)

/-- After every run that shows the windows of a machine in one application, this application will
have none of them once its tasks have run, if the teardown of the machine has begun. -/
theorem forgets_of_ending (shown : ({} : Bridge).Along (ShownIn m a) actions)
    (found : (({} : Bridge).run actions).machines[m]? = some machine)
    (ending : machine.phase.isEnding = true) (wanted : (({} : Bridge).run actions).Wanted m id)
    (there : (({} : Bridge).run actions).applications[a]? = some y) : y.Forgets id := by
  induction actions using List.reverseRecOn generalizing machine y with
  | nil => cases there
  | append_singleton before s ih =>
    have gone := token?_of_ending found ending
    have retired := (owned_or_retired wanted).resolve_left fun owned => by
      cases owned.symm.trans gone
    rw [along_append] at shown
    rw [run_append] at found wanted there gone retired
    have earlier : (({} : Bridge).run before).Wanted m id := by
      obtain earlier | ⟨k, spec, i, posts⟩ := wanted_step wanted
      · exact earlier
      · cases posts.token?.symm.trans gone
    have alive {z : Application} (there : (({} : Bridge).run before).applications[a]? = some z) :
        Alive z := alive_run (unasked_of_shownIn shown.1) there
    cases (({} : Bridge).run before).appStep_step s.1 s.2 a with
    | none _ absent => cases there.symm.trans absent
    | added _ fresh =>
      cases there.symm.trans fresh
      rfl
    | @changed z _ there₀ there' change =>
      cases there.symm.trans there'
      obtain ⟨machine₀, found₀, token | ending₀⟩ := machine_of_wanted earlier
      · -- the step tears the machine down
        have live : machine₀.phase = .live := by
          by_contra idle
          rw [window_of_idle found₀ idle] at token
          cases token
        have known := skeleton?_of_found found₀
        have tears := tearsDown_of_released known (skeleton?_of_found found) live
          (ne_live_of_isEnding ending)
        obtain ⟨-, absent | ⟨z', there₁, posted⟩⟩ :=
          tears.applications known live token (application_of_shownIn shown.1 known live token)
        · cases there.symm.trans absent
        · cases there.symm.trans (posted (alive there₁).isOpen)
          exact forgets_post z' id
      · exact change.forgets (alive there₀) retired (ih shown.1 found₀ ending₀ earlier there₀)

/-! ## an application at rest -/

/-- The window that an application has under the window token of a machine, by the number of its
watcher. -/
def controller? (b : Bridge) (m a : Nat) : Option Nat :=
  ((b.machines[m]?).bind (·.window.token)).bind (b.watcherOf? a)

/-- The window of a machine in an application is found by the token of the machine. -/
theorem controller?_eq_some_iff : b.controller? m a = some w ↔
    ∃ id, b.token? (.windowBinding m) = some id ∧ b.watcherOf? a id = some w := by
  rw [controller?, Option.bind_eq_some_iff, token?, skeleton?, Option.bind_map]
  rfl

/-- A watcher that runs while its application is at rest has its window. -/
theorem held_of_running (rest : (({} : Bridge).run actions).AtRest a)
    (found : (({} : Bridge).run actions).watchers[w]? = some x) (own : x.application = a)
    (running : x.running = true) : (({} : Bridge).run actions).watcherOf? a x.id = some w := by
  have idle := rest.watchers w x found own
  have isOpen : x.isOpen = true := by
    by_contra shut
    rw [canWatch, found] at idle
    simp [running, shut] at idle
  exact (attended_run actions a x.id w).2 ⟨x, found, own, rfl, isOpen⟩

/-- A receiver of the bridge that was not dropped is that of a watcher that runs, once the
application is at rest. -/
theorem watcher_of_held (shown : ({} : Bridge).Along (ShownIn m a) actions)
    (rest : (({} : Bridge).run actions).AtRest a) (mem : i ∈ heldStates m actions) :
    ∃ (w : Nat) (x : Watcher), (({} : Bridge).run actions).watchers[w]? = some x ∧
      x.machine = m ∧ x.subscription = i ∧ x.running = true := by
  obtain queued | follows := needs_run shown mem
  · rw [brought, rest.tasks] at queued
    cases queued
  · exact follows

section Shown

variable (shown : ({} : Bridge).Along (ShownIn m a) actions)
  (ongoing : (({} : Bridge).run actions).Ongoing m) (rest : (({} : Bridge).run actions).AtRest a)
  (found : (({} : Bridge).run actions).watchers[w]? = some x) (its : x.machine = m)

include shown found its

theorem application_of_watcher : x.application = a :=
  (its ▸ (requested_run actions).2 w x found : Requested m _ _ _).eq_of_shownIn shown

include ongoing

/-- A watcher that runs keeps its receiver. -/
theorem mem_heldStates_of_running (running : x.running = true) :
    x.subscription ∈ heldStates m actions := by
  obtain ⟨seen, ahead, ⟨s, known, owes⟩, -, -⟩ :=
    (followed_run (respects_of_shownIn shown) ongoing).running w x found its running
  have requested : Requested m x.application x.subscription actions :=
    its ▸ (requested_run actions).2 w x found
  exact List.mem_filter.2
    ⟨mem_borrowed_iff.2 ⟨_, requested⟩, keepsStates_iff.2 ⟨s, known, owes.keeps⟩⟩

include rest

/-- At rest the watchers of a machine that goes on run exactly if their window is the one that
the application has under the token of the machine. -/
theorem running_iff_controller : x.running = true ↔
    (({} : Bridge).run actions).controller? m a = some w := by
  have own := application_of_watcher shown found its
  have wanted : (({} : Bridge).run actions).Wanted m x.id := .inr ⟨w, x, found, its, rfl⟩
  rw [controller?_eq_some_iff]
  constructor
  · intro running
    refine ⟨x.id, ?_, held_of_running rest found own running⟩
    obtain ⟨s, known, keeps⟩ := keepsToken_of_wanted wanted
    exact ongoing.token? known keeps
  · rintro ⟨id, -, held⟩
    obtain ⟨x', found', -, -, isOpen⟩ := (attended_run actions a id w).1 held
    cases found.symm.trans found'
    by_contra ended
    have queued := (pursued_run (respects_of_shownIn shown) ongoing).ended w x found own its isOpen
      (Bool.eq_false_iff.2 ended)
    rw [rest.tasks] at queued
    cases queued

end Shown

/-- The window that an application has under the token of a machine is followed by a watcher of
the machine. -/
theorem watcher_of_controller (held : (({} : Bridge).run actions).controller? m a = some w) :
    ∃ x, (({} : Bridge).run actions).watchers[w]? = some x ∧ x.machine = m ∧
      x.isOpen = true := by
  obtain ⟨id, token, held⟩ := controller?_eq_some_iff.1 held
  obtain ⟨x, found, -, rfl, isOpen⟩ := (attended_run actions a id w).1 held
  refine ⟨x, found, ?_, isOpen⟩
  obtain owned | retired := owned_or_retired (.inr ⟨w, x, found, rfl, rfl⟩)
  · have reachable : (({} : Bridge).run actions).Reachable := ⟨actions, rfl⟩
    simpa using reachable.records.distinct _ _ _ owned token
  · exact absurd token (retired.unowned m)

/-- At rest the bridge holds the receiver of that watcher and no other. -/
theorem heldStates_of_controller (shown : ({} : Bridge).Along (ShownIn m a) actions)
    (ongoing : (({} : Bridge).run actions).Ongoing m)
    (rest : (({} : Bridge).run actions).AtRest a)
    (held : (({} : Bridge).run actions).controller? m a = some w)
    (found : (({} : Bridge).run actions).watchers[w]? = some x) :
    heldStates m actions = [x.subscription] := by
  obtain ⟨x', found', its, -⟩ := watcher_of_controller held
  cases found.symm.trans found'
  refine List.perm_singleton.1 ((List.perm_ext_iff_of_nodup
    ((borrowed_run m actions).2.filter _) (List.nodup_singleton _)).2 fun i => ?_)
  rw [List.mem_singleton]
  constructor
  · intro mem
    obtain ⟨v, y, there, its', rfl, running⟩ := watcher_of_held shown rest mem
    have same := (running_iff_controller shown ongoing rest there its').1 running
    cases held.symm.trans same
    cases found.symm.trans there
    rfl
  · rintro rfl
    exact mem_heldStates_of_running shown ongoing found its
      ((running_iff_controller shown ongoing rest found its).2 held)

/-- At rest the bridge holds no receiver of a machine without a window. -/
theorem heldStates_of_no_controller (shown : ({} : Bridge).Along (ShownIn m a) actions)
    (ongoing : (({} : Bridge).run actions).Ongoing m)
    (rest : (({} : Bridge).run actions).AtRest a)
    (none : (({} : Bridge).run actions).controller? m a = none) : heldStates m actions = [] := by
  refine List.eq_nil_iff_forall_not_mem.2 fun i mem => ?_
  obtain ⟨w, x, found, its, -, running⟩ := watcher_of_held shown rest mem
  cases none.symm.trans ((running_iff_controller shown ongoing rest found its).1 running)

/-- At rest the application has no window of a machine whose teardown has begun. -/
theorem not_held_of_ending (shown : ({} : Bridge).Along (ShownIn m a) actions)
    (there : (({} : Bridge).run actions).machines[m]? = some machine)
    (ending : machine.phase.isEnding = true) (rest : (({} : Bridge).run actions).AtRest a)
    (found : (({} : Bridge).run actions).watchers[w]? = some x) (its : x.machine = m) :
    (({} : Bridge).run actions).watcherOf? a x.id ≠ some w := by
  intro held
  obtain ⟨y, known, watched⟩ := there_of_watcherOf? held
  have forgets := forgets_of_ending shown there ending (.inr ⟨w, x, found, its, rfl⟩) known
  have empty : y.queue.tasks = [] := (tasks_of_found known).symm.trans rest.tasks
  rw [Application.Forgets, empty, Application.holds, watched] at forgets
  cases forgets

/-! ## no watcher leaks -/

/-- Who listens to the states of a machine whose windows are shown in one application, in a run
that leads to `b`. -/
structure LeaksNoWatcher (m a : Nat) (actions : List (Environment × Action)) (b : Bridge) :
    Prop where
  /-- The subscriptions of the bridge are those that requests took, one each. -/
  borrowed : (borrowed m {} actions).Nodup ∧
    ∀ i, i ∈ borrowed m {} actions ↔ ∃ k, Requested m k i actions
  /-- The receivers that were not dropped are those of consumers and those of the bridge. -/
  kept : ∀ i, b.keepsStates m i = true ↔
    i ∈ consumerStates m actions ∨ i ∈ heldStates m actions
  /-- Every change of the state is delivered to these receivers and to no others. -/
  delivered : ∀ env act e, b.acceptedState m act = [e] →
    Delivered b (b.step env act) m (consumerStates m actions ++ heldStates m actions) e
  /-- At rest, if the application has a window under the token of the machine, the bridge holds
  one receiver, with the watcher of this window. -/
  one : ∀ w, ({} : Bridge).Along (ShownIn m a) actions → b.Ongoing m → b.AtRest a →
    b.controller? m a = some w → ∃ x, b.watchers[w]? = some x ∧ x.application = a ∧
      x.machine = m ∧ x.running = true ∧ heldStates m actions = [x.subscription]
  /-- At rest, if the application has no such window, the bridge holds no receiver. -/
  none : ({} : Bridge).Along (ShownIn m a) actions → b.Ongoing m → b.AtRest a →
    b.controller? m a = none → heldStates m actions = []
  /-- No other watcher of the machine runs at rest. -/
  others : ∀ (w : Nat) (x : Watcher), ({} : Bridge).Along (ShownIn m a) actions → b.Ongoing m →
    b.AtRest a → b.watchers[w]? = some x → x.machine = m → x.running = true →
    b.controller? m a = some w
  /-- At rest, once the teardown of the machine has begun, the bridge holds no receiver, no
  watcher of the machine runs, and no window of it is left. -/
  ended : ∀ machine, ({} : Bridge).Along (ShownIn m a) actions →
    b.machines[m]? = some machine → machine.phase.isEnding = true → b.AtRest a →
    heldStates m actions = [] ∧ ∀ (w : Nat) (x : Watcher), b.watchers[w]? = some x →
      x.machine = m → x.running = false ∧ b.watcherOf? a x.id ≠ some w

/-- However many windows of a machine were opened, its states are followed for the one that is
there. -/
theorem leaks_no_watcher (m a : Nat) (actions : List (Environment × Action)) :
    LeaksNoWatcher m a actions (({} : Bridge).run actions) where
  borrowed := ⟨(borrowed_run m actions).2, fun _ => mem_borrowed_iff⟩
  kept i := (mem_receivers m actions i).symm.trans List.mem_append
  delivered _ _ _ accepted := delivered_of_accepted accepted
  one w shown ongoing rest held := by
    obtain ⟨x, found, its, -⟩ := watcher_of_controller held
    exact ⟨x, found, application_of_watcher shown found its, its,
      (running_iff_controller shown ongoing rest found its).2 held,
      heldStates_of_controller shown ongoing rest held found⟩
  none := heldStates_of_no_controller
  others w x shown ongoing rest found its :=
    (running_iff_controller shown ongoing rest found its).1
  ended machine shown there ending rest := by
    have stopped (w : Nat) (x : Watcher) (found : (({} : Bridge).run actions).watchers[w]? = some x)
        (its : x.machine = m) : x.running = false ∧
          (({} : Bridge).run actions).watcherOf? a x.id ≠ some w := by
      have lost := not_held_of_ending shown there ending rest found its
      refine ⟨Bool.eq_false_iff.2 fun running => lost ?_, lost⟩
      exact held_of_running rest found (application_of_watcher shown found its) running
    refine ⟨List.eq_nil_iff_forall_not_mem.2 fun i mem => ?_, stopped⟩
    obtain ⟨w, x, found, its, -, running⟩ := watcher_of_held shown rest mem
    rw [(stopped w x found its).1] at running
    cases running

/-- A consumer listens, and a window is requested three times: it is shown twice, closed by the
user and shown again. -/
def showings : List (Environment × Action) :=
  creation ++ [(.idle, .subscribeStates 0), (.idle, .addApplication),
    (.idle, .startGraphics 0 0 640 480 {}), (.idle, .showWindow 0), (.idle, .mainTurn 0),
    (.idle, .mainTurn 0), (.idle, .userClosed 0 ⟨3⟩), (.idle, .watch 0), (.idle, .showWindow 0),
    (.idle, .mainTurn 0)]

/-- After that the machine is finalized, and the application takes the turns that are left. -/
def farewells : List (Environment × Action) :=
  showings ++ [(.idle, .finalize 0), (.idle, .mainTurn 0), (.idle, .finishTeardown 0),
    (.idle, .watch 1)]

/-- Of the three subscriptions the bridge holds the one of the last window, and none in the end. -/
theorem leaks_no_watcher_shown_again :
    (({} : Bridge).Along (ShownIn 0 0) farewells ∧ (({} : Bridge).run showings).Ongoing 0 ∧
        (({} : Bridge).run showings).AtRest 0 ∧ (({} : Bridge).run farewells).AtRest 0) ∧
      (∃ x, (({} : Bridge).run showings).watchers[1]? = some x ∧ x.running = true ∧
        heldStates 0 showings = [x.subscription]) ∧
      heldStates 0 farewells = [] := by
  have shown : ({} : Bridge).Along (ShownIn 0 0) farewells :=
    shownIn_of_respects
      (respects_of_unconcerned (by simp [farewells, showings, creation, Unconcerned]))
      (by decide +kernel)
  have earlier : ({} : Bridge).Along (ShownIn 0 0) showings := ((along_append _ _ _).1 shown).1
  have ongoing : (({} : Bridge).run showings).Ongoing 0 := by decide +kernel
  have rest : (({} : Bridge).run showings).AtRest 0 := by decide +kernel
  have quiet : (({} : Bridge).run farewells).AtRest 0 := by decide +kernel
  obtain ⟨machine, found, ending⟩ : ∃ machine ∈ (({} : Bridge).run farewells).machines[0]?,
      machine.phase.isEnding = true := by decide +kernel
  obtain ⟨x, known, -, -, running, one⟩ :=
    (leaks_no_watcher 0 0 showings).one 1 earlier ongoing rest (by decide +kernel)
  have none := (leaks_no_watcher 0 0 farewells).ended machine shown found ending quiet
  exact ⟨⟨shown, ongoing, rest, quiet⟩, ⟨x, known, running, one⟩, none.1⟩

end Bridge

end MachineBridge
