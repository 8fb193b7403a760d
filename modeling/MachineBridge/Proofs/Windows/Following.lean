import MachineBridge.Proofs.Lifecycle.Release
import MachineBridge.Proofs.Windows.Subscriptions

/-!
# MachineBridge.Proofs.Windows.Following

From a state of a machine to the task that closes its window.  The task that presents a window
is owed every state that was accepted since the request; the watcher of the window passes over
them in order up to the first terminal one, and then it hands over the task that closes the
window.  So a watcher that ended without its window being closed has that task queued, and a
task that is queued has a terminal state behind it (`followed_run`, `pursued_run`).
-/

namespace MachineBridge

namespace Bridge

variable {b b' : Bridge} {env : Environment} {act : Action} {a k m i w : Nat} {id : Handle}
  {spec : WindowSpec} {x : Watcher} {since : Nat → List ExecutionState}

/-! ## what is accepted since a request -/

/-- The states that are accepted for a machine in a run once a subscription was taken. -/
def acceptedSince (m i : Nat) (b : Bridge) (actions : List (Environment × Action)) :
    List ExecutionState :=
  b.collect (fun b _ act => if i < b.taken m then b.acceptedState m act else []) actions

/-- Subscriptions are numbered upwards. -/
theorem taken_le_run (reachable : b.Reachable) (actions : List (Environment × Action)) (m : Nat) :
    b.taken m ≤ (b.run actions).taken m := by
  induction actions generalizing b with
  | nil => exact Nat.le_refl _
  | cons s rest ih =>
    exact Nat.le_trans (taken_le_step reachable s.1 s.2 m) (ih (reachable.step s.1 s.2))

/-- Nothing is accepted since a subscription that is not taken yet. -/
theorem acceptedSince_of_le (reachable : b.Reachable) {actions : List (Environment × Action)}
    (untaken : (b.run actions).taken m ≤ i) : acceptedSince m i b actions = [] := by
  induction actions generalizing b with
  | nil => rfl
  | cons s rest ih =>
    have before : ¬i < b.taken m :=
      Nat.not_lt_of_le (Nat.le_trans (taken_le_run reachable (s :: rest) m) untaken)
    rw [acceptedSince, collect, if_neg before, List.nil_append]
    exact ih (reachable.step s.1 s.2) untaken

/-- Everything is accepted since a subscription that is taken already. -/
theorem acceptedSince_of_lt (reachable : b.Reachable) (taken : i < b.taken m)
    (actions : List (Environment × Action)) :
    acceptedSince m i b actions = acceptedStates m b actions := by
  induction actions generalizing b with
  | nil => rfl
  | cons s rest ih =>
    have later : i < (b.step s.1 s.2).taken m :=
      Nat.lt_of_lt_of_le taken (taken_le_step reachable s.1 s.2 m)
    rw [acceptedSince, collect, if_pos taken, acceptedStates, collect]
    exact congrArg _ (ih (reachable.step s.1 s.2) later)

theorem acceptedSince_append (m i : Nat) (b : Bridge) (first second : List (Environment × Action)) :
    acceptedSince m i b (first ++ second) =
      acceptedSince m i b first ++ acceptedSince m i (b.run first) second :=
  b.collect_append _ first second

/-- A request that is accepted opens the window of its machine and has it presented. -/
theorem step_of_acceptedRequest (env : Environment)
    (accepted : b.acceptedRequest? m act = some a) :
    ∃ machine id spec, b.admitted m PlatformVersion.forStopAndGraphics = .ok machine ∧
      b.step env act = ((b.openWindow m machine.window a spec).present m a id spec).1 := by
  unfold acceptedRequest? at accepted
  split at accepted
  · next k j width height options =>
    obtain ⟨⟨j', spec⟩, start, rfl⟩ := Option.map_eq_some_iff.1 accepted
    unfold acceptedStart? at start
    dsimp only at start
    split at start
    · next machine admitted =>
      split at start
      · next both =>
        obtain ⟨rfl, positive⟩ := both
        cases start
        refine ⟨machine, (b.windowToken k machine.window).2, .ofOptions width height options,
          admitted, ?_⟩
        rw [step, startGraphics, admitted]
        simp only [positive, if_true]
        rfl
      · cases start
    · cases start
  · next k =>
    split at accepted
    · next machine admitted =>
      split at accepted
      · next same =>
        subst same
        obtain ⟨⟨j, id, spec⟩, known, rfl⟩ := Option.map_eq_some_iff.1 accepted
        refine ⟨machine, id, spec, admitted, ?_⟩
        rw [openWindow, windowToken_of_reopening k known, step, showWindow, admitted]
        simp only [known]
      · cases accepted
    · cases accepted
  · cases accepted

/-- A request that is accepted takes a subscription. -/
theorem taken_of_acceptedRequest (env : Environment)
    (accepted : b.acceptedRequest? m act = some a) :
    (b.step env act).taken m = b.taken m + 1 := by
  obtain ⟨machine, id, spec, admitted, presents⟩ := step_of_acceptedRequest env accepted
  have opened := (b.edits_openWindow m machine.window a spec).states? rfl
  have known : b.states? m = some machine.state :=
    states?_of_found (admitted_eq_ok_iff.1 admitted).1
  rw [presents, taken_present ((congrFun opened m).trans known), taken_congr opened]

/-- What is accepted since the request that took a subscription is what is accepted after it. -/
theorem acceptedSince_of_request {before after : List (Environment × Action)}
    (accepted : (({} : Bridge).run before).acceptedRequest? m act = some a) :
    acceptedSince m ((({} : Bridge).run before).taken m) {} (before ++ (env, act) :: after) =
      acceptedStates m ((({} : Bridge).run before).step env act) after := by
  have reachable : (({} : Bridge).run before).Reachable := ⟨before, rfl⟩
  have first : acceptedSince m ((({} : Bridge).run before).taken m) {} before = [] :=
    acceptedSince_of_le ⟨[], rfl⟩ (Nat.le_refl _)
  have taken := taken_of_acceptedRequest env accepted
  rw [acceptedSince_append, first, List.nil_append, acceptedSince, collect,
    if_neg (Nat.lt_irrefl _), List.nil_append]
  exact acceptedSince_of_lt (reachable.step env act) (by omega) after

/-! ## a machine that goes on -/

/-- The teardown of a machine has not begun. -/
def Ongoing (b : Bridge) (m : Nat) : Prop :=
  ∀ machine, b.machines[m]? = some machine → machine.phase.isEnding = false

instance (b : Bridge) (m : Nat) : Decidable (b.Ongoing m) :=
  inferInstanceAs (Decidable (∀ machine ∈ b.machines[m]?, machine.phase.isEnding = false))

/-- A machine that goes on after a step went on before it. -/
theorem Ongoing.of_step (ongoing : (b.step env act).Ongoing m) : b.Ongoing m := by
  intro machine found
  by_contra ends
  have ending : machine.phase.isEnding = true := by simpa using ends
  obtain ⟨l, later, ending'⟩ := ending_run (life?_of_found found) ending [(env, act)]
  obtain ⟨machine', found', rfl⟩ := Option.map_eq_some_iff.1 later
  rw [show machine'.life.phase.isEnding = false from ongoing machine' found'] at ending'
  cases ending'

/-- A machine that goes on is not finalized. -/
theorem Ongoing.not_finalized (ongoing : b.Ongoing m) : ¬b.Finalized m := by
  rintro ⟨s, known, finalized⟩
  obtain ⟨machine, found, rfl⟩ := Option.map_eq_some_iff.1 known
  have going := ongoing machine found
  rw [show machine.phase = .finalized from finalized] at going
  cases going

/-- A machine that goes on has the token of its window. -/
theorem Ongoing.token? {s : MachineSkeleton} (ongoing : b.Ongoing m)
    (known : b.skeleton? m = some s) (keeps : KeepsToken id s) :
    b.token? (.windowBinding m) = some id := by
  obtain ⟨machine, found, rfl⟩ := Option.map_eq_some_iff.1 known
  have going := ongoing machine found
  obtain token | releasing | finalized := keeps
  · rw [Bridge.token?, known]
    exact token
  · rw [show machine.phase = .releasing from releasing] at going
    cases going
  · rw [show machine.phase = .finalized from finalized] at going
    cases going

/-! ## the token of a window that is followed -/

/-- A window of a machine is presented by a task, or it has a watcher. -/
def Wanted (b : Bridge) (m : Nat) (id : Handle) : Prop :=
  (∃ k spec i, .present id spec m i ∈ b.tasks k) ∨
    ∃ (w : Nat) (x : Watcher), b.watchers[w]? = some x ∧ x.machine = m ∧ x.id = id

/-- A window is wanted since its request. -/
theorem wanted_step (wanted : (b.step env act).Wanted m id) :
    b.Wanted m id ∨ ∃ k spec i, Posts b act k (b.step env act) (.present id spec m i) := by
  obtain ⟨k, spec, i, mem⟩ | ⟨w, x', found', rfl, rfl⟩ := wanted
  · obtain fewer | ⟨t, posts, more⟩ := (b.appStep_step env act k).tasks
    · exact .inl (.inl ⟨k, spec, i, fewer.subset mem⟩)
    · rw [more, List.mem_append, List.mem_singleton] at mem
      obtain mem | rfl := mem
      · exact .inl (.inl ⟨k, spec, i, mem⟩)
      · exact .inr ⟨k, spec, i, posts⟩
  · obtain ⟨x, found, later⟩ | ⟨k, id, spec, m, i, -, task, -, -, rfl⟩ :=
      (b.watcherStep_step env act).watcher_before found'
    · exact .inl (.inr ⟨w, x, found, later.machine.symm, later.id.symm⟩)
    · exact .inl (.inl ⟨k, spec, i, task ▸ List.mem_cons_self⟩)

/-- After every run the machine of a window keeps its token as long as it goes on. -/
theorem keepsToken_of_wanted {actions : List (Environment × Action)}
    (wanted : (({} : Bridge).run actions).Wanted m id) :
    ∃ s, (({} : Bridge).run actions).skeleton? m = some s ∧ KeepsToken id s := by
  induction actions using List.reverseRecOn with
  | nil =>
    obtain ⟨k, spec, i, mem⟩ | ⟨w, x, found, -⟩ := wanted
    · cases mem
    · cases found
  | append_singleton before s ih =>
    rw [run_append] at wanted ⊢
    have wanted : ((({} : Bridge).run before).step s.1 s.2).Wanted m id := wanted
    obtain earlier | ⟨k, spec, i, posts⟩ := wanted_step wanted
    · obtain ⟨t, known, keeps⟩ := ih earlier
      exact keepsToken_step known keeps s.1 s.2
    · obtain ⟨t, known, token⟩ := Option.bind_eq_some_iff.1 posts.token?
      exact ⟨t, known, .inl token⟩

/-! ## what a window is owed -/

/-- A subscription to the states of a machine is owed these states. -/
def OwesStates (b : Bridge) (m i : Nat) (ahead : List ExecutionState) : Prop :=
  ∃ s, b.states? m = some s ∧ s.channel.Owes i ahead

variable {ahead : List ExecutionState}

/-- A subscription that nobody uses is owed one more state, if one is accepted. -/
theorem OwesStates.step (h : b.OwesStates m i ahead) (reachable : b.Reachable)
    (unused : ¬b.Uses act m i) :
    (b.step env act).OwesStates m i (ahead ++ b.acceptedState m act) := by
  obtain ⟨s, known, owes⟩ := h
  exact owes_step reachable env known owes unused

/-- A receive takes the state that is owed first, if there is one. -/
theorem OwesStates.receive (h : b.OwesStates m i ahead) (reachable : b.Reachable)
    (unfinished : ¬b.Finalized m) :
    (b.receiveState m i).2 = .next false ahead ∧
      (b.receiveState m i).1.OwesStates m i ahead.tail := by
  obtain ⟨s, known, owes⟩ := h
  have isOpen : s.channel.closed = false :=
    Bool.eq_false_iff.2 fun closed => unfinished ((reachable.closed_iff known).1 closed)
  refine ⟨?_, { s with channel := (s.channel.receive i).1 }, ?_, owes.receive.2⟩
  · rw [receiveState_snd known, owes.receive.1, isOpen]
  · rw [receiveState_eq, states?_modifyMachine b m m
      (g := fun s => { s with channel := (s.channel.receive i).1 }) fun _ => rfl, if_pos rfl, known]
    rfl

/-- A state that is received is the one that is owed first. -/
theorem OwesStates.value {e : ExecutionState} (h : b.OwesStates m i ahead)
    (reachable : b.Reachable) (unfinished : ¬b.Finalized m)
    (received : (b.receiveState m i).2 = .value e) :
    ∃ rest, ahead = e :: rest ∧ (b.receiveState m i).1.OwesStates m i rest := by
  obtain ⟨next, owes⟩ := h.receive reachable unfinished
  rw [next] at received
  cases ahead with
  | nil => cases received
  | cons first rest =>
    cases received
    exact ⟨rest, rfl, owes⟩

/-- A step respects the windows of a machine in an application: nobody asks the main loop to
quit, and callers leave the subscriptions of the bridge alone. -/
structure Respects (m a : Nat) (b : Bridge) (_ : Environment) (act : Action) : Prop where
  unasked : act ≠ .quit a
  own : ∀ i, act = .receiveState m i ∨ act = .dropStates m i → ¬b.Refers m i

/-- An action that neither asks the main loop to quit nor uses a subscription of a caller. -/
def Unconcerned (m a : Nat) (act : Action) : Prop :=
  act ≠ .quit a ∧ ∀ i, act ≠ .receiveState m i ∧ act ≠ .dropStates m i

/-- A run of such actions respects all windows of the machine. -/
theorem respects_of_unconcerned (all : ∀ s ∈ actions, Unconcerned m a s.2) :
    b.Along (Respects m a) actions := by
  refine along_of_forall (fun _ _ _ h => ⟨h.1, fun i uses => ?_⟩) all
  exact absurd uses (not_or.2 (h.2 i))

/-- A subscription that the bridge refers to is used by the bridge itself only. -/
theorem Respects.unused (respects : Respects m a b env act) (reachable : b.Reachable)
    (refers : b.Refers m i) (unconsumed : ¬b.Consumes m i act) : ¬b.Uses act m i := by
  rintro (consumes | new | receive | drop)
  · exact unconsumed consumes
  · exact Nat.not_le_of_lt (reachable.refers_lt refers) new
  · exact respects.own i (.inl receive) refers
  · exact respects.own i (.inr drop) refers

/-- The windows of a machine are followed: what is accepted since the request is owed to the
task that presents a window, and to its watcher as far as that did not pass over it; and the
task that closes a window has a terminal state behind it. -/
structure Followed (b : Bridge) (m : Nat) (since : Nat → List ExecutionState) : Prop where
  fresh : ∀ i, b.taken m ≤ i → since i = []
  queued : ∀ k id spec i, .present id spec m i ∈ b.tasks k → b.OwesStates m i (since i)
  running : ∀ (w : Nat) (x : Watcher), b.watchers[w]? = some x → x.machine = m →
    x.running = true → ∃ seen ahead, b.OwesStates m x.subscription ahead ∧
      seen ++ ahead = since x.subscription ∧ ∀ e ∈ seen, e.isTerminal = false
  stopping : ∀ k id w, .closeForStop id w ∈ b.tasks k → ∃ x, b.watchers[w]? = some x ∧
    x.application = k ∧ x.id = id ∧
      (x.machine = m → ∃ e ∈ since x.subscription, e.isTerminal = true)

/-- What is accepted since each request, one step later. -/
def sinceStep (b : Bridge) (m : Nat) (act : Action) (since : Nat → List ExecutionState) (i : Nat) :
    List ExecutionState := since i ++ if i < b.taken m then b.acceptedState m act else []

theorem sinceStep_of_silent (silent : b.acceptedState m act = []) :
    sinceStep b m act since = since := by
  funext i
  rw [sinceStep, silent, ite_self, List.append_nil]

theorem sinceStep_of_lt (taken : i < b.taken m) :
    sinceStep b m act since i = since i ++ b.acceptedState m act := by
  rw [sinceStep, if_pos taken]

theorem refers_of_watcher (found : b.watchers[w]? = some x) : b.Refers x.machine x.subscription :=
  .inl (List.mem_map_of_mem (List.mem_of_getElem? found))

theorem refers_of_task (queued : .present id spec m i ∈ b.tasks k) : b.Refers m i :=
  refers_iff.2 (.inr ⟨k, mem_brought.2 ⟨id, spec, queued⟩⟩)

/-! ### tasks that present a window -/

/-- A task that presents a window is owed what is accepted since its request. -/
theorem Followed.queued_step (h : b.Followed m since) (reachable : b.Reachable)
    (distinct : b.Distinct) (respects : Respects m a b env act)
    (mem : .present id spec m i ∈ (b.step env act).tasks k) :
    (b.step env act).OwesStates m i (sinceStep b m act since i) := by
  have earlier (queued : .present id spec m i ∈ b.tasks k) :
      (b.step env act).OwesStates m i (sinceStep b m act since i) := by
    have refers := refers_of_task queued
    have unused := respects.unused reachable refers (distinct.unconsumed_of_task env act queued mem)
    rw [sinceStep_of_lt (reachable.refers_lt refers)]
    exact (h.queued k id spec i queued).step reachable unused
  cases b.broughtStep_step env act with
  | fewer queued _ => exact earlier (queued k _ rfl mem)
  | @more n j id' spec' s _ known subscribed tasks =>
    rw [tasks] at mem
    split at mem
    · rw [List.mem_append, List.mem_singleton] at mem
      obtain queued | new := mem
      · exact earlier queued
      · cases new
        have none : sinceStep b m act since (b.taken m) = [] := by
          rw [sinceStep, h.fresh _ (Nat.le_refl _), if_neg (Nat.lt_irrefl _)]
          rfl
        rw [none]
        refine ⟨_, subscribed, ?_⟩
        rw [taken, known]
        exact s.channel.owes_subscribe
    · exact earlier mem

/-! ### watchers -/

/-- A watcher that ends runs no longer. -/
theorem ended_of_endWatcher {watcher : Watcher}
    (ended : (b.endWatcher w watcher).watchers[w]? = some x) : x.running = false := by
  obtain ⟨y, -, ⟨-, rfl⟩ | ⟨other, -⟩⟩ := modified_watcher ended
  · rfl
  · exact absurd rfl other

/-- A watcher that takes its turn and still runs has passed over the states that it saw. -/
theorem Followed.running_watch (h : b.Followed m since) (reachable : b.Reachable)
    (unfinished : ¬b.Finalized m) (found' : (b.watch w).watchers[w]? = some x)
    (machine : x.machine = m) (running : x.running = true) :
    ∃ seen ahead, (b.watch w).OwesStates m x.subscription ahead ∧
      seen ++ ahead = since x.subscription ∧ ∀ e ∈ seen, e.isTerminal = false := by
  have turned := b.watchStep_watch w
  generalize b.watch w = b' at turned found' ⊢
  have ended {c : Bridge} {watcher : Watcher}
      (ended : (c.endWatcher w watcher).watchers[w]? = some x) : False := by
    rw [ended_of_endWatcher ended] at running
    cases running
  cases turned with
  | waits _ => exact h.running w x found' machine running
  | @passes watcher e found _ _ received goesOn =>
    rw [watchers_receiveState] at found'
    cases found.symm.trans found'
    obtain ⟨seen, ahead, owes, total, quiet⟩ := h.running w x found machine running
    rw [machine] at received ⊢
    obtain ⟨rest, rfl, owes'⟩ := owes.value reachable unfinished received
    refine ⟨seen ++ [e], rest, owes', ?_, ?_⟩
    · rw [List.append_assoc]
      exact total
    · intro f mem
      obtain mem | last := List.mem_append.1 mem
      · exact quiet f mem
      · rw [List.mem_singleton.1 last]
        exact goesOn
  | stops _ _ _ _ _ => exact (ended found').elim
  | ends _ _ _ _ => exact (ended found').elim
  | closed _ _ _ => exact (ended found').elim

/-- A watcher that runs is owed what it has not seen. -/
theorem Followed.running_step (h : b.Followed m since) (reachable : b.Reachable)
    (distinct : b.Distinct) (unfinished : ¬b.Finalized m) (respects : Respects m a b env act)
    (found' : (b.step env act).watchers[w]? = some x) (machine : x.machine = m)
    (running : x.running = true) :
    ∃ seen ahead, (b.step env act).OwesStates m x.subscription ahead ∧
      seen ++ ahead = sinceStep b m act since x.subscription ∧
        ∀ e ∈ seen, e.isTerminal = false := by
  by_cases own : act = .watch w
  · subst own
    rw [sinceStep_of_silent rfl]
    exact h.running_watch reachable unfinished found' machine running
  · obtain ⟨y, found, later⟩ | ⟨k, id, spec, n, i, rfl, task, states, -, rfl⟩ :=
      (b.watcherStep_step env act).watcher_before found'
    · obtain ⟨seen, ahead, owes, total, quiet⟩ :=
        h.running w y found (later.machine.symm.trans machine) (later.running running)
      have refers := refers_of_watcher found
      have unconsumed := distinct.unconsumed_of_watcher found own
      rw [← later.machine, machine] at refers unconsumed
      have unused := respects.unused reachable refers unconsumed
      rw [later.subscription, sinceStep_of_lt (reachable.refers_lt refers), ← total]
      exact ⟨seen, _, owes.step reachable unused, (List.append_assoc ..).symm, quiet⟩
    · -- the watcher is started with what the task was owed
      subst machine
      obtain ⟨s, known, owes⟩ := h.queued k id spec i (task ▸ List.mem_cons_self)
      rw [sinceStep_of_silent rfl]
      exact ⟨[], since i, ⟨s, states ▸ known, owes⟩, rfl, by simp⟩

/-! ### tasks that close a window -/

theorem tasks_dispatch (b : Bridge) (a : Nat) (t : MainTask) (k : Nat) :
    (b.dispatch a t).1.tasks k = b.tasks k ∨
      k = a ∧ (b.dispatch a t).1.tasks k = b.tasks k ++ [t] := by
  obtain same | ⟨own, x, there, there'⟩ := b.postsAt_dispatch a t k
  · exact .inl (tasks_congr same)
  · right
    rw [tasks_of_found there', tasks_of_found there]
    exact ⟨own, Application.tasks_post x t⟩

/-- A watcher hands over the task that closes its window when it sees a terminal state. -/
theorem Followed.stopping_watch (h : b.Followed m since) (reachable : b.Reachable)
    (unfinished : ¬b.Finalized m) {j : Nat} (mem : .closeForStop id w ∈ (b.watch j).tasks k) :
    .closeForStop id w ∈ b.tasks k ∨ w = j ∧ ∃ x, b.watchers[w]? = some x ∧ x.application = k ∧
      x.id = id ∧ (x.machine = m → ∃ e ∈ since x.subscription, e.isTerminal = true) := by
  have turned := b.watchStep_watch j
  generalize b.watch j = b' at turned mem
  cases turned with
  | waits _ => exact .inl mem
  | passes _ _ _ _ _ =>
    rw [tasks_receiveState] at mem
    exact .inl mem
  | @stops watcher e found running _ received terminal =>
    have handed := (b.receiveState watcher.machine watcher.subscription).1.tasks_dispatch
      watcher.application (.closeForStop watcher.id j) k
    obtain same | ⟨rfl, more⟩ := handed
    · rw [tasks_receiveState] at same
      exact .inl (same ▸ mem)
    · rw [tasks_receiveState] at more
      have mem : .closeForStop id w ∈ b.tasks watcher.application ++ [.closeForStop watcher.id j] :=
        more ▸ mem
      rw [List.mem_append, List.mem_singleton] at mem
      obtain queued | new := mem
      · exact .inl queued
      · cases new
        refine .inr ⟨rfl, watcher, found, rfl, rfl, fun machine => ?_⟩
        obtain ⟨seen, ahead, owes, total, -⟩ := h.running w watcher found machine running
        rw [machine] at received
        obtain ⟨rest, rfl, -⟩ := owes.value reachable unfinished received
        exact ⟨e, total ▸ List.mem_append_right _ List.mem_cons_self, terminal⟩
  | @ends watcher _ _ _ _ =>
    have queue : ((b.receiveState watcher.machine watcher.subscription).1.endWatcher j
        watcher).tasks k = b.tasks k := b.tasks_receiveState _ _ k
    exact .inl (queue ▸ mem)
  | closed _ _ _ => exact .inl mem

/-- A task that closes a window has a terminal state behind it. -/
theorem Followed.stopping_step (h : b.Followed m since) (reachable : b.Reachable)
    (unfinished : ¬b.Finalized m) (mem : .closeForStop id w ∈ (b.step env act).tasks k) :
    ∃ x, (b.step env act).watchers[w]? = some x ∧ x.application = k ∧ x.id = id ∧
      (x.machine = m → ∃ e ∈ sinceStep b m act since x.subscription, e.isTerminal = true) := by
  have known (before : ∃ x, b.watchers[w]? = some x ∧ x.application = k ∧ x.id = id ∧
      (x.machine = m → ∃ e ∈ since x.subscription, e.isTerminal = true)) :
      ∃ x, (b.step env act).watchers[w]? = some x ∧ x.application = k ∧ x.id = id ∧
        (x.machine = m → ∃ e ∈ sinceStep b m act since x.subscription, e.isTerminal = true) := by
    obtain ⟨x, found, own, same, terminal⟩ := before
    obtain ⟨x', found', later⟩ := watcher_step env act found
    refine ⟨x', found', later.application.trans own, later.id.trans same, fun machine => ?_⟩
    obtain ⟨e, mem, ends⟩ := terminal (later.machine.symm.trans machine)
    rw [later.subscription]
    exact ⟨e, List.mem_append_left _ mem, ends⟩
  obtain fewer | ⟨t, posts, more⟩ := (b.appStep_step env act k).tasks
  · exact known (h.stopping k id w (fewer.subset mem))
  · have mem' := mem
    rw [more, List.mem_append, List.mem_singleton] at mem'
    obtain queued | rfl := mem'
    · exact known (h.stopping k id w queued)
    · cases posts with
      | other _ _ stop =>
        obtain rfl := stop id w rfl
        obtain queued | ⟨-, before⟩ := h.stopping_watch reachable unfinished mem
        · exact known (h.stopping k id w queued)
        · exact known before

/-- Windows are followed, one step later. -/
theorem Followed.step (h : b.Followed m since) (reachable : b.Reachable) (distinct : b.Distinct)
    (unfinished : ¬b.Finalized m) (respects : Respects m a b env act) :
    (b.step env act).Followed m (sinceStep b m act since) where
  fresh i untaken := by
    have before : b.taken m ≤ i := Nat.le_trans (taken_le_step reachable env act m) untaken
    rw [sinceStep, h.fresh i before, if_neg (Nat.not_lt_of_le before)]
    rfl
  queued _ _ _ _ mem := h.queued_step reachable distinct respects mem
  running _ _ found machine running :=
    h.running_step reachable distinct unfinished respects found machine running
  stopping _ _ _ mem := h.stopping_step reachable unfinished mem

theorem acceptedSince_append_singleton (m : Nat) (before : List (Environment × Action))
    (s : Environment × Action) :
    (fun i => acceptedSince m i {} (before ++ [s])) =
      sinceStep (({} : Bridge).run before) m s.2 fun i => acceptedSince m i {} before :=
  funext fun _ => collect_append_singleton ..

/-- After every run that respects them the windows of a machine are followed as long as the
machine goes on. -/
theorem followed_run {actions : List (Environment × Action)}
    (respects : ({} : Bridge).Along (Respects m a) actions)
    (ongoing : (({} : Bridge).run actions).Ongoing m) :
    (({} : Bridge).run actions).Followed m fun i => acceptedSince m i {} actions := by
  induction actions using List.reverseRecOn with
  | nil =>
    refine ⟨fun _ _ => rfl, fun k id spec i mem => ?_, fun w x found => ?_, fun k id w mem => ?_⟩
    · cases mem
    · cases found
    · cases mem
  | append_singleton before s ih =>
    rw [along_append] at respects
    rw [run_append] at ongoing ⊢
    have going : (({} : Bridge).run before).Ongoing m := Ongoing.of_step ongoing
    rw [acceptedSince_append_singleton]
    exact (ih respects.1 going).step ⟨before, rfl⟩ (distinct_run before) going.not_finalized
      respects.2.1

/-! ## windows that outlive their watcher -/

/-- A watcher ends in its own turn. -/
theorem WatcherStep.ends {x' : Watcher} (h : WatcherStep b act b') (found : b.watchers[w]? = some x)
    (running : x.running = true) (found' : b'.watchers[w]? = some x') (ended : x'.running = false) :
    act = .watch w := by
  have impossible (same : x'.running = x.running) : act = .watch w := by
    rw [ended, running] at same
    cases same
  cases h with
  | undisturbed same =>
    rw [same.watchers] at found'
    cases found.symm.trans found'
    exact impossible rfl
  | @ended j cause same =>
    rw [same.watchers] at found'
    obtain ⟨y, known, ⟨rfl, -⟩ | ⟨-, rfl⟩⟩ := modified_watcher found'
    · exact cause
    · cases found.symm.trans known
      exact impossible rfl
  | created _ _ _ creates =>
    rw [creates.watchers, List.getElem?_append_left (List.getElem?_eq_some_iff.1 found).1] at found'
    cases found.symm.trans found'
    exact impossible rfl
  | closed _ shuts =>
    rw [shuts.watchers] at found'
    obtain ⟨y, known, ⟨-, rfl⟩ | ⟨-, rfl⟩⟩ := modified_watcher found'
    · cases found.symm.trans known
      exact impossible rfl
    · cases found.symm.trans known
      exact impossible rfl

/-- A running loop takes the first task of its queue, which runs, or it puts others behind
them. -/
theorem tasks_step (alive : ∀ y, b.applications[a]? = some y → Alive y) (env : Environment)
    (act : Action) :
    (∃ new, (b.step env act).tasks a = b.tasks a ++ new) ∨
      act = .mainTurn a ∧ ∃ t y y', b.tasks a = t :: (b.step env act).tasks a ∧
        b.applications[a]? = some y ∧ (b.step env act).applications[a]? = some y' ∧
          y.Runs t y' := by
  have same {ts : List MainTask} (kept : ts = b.tasks a) : ∃ new, ts = b.tasks a ++ new :=
    ⟨[], by rw [kept, List.append_nil]⟩
  cases b.appStep_step env act a with
  | none absent absent' =>
    left
    exact same (by rw [tasks, tasks, absent, absent'])
  | added absent fresh =>
    left
    refine same ?_
    rw [tasks, tasks, absent, fresh]
    rfl
  | @changed y y' there there' change =>
    rw [tasks_of_found there] at same ⊢
    rw [tasks_of_found there']
    cases change with
    | idle idle => exact .inl (same (by rw [idle.queue]))
    | posted _ => exact .inl ⟨_, Application.tasks_post y _⟩
    | quit _ => exact .inl (same (Application.tasks_quit y.queue))
    | userClosed _ queue _ => exact .inl (same (by rw [queue]))
    | ran cause task queue runs =>
      refine .inr ⟨cause, _, y, y', ?_, there, there', runs⟩
      rw [queue]
      exact Application.tasks_of_messages task
    | ended _ ends =>
      obtain none | asked := ends
      · exact absurd none (alive y there).handled
      · exact absurd asked (alive y there).unasked

/-- A task stays queued in a running loop until it is the first one and runs. -/
theorem task_kept {t : MainTask}
    (alive : ∀ y, b.applications[a]? = some y → Alive y) (mem : t ∈ b.tasks a) :
    t ∈ (b.step env act).tasks a ∨
      act = .mainTurn a ∧ b.tasks a = t :: (b.step env act).tasks a ∧
        ∃ y y', b.applications[a]? = some y ∧ (b.step env act).applications[a]? = some y' ∧
          y.Runs t y' := by
  obtain ⟨new, more⟩ | ⟨cause, u, y, y', first, there, there', runs⟩ := tasks_step alive env act
  · exact .inl (more ▸ List.mem_append_left new mem)
  · rw [first] at mem
    obtain rfl | later := List.mem_cons.1 mem
    · exact .inr ⟨cause, first, y, y', there, there', runs⟩
    · exact .inl later

/-- A window is gone once the task that closes it for its watcher has run. -/
theorem watcher?_of_closeForStop {y y' : Application} (runs : y.Runs (.closeForStop id w) y') :
    y'.watcher? id ≠ some w := by
  cases runs with
  | stops _ closes =>
    rw [closes.absent]
    exact Option.some_ne_none w |>.symm
  | leaves skips same =>
    rw [same.watchers]
    exact skips

/-- A running loop accepts every task. -/
theorem mem_tasks_dispatch {y : Application} (there : b.applications[a]? = some y)
    (alive : Alive y) (t : MainTask) : t ∈ (b.dispatch a t).1.tasks a := by
  obtain ⟨z, there', -, posts⟩ | ⟨refusing, -⟩ := b.dispatch_cases a t
  · cases there.symm.trans there'
    have posted : (b.dispatch a t).1.applications[a]? = some (y.post t) := by
      rw [posts]
      dsimp only
      rw [getElem?_modifyApplication, if_pos rfl, there]
      rfl
    rw [tasks_of_found posted, Application.tasks_post]
    exact List.mem_append_right _ List.mem_cons_self
  · have closed := refusing y there
    rw [alive.isOpen] at closed
    cases closed

/-- The windows of a machine in an application are pursued: a watcher that ended while its
window is open has the task queued that closes it, and a window was closed by a call only
after a terminal state. -/
structure Pursued (b : Bridge) (m a : Nat) (since : Nat → List ExecutionState)
    (shut : List (Nat × WindowEvent)) : Prop where
  ended : ∀ (w : Nat) (x : Watcher), b.watchers[w]? = some x → x.application = a → x.machine = m →
    x.isOpen = true → x.running = false → .closeForStop x.id w ∈ b.tasks a
  stopped : ∀ (w : Nat) (id : Handle) (x : Watcher), (w, .called (.close id)) ∈ shut →
    b.watchers[w]? = some x → x.machine = m → ∃ e ∈ since x.subscription, e.isTerminal = true

/-- What a watcher leaves behind that ends in its own turn while its window is open. -/
theorem Followed.ended_watch {x' : Watcher} (h : b.Followed m since) (reachable : b.Reachable)
    (unfinished : ¬b.Finalized m) (attended : b.Attended)
    (alive : ∀ y, b.applications[a]? = some y → Alive y) (found : b.watchers[w]? = some x)
    (own : x.application = a) (machine : x.machine = m) (running : x.running = true)
    (isOpen : x.isOpen = true) (found' : (b.watch w).watchers[w]? = some x')
    (ended : x'.running = false) : .closeForStop x.id w ∈ (b.watch w).tasks a := by
  have turned := b.watchStep_watch w
  generalize b.watch w = b' at turned found' ⊢
  cases turned with
  | waits _ =>
    cases found.symm.trans found'
    rw [running] at ended
    cases ended
  | passes known _ _ _ _ =>
    rw [watchers_receiveState] at found'
    cases found.symm.trans found'
    rw [running] at ended
    cases ended
  | stops known _ _ _ _ =>
    cases found.symm.trans known
    subst own
    obtain ⟨y, there, -⟩ := there_of_watcherOf? ((attended _ _ _).2 ⟨x, found, rfl, rfl, isOpen⟩)
    have received :
        (b.receiveState x.machine x.subscription).1.applications[x.application]? = some y := by
      rw [applications_receiveState]
      exact there
    exact mem_tasks_dispatch received (alive y there) _
  | ends known _ _ received =>
    cases found.symm.trans known
    obtain ⟨seen, ahead, owes, -, -⟩ := h.running w x found machine running
    rw [machine, (owes.receive reachable unfinished).1] at received
    cases ahead with
    | nil => cases received
    | cons first rest => cases received
  | closed known _ shut =>
    cases found.symm.trans known
    rw [isOpen] at shut
    cases shut

/-- A watcher that ended with its window open has its task queued. -/
theorem Pursued.ended_step {x' : Watcher} {shut : List (Nat × WindowEvent)}
    (h : b.Pursued m a since shut) (followed : b.Followed m since) (reachable : b.Reachable)
    (unfinished : ¬b.Finalized m) (attended : b.Attended)
    (alive : ∀ y, b.applications[a]? = some y → Alive y)
    (found' : (b.step env act).watchers[w]? = some x') (own : x'.application = a)
    (machine : x'.machine = m) (isOpen : x'.isOpen = true) (ended : x'.running = false) :
    .closeForStop x'.id w ∈ (b.step env act).tasks a := by
  have step := b.watcherStep_step env act
  obtain ⟨x, found, later⟩ | ⟨k, id, spec, n, i, -, -, -, -, rfl⟩ := step.watcher_before found'
  · have mine : x.application = a := later.application.symm.trans own
    have its : x.machine = m := later.machine.symm.trans machine
    rw [later.id]
    cases running : x.running with
    | true =>
      obtain rfl := step.ends found running found' ended
      exact followed.ended_watch reachable unfinished attended alive found mine its running
        (later.isOpen isOpen) found' ended
    | false =>
      obtain queued | ⟨-, -, y, y', -, there', runs⟩ :=
        task_kept alive (h.ended w x found mine its (later.isOpen isOpen) running)
      · exact queued
      · -- the window would be gone
        have held := (step.attended attended a x.id w).2 ⟨x', found', own, later.id, isOpen⟩
        rw [watcherOf?_of_found there'] at held
        exact absurd held (watcher?_of_closeForStop runs)
  · cases ended

/-- A window is not closed by the teardown of a machine that goes on. -/
theorem not_forget_of_ongoing {actions : List (Environment × Action)}
    (ongoing : (({} : Bridge).run actions).Ongoing m)
    (wanted : (({} : Bridge).run actions).Wanted m id) :
    .forget id ∉ (({} : Bridge).run actions).tasks a := by
  intro mem
  obtain ⟨s, known, keeps⟩ := keepsToken_of_wanted wanted
  obtain ⟨k, y, there, queued⟩ := queues_iff.2 ⟨a, mem⟩
  exact (retired_run there queued).unowned m (ongoing.token? known keeps)

/-- A window that a step closes by a call has a terminal state behind it. -/
theorem Followed.stopped_step {actions : List (Environment × Action)}
    (h : (({} : Bridge).run actions).Followed m since)
    (ongoing : (({} : Bridge).run actions).Ongoing m)
    (found : (({} : Bridge).run actions).watchers[w]? = some x) (machine : x.machine = m)
    (new : (w, .called (.close id)) ∈ shutBy a (({} : Bridge).run actions) env act) :
    ∃ e ∈ since x.subscription, e.isTerminal = true := by
  have attended := attended_run actions
  have wanted : (({} : Bridge).run actions).Wanted m x.id := .inr ⟨w, x, found, machine, rfl⟩
  have unforgotten (k : Nat) := not_forget_of_ongoing (a := k) ongoing wanted
  generalize ({} : Bridge).run actions = b at *
  have quiet (same : (b.step env act).closings a = b.closings a) :
      ∃ e ∈ since x.subscription, e.isTerminal = true := by
    rw [shutBy_of_same same] at new
    cases new
  cases b.watcherStep_step env act with
  | undisturbed same => exact quiet (same.closings a)
  | ended _ same => exact quiet (same.closings a)
  | created _ _ _ creates => exact quiet (creates.closings a)
  | @closed k j id' e cause shuts =>
    rw [shutBy_of_shuts shuts] at new
    split at new
    · cases List.mem_singleton.1 new
      obtain ⟨y, found', -, same, -⟩ := (attended k id' w).1 shuts.held
      cases found.symm.trans found'
      cases cause with
      | teardown task => exact absurd (same ▸ task) (unforgotten k)
      | stop task =>
        obtain ⟨y, found', -, -, terminal⟩ := h.stopping k id w task
        cases found.symm.trans found'
        exact terminal machine
    · cases new

/-- After every run that respects them the windows of a machine are pursued as long as the
machine goes on. -/
theorem pursued_run {actions : List (Environment × Action)}
    (respects : ({} : Bridge).Along (Respects m a) actions)
    (ongoing : (({} : Bridge).run actions).Ongoing m) :
    (({} : Bridge).run actions).Pursued m a (fun i => acceptedSince m i {} actions)
      (shut a {} actions) := by
  induction actions using List.reverseRecOn with
  | nil =>
    refine ⟨fun w x found => ?_, fun w id x mem => ?_⟩
    · cases found
    · cases mem
  | append_singleton before s ih =>
    rw [along_append] at respects
    rw [run_append] at ongoing ⊢
    have going : (({} : Bridge).run before).Ongoing m := Ongoing.of_step ongoing
    have followed := followed_run respects.1 going
    have pursued := ih respects.1 going
    have alive (y : Application) (there : (({} : Bridge).run before).applications[a]? = some y) :
        Alive y :=
      alive_run (respects.1.forall (Q := fun _ act => act ≠ .quit a) fun _ _ _ h => h.unasked) there
    rw [acceptedSince_append_singleton, Bridge.shut, collect_append_singleton]
    constructor
    · intro w x' found' own machine isOpen ended
      exact pursued.ended_step followed ⟨before, rfl⟩ going.not_finalized (attended_run before)
        alive found' own machine isOpen ended
    · intro w id x' mem found' machine
      have earlier (x : Watcher) (found : (({} : Bridge).run before).watchers[w]? = some x)
          (terminal : x.machine = m →
            ∃ e ∈ acceptedSince m x.subscription {} before, e.isTerminal = true) :
          ∃ e ∈ sinceStep (({} : Bridge).run before) m s.2
            (fun i => acceptedSince m i {} before) x'.subscription, e.isTerminal = true := by
        obtain ⟨y, known, later⟩ := watcher_step s.1 s.2 found
        cases known.symm.trans found'
        obtain ⟨e, mem, ends⟩ := terminal (later.machine.symm.trans machine)
        rw [later.subscription]
        exact ⟨e, List.mem_append_left _ mem, ends⟩
      obtain old | new := List.mem_append.1 mem
      · obtain ⟨x, found, -, -, -⟩ := (closedOnce_run a before).known w _ old
        exact earlier x found fun machine => pursued.stopped w id x old found machine
      · obtain ⟨id', -, held⟩ := watcherOf?_of_shutBy new
        obtain ⟨x, found, -⟩ := (attended_run before a id' w).1 held
        exact earlier x found fun machine => followed.stopped_step going found machine new

end Bridge

end MachineBridge
