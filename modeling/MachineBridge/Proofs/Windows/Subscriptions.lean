import MachineBridge.Proofs.Streams.States
import MachineBridge.Proofs.Windows.Presence
import MachineBridge.Proofs.Windows.Watchers

/-!
# MachineBridge.Proofs.Windows.Subscriptions

The subscription that belongs to a window.  It is taken by the request for the window, brought
along by the task that presents it, and followed by its watcher in the end.  No two tasks or
watchers have the same one (`distinct_run`), so nobody else takes a state away from it.
-/

namespace MachineBridge

/-- The subscription that a task brings along, with the number of its machine. -/
def MainTask.subscription? : MainTask → Option (Nat × Nat)
  | .present _ _ m i => some (m, i)
  | _ => none

namespace Bridge

variable {b b' : Bridge} {act : Action} {a k m i w : Nat} {id : Handle} {spec : WindowSpec}

/-- The subscriptions that the tasks of an application bring along, in order. -/
def brought (b : Bridge) (a : Nat) : List (Nat × Nat) := (b.tasks a).filterMap (·.subscription?)

/-- A subscription is brought along by a task that presents a window. -/
theorem mem_brought : (m, i) ∈ b.brought a ↔ ∃ id spec, .present id spec m i ∈ b.tasks a := by
  rw [brought, List.mem_filterMap]
  constructor
  · rintro ⟨t, mem, brings⟩
    cases t with
    | present id spec n j =>
      cases brings
      exact ⟨id, spec, mem⟩
    | _ => cases brings
  · rintro ⟨id, spec, mem⟩
    exact ⟨_, mem, rfl⟩

theorem refers_iff : b.Refers m i ↔ (m, i) ∈ b.watched ∨ ∃ a, (m, i) ∈ b.brought a := by
  refine or_congr_right ?_
  constructor
  · rintro ⟨id, spec, queued⟩
    obtain ⟨a, mem⟩ := queues_iff.1 queued
    exact ⟨a, mem_brought.2 ⟨id, spec, mem⟩⟩
  · rintro ⟨a, mem⟩
    obtain ⟨id, spec, mem⟩ := mem_brought.1 mem
    exact ⟨id, spec, queues_iff.2 ⟨a, mem⟩⟩

/-! ## what a step does to the tasks -/

/-- A step takes tasks from a queue, or puts one behind all others. -/
theorem AppStep.tasks (h : AppStep b act a b') :
    (b'.tasks a).Sublist (b.tasks a) ∨
      ∃ t, Posts b act a b' t ∧ b'.tasks a = b.tasks a ++ [t] := by
  have same (queued : b'.tasks a = b.tasks a) : (b'.tasks a).Sublist (b.tasks a) :=
    queued ▸ List.Sublist.refl _
  cases h with
  | none absent absent' =>
    left
    rw [Bridge.tasks, absent']
    exact List.nil_sublist _
  | added absent fresh =>
    left
    rw [tasks_of_found fresh]
    exact List.nil_sublist _
  | changed found found' change =>
    rw [tasks_of_found found, tasks_of_found found'] at same ⊢
    cases change with
    | idle idle => exact .inl (same (by rw [idle.queue]))
    | posted posts => exact .inr ⟨_, posts, Application.tasks_post _ _⟩
    | quit _ => exact .inl (same (Application.tasks_quit _))
    | userClosed _ queue _ => exact .inl (same (by rw [queue]))
    | ran _ task queue _ =>
      left
      rw [queue, Application.tasks_of_messages task]
      exact List.sublist_cons_self ..
    | ended _ _ => exact .inl (List.nil_sublist _)

/-- What a step does to the tasks that bring subscriptions along: it takes some away, or it
adds the one of a request that is accepted. -/
inductive BroughtStep (b : Bridge) (act : Action) (b' : Bridge) : Prop
  | fewer (queued : ∀ k t, t.subscription?.isSome = true → t ∈ b'.tasks k → t ∈ b.tasks k)
      (brought : ∀ k, (b'.brought k).Sublist (b.brought k))
  | more {m a : Nat} {id : Handle} {spec : WindowSpec} {s : StateStream}
      (accepted : b.acceptedRequest? m act = some a) (known : b.states? m = some s)
      (subscribed : b'.states? m = some s.subscribe.1)
      (tasks : ∀ k, b'.tasks k =
        if k = a then b.tasks k ++ [.present id spec m (b.taken m)] else b.tasks k)

/-- A step that hands over no task with a subscription. -/
theorem BroughtStep.of_others
    (others : ∀ k t, Posts b act k b' t → t.subscription? = none)
    (steps : ∀ k, AppStep b act k b') : BroughtStep b act b' := by
  refine .fewer (fun k t brings mem => ?_) fun k => ?_
  · obtain fewer | ⟨u, posts, more⟩ := (steps k).tasks
    · exact fewer.subset mem
    · rw [more, List.mem_append, List.mem_singleton] at mem
      obtain mem | rfl := mem
      · exact mem
      · rw [others k t posts] at brings
        cases brings
  · obtain fewer | ⟨u, posts, more⟩ := (steps k).tasks
    · exact fewer.filterMap _
    · have same : b'.brought k = b.brought k := by
        rw [brought, more, List.filterMap_append, List.filterMap_cons, others k u posts,
          List.filterMap_nil, List.append_nil, brought]
      exact same ▸ List.Sublist.refl _

theorem BroughtStep.of_same (same : ∀ k, b'.tasks k = b.tasks k) : BroughtStep b act b' :=
  .fewer (fun k _ _ mem => same k ▸ mem) fun k => by
    have brings : b'.brought k = b.brought k := by rw [brought, same, brought]
    exact brings ▸ List.Sublist.refl _

/-- A request hands over its task with a new subscription, or it is refused and the subscription
is dropped. -/
theorem tasks_present (b : Bridge) (m a : Nat) (id : Handle) (spec : WindowSpec) :
    ((∀ k, (b.present m a id spec).1.tasks k = b.tasks k) ∧ ∀ s, b.states? m = some s →
        (b.present m a id spec).1.states? m = some (s.subscribe.1.drop (b.taken m))) ∨
      (∀ k, (b.present m a id spec).1.tasks k =
        if k = a then b.tasks k ++ [.present id spec m (b.taken m)] else b.tasks k) ∧
      ∀ s, b.states? m = some s → (b.present m a id spec).1.states? m = some s.subscribe.1 := by
  have apps := b.applications_subscribeStates m
  obtain ⟨x, there, -, posts⟩ | ⟨-, e, refused⟩ := (b.subscribeStates m).1.dispatch_cases a
    (.present id spec m (b.subscribeStates m).2)
  · right
    have handed : (b.present m a id spec).1 = (b.subscribeStates m).1.modifyApplication a fun y =>
        { y with queue := { x.queue with messages := x.queue.messages ++
            [.run (.present id spec m (b.subscribeStates m).2)] } } := by
      rw [present]
      simp only [posts]
    rw [handed]
    refine ⟨fun k => ?_, fun s known => states?_subscribeStates known⟩
    rw [apps] at there
    by_cases own : k = a
    · subst own
      have after : ((b.subscribeStates m).1.modifyApplication k fun y =>
          { y with queue := { x.queue with messages := x.queue.messages ++
            [.run (.present id spec m (b.subscribeStates m).2)] } }).applications[k]? =
          some (x.post (.present id spec m (b.subscribeStates m).2)) := by
        rw [getElem?_modifyApplication, if_pos rfl, apps, there]
        rfl
      rw [if_pos rfl, tasks_of_found after, Application.tasks_post, tasks_of_found there,
        b.subscribeStates_snd m]
    · rw [if_neg own]
      refine tasks_congr ?_
      rw [getElem?_modifyApplication, if_neg (Ne.symm own), apps]
  · left
    have dropped : (b.present m a id spec).1 =
        ((b.subscribeStates m).1.dropStates m (b.taken m)).modifyMachine m fun x =>
          { x with window := x.window.closed } := by
      rw [present, ← b.subscribeStates_snd m]
      simp only [refused]
    rw [dropped]
    refine ⟨fun k => tasks_congr (congrArg (·[k]?) apps), fun s known => ?_⟩
    rw [states?_modifyMachine_of_same (f := fun x => { x with window := x.window.closed }) _ m
        fun _ => rfl, dropStates,
      states?_modifyMachine _ m m (g := fun s => s.drop (b.taken m)) fun _ => rfl, if_pos rfl,
      states?_subscribeStates known]
    rfl

/-- What a request that is let pass does to the tasks. -/
theorem broughtStep_openWindow {machine : Machine}
    (admitted : b.admitted m PlatformVersion.forStopAndGraphics = .ok machine)
    (accepted : b.acceptedRequest? m act = some a) :
    BroughtStep b act ((b.openWindow m machine.window a spec).present m a id spec).1 := by
  have streams := (b.edits_openWindow m machine.window a spec).states? rfl
  have opened (k : Nat) : (b.openWindow m machine.window a spec).tasks k = b.tasks k :=
    tasks_congr (by rw [applications_openWindow])
  have known : b.states? m = some machine.state :=
    states?_of_found (admitted_eq_ok_iff.1 admitted).1
  obtain ⟨same, -⟩ | ⟨more, subscribed⟩ :=
    (b.openWindow m machine.window a spec).tasks_present m a id spec
  · exact .of_same fun k => (same k).trans (opened k)
  · have tasks (k : Nat) : ((b.openWindow m machine.window a spec).present m a id spec).1.tasks k =
        if k = a then b.tasks k ++ [.present id spec m (b.taken m)] else b.tasks k := by
      rw [more, opened, taken_congr streams]
    exact .more accepted known (subscribed _ ((congrFun streams m).trans known)) tasks

theorem Posts.subscription? {t : MainTask} (h : Posts b act a b' t)
    (unrequested : ∀ m w spec, ¬Requests m w a spec act) : t.subscription? = none := by
  cases h with
  | present _ _ requests _ => exact absurd requests (unrequested _ _ _)
  | forget => rfl
  | other present _ =>
    cases t with
    | present id spec m i => exact absurd rfl (present id spec m i)
    | _ => rfl

/-- Every step takes tasks off queues, or queues one that was requested. -/
theorem broughtStep_step (env : Environment) (b : Bridge) (act : Action) :
    BroughtStep b act (b.step env act) := by
  cases act with
  | startGraphics m a width height options =>
    rw [step, startGraphics]
    cases admitted : b.admitted m PlatformVersion.forStopAndGraphics with
    | error e => exact .of_same fun _ => rfl
    | ok machine =>
      dsimp only
      split
      · next positive =>
        obtain ⟨found, admits⟩ := skeleton?_of_admitted admitted
        exact broughtStep_openWindow admitted
          (acceptedRequest?_of_requests found admits (.start positive rfl))
      · exact .of_same fun _ => rfl
  | showWindow m =>
    rw [step, showWindow]
    cases admitted : b.admitted m PlatformVersion.forStopAndGraphics with
    | error e => exact .of_same fun _ => rfl
    | ok machine =>
      dsimp only
      split
      · exact .of_same fun _ => rfl
      · next a id spec known =>
        obtain ⟨found, admits⟩ := skeleton?_of_admitted admitted
        have more : BroughtStep b (.showWindow m)
            ((b.openWindow m machine.window a spec).present m a id spec).1 :=
          broughtStep_openWindow admitted
            (acceptedRequest?_of_requests found admits (.again known))
        rw [openWindow, windowToken_of_reopening m known] at more
        exact more
  | _ =>
    refine .of_others (fun k t posts => posts.subscription? ?_) fun k => b.appStep_step env _ k
    intro m window spec requests
    cases requests

/-! ## no subscription belongs to two -/

/-- The subscriptions that watchers follow and tasks bring along are all different. -/
structure Distinct (b : Bridge) : Prop where
  unique : ∀ k, (b.watched ++ b.brought k).Nodup
  apart : ∀ j k, j ≠ k → (b.brought j).Disjoint (b.brought k)

theorem Distinct.watched_nodup (h : b.Distinct) : b.watched.Nodup :=
  (List.nodup_append.1 (h.unique 0)).1

theorem Distinct.brought_nodup (h : b.Distinct) (k : Nat) : (b.brought k).Nodup :=
  (List.nodup_append.1 (h.unique k)).2.1

/-- What a watcher follows no task brings along. -/
theorem Distinct.not_brought (h : b.Distinct) {p : Nat × Nat} (followed : p ∈ b.watched) (k : Nat) :
    p ∉ b.brought k := fun mem =>
  (List.nodup_append.1 (h.unique k)).2.2 p followed p mem rfl

theorem Distinct.of_fewer (h : b.Distinct) (watched : b'.watched = b.watched)
    (fewer : ∀ k, (b'.brought k).Sublist (b.brought k)) : b'.Distinct where
  unique k := by
    rw [watched]
    exact (h.unique k).sublist ((List.Sublist.refl _).append (fewer k))
  apart j k other p mem mem' := h.apart j k other ((fewer j).subset mem) ((fewer k).subset mem')

/-- A new subscription is brought along by a task of one application. -/
theorem Distinct.of_more (h : b.Distinct) (watched : b'.watched = b.watched)
    (fresh : ¬b.Refers m i)
    (more : ∀ k, b'.brought k = if k = a then b.brought k ++ [(m, i)] else b.brought k) :
    b'.Distinct := by
  have unwatched : (m, i) ∉ b.watched := fun mem => fresh (refers_iff.2 (.inl mem))
  have unbrought (k : Nat) : (m, i) ∉ b.brought k := fun mem => fresh (refers_iff.2 (.inr ⟨k, mem⟩))
  have earlier {k : Nat} {p : Nat × Nat} (mem : p ∈ b'.brought k) :
      p ∈ b.brought k ∨ k = a ∧ p = (m, i) := by
    rw [more] at mem
    split at mem
    · next own =>
      rw [List.mem_append, List.mem_singleton] at mem
      exact mem.imp_right fun new => ⟨own, new⟩
    · exact .inl mem
  constructor
  · intro k
    rw [watched, more]
    split
    · rw [← List.append_assoc]
      refine List.nodup_append.2 ⟨h.unique k, List.pairwise_singleton _ _, fun p mem q new => ?_⟩
      obtain rfl := List.mem_singleton.1 new
      rintro rfl
      obtain followed | queued := List.mem_append.1 mem
      · exact unwatched followed
      · exact unbrought k queued
    · exact h.unique k
  · intro j k other p mem mem'
    obtain queued | ⟨rfl, rfl⟩ := earlier mem
    · obtain queued' | ⟨rfl, rfl⟩ := earlier mem'
      · exact h.apart j k other queued queued'
      · exact unbrought j queued
    · obtain queued' | ⟨rfl, -⟩ := earlier mem'
      · exact unbrought k queued'
      · exact other rfl

/-- The watcher of a new window follows the subscription of the task that presents it. -/
theorem Distinct.of_moved (h : b.Distinct) (watched : b'.watched = b.watched ++ [(m, i)])
    (first : b.brought a = (m, i) :: b'.brought a)
    (fewer : ∀ k, (b'.brought k).Sublist (b.brought k)) : b'.Distinct where
  unique k := by
    by_cases own : k = a
    · subst own
      have same : b'.watched ++ b'.brought k = b.watched ++ b.brought k := by
        rw [watched, first, List.append_assoc, List.singleton_append]
      rw [same]
      exact h.unique k
    · have mine : (m, i) ∈ b.brought a := first ▸ List.mem_cons_self
      have rest := (h.unique k).sublist ((List.Sublist.refl b.watched).append (fewer k))
      rw [watched, List.append_assoc, List.singleton_append]
      refine List.perm_middle.nodup_iff.2 (List.nodup_cons.2 ⟨fun mem => ?_, rest⟩)
      obtain followed | queued := List.mem_append.1 mem
      · exact h.not_brought followed a mine
      · exact h.apart k a own ((fewer k).subset queued) mine
  apart j k other p mem mem' := h.apart j k other ((fewer j).subset mem) ((fewer k).subset mem')

/-- Only a window that is created adds to what watchers follow. -/
theorem WatcherStep.watched (h : WatcherStep b act b') :
    b'.watched = b.watched ∨ ∃ k id spec m i, act = .mainTurn k ∧
      b.tasks k = .present id spec m i :: b'.tasks k ∧ b'.watched = b.watched ++ [(m, i)] := by
  cases h with
  | undisturbed same => exact .inl (by rw [Bridge.watched, same.watchers]; rfl)
  | ended _ same =>
    left
    rw [Bridge.watched, same.watchers]
    exact map_modify_watchers _ _ fun _ => rfl
  | @created k m i id spec cause task _ creates =>
    refine .inr ⟨k, id, spec, m, i, cause, task, ?_⟩
    rw [Bridge.watched, creates.watchers, List.map_append]
    rfl
  | closed _ shuts =>
    left
    rw [Bridge.watched, shuts.watchers]
    exact map_modify_watchers _ _ fun _ => rfl

/-- Subscriptions of tasks and watchers stay different. -/
theorem Distinct.step (h : b.Distinct) (reachable : b.Reachable) (env : Environment)
    (act : Action) : (b.step env act).Distinct := by
  have brings := b.broughtStep_step env act
  obtain same | ⟨k, id, spec, m, i, rfl, task, more⟩ := (b.watcherStep_step env act).watched
  · cases brings with
    | fewer _ brought => exact h.of_fewer same brought
    | @more m a id spec s accepted known subscribed tasks =>
      refine h.of_more (m := m) (i := b.taken m) (a := a) same
        (fun refers => Nat.lt_irrefl _ (reachable.refers_lt refers)) fun k => ?_
      rw [brought, tasks]
      split
      · rw [List.filterMap_append]
        rfl
      · rfl
  · cases brings with
    | fewer _ brought =>
      refine h.of_moved (a := k) more ?_ brought
      rw [Bridge.brought, task, List.filterMap_cons]
      rfl
    | more accepted => cases accepted

/-- After every run all subscriptions of windows are different. -/
theorem distinct_run (actions : List (Environment × Action)) :
    (({} : Bridge).run actions).Distinct := by
  induction actions using List.reverseRecOn with
  | nil => exact ⟨fun k => List.nodup_nil, fun j k _ p mem => by cases mem⟩
  | append_singleton before s ih =>
    rw [run_append]
    exact ih.step ⟨before, rfl⟩ s.1 s.2

/-! ## who uses a subscription -/

/-- Nobody uses the subscription of a task that stays in its queue. -/
theorem Distinct.unconsumed_of_task (h : b.Distinct) (env : Environment) (act : Action)
    {id' : Handle} {spec' : WindowSpec} (queued : .present id spec m i ∈ b.tasks k)
    (still : .present id' spec' m i ∈ (b.step env act).tasks k) : ¬b.Consumes m i act := by
  have mine : (m, i) ∈ b.brought k := mem_brought.2 ⟨id, spec, queued⟩
  intro consumes
  cases act with
  | watch w =>
    obtain ⟨x, found, rfl, rfl⟩ := consumes
    exact h.not_brought (List.mem_map_of_mem (List.mem_of_getElem? found)) k mine
  | mainTurn j =>
    obtain ⟨turns, x, id₂, spec₂, there, leaves⟩ := consumes
    have queued₂ : .present id₂ spec₂ m i ∈ b.tasks j :=
      tasks_of_found there ▸ mem_tasks_of_leaving leaves
    obtain rfl : k = j := by
      by_contra other
      exact h.apart k j other mine (mem_brought.2 ⟨id₂, spec₂, queued₂⟩)
    have turned := b.turnStep_mainTurn env k
    rw [Bridge.step] at still
    generalize b.mainTurn env k = b' at turned still
    cases turned with
    | waits idle =>
      rw [turns] at idle
      cases idle
    | @runs y t rest _ there' task =>
      cases there.symm.trans there'
      rw [tasks_runTask] at still
      have first : t = .present id₂ spec₂ m i := by
        rw [leaving, take_of_run task] at leaves
        exact (List.mem_singleton.1 leaves).symm
      have unique := h.brought_nodup k
      rw [brought, tasks_dequeue there task, first, List.filterMap_cons] at unique
      exact (List.nodup_cons.1 unique).1 (mem_brought.2 ⟨id', spec', still⟩)
    | @ends y ts _ there' _ exits =>
      cases there.symm.trans there'
      rw [tasks_congr (congrArg (·[k]?) (applications_discardTasks _ ts)),
        tasks_of_found (there_dequeue there), exits] at still
      cases still
  | _ => cases consumes

/-- No two watchers follow the same subscription. -/
theorem Distinct.watcher_eq (h : b.Distinct) {j : Nat} {x y : Watcher}
    (found : b.watchers[w]? = some x) (found' : b.watchers[j]? = some y)
    (machine : x.machine = y.machine) (subscription : x.subscription = y.subscription) : w = j := by
  have pair : b.watched[w]? = b.watched[j]? := by
    rw [watched, List.getElem?_map, List.getElem?_map, found, found', Option.map_some,
      Option.map_some, machine, subscription]
  have bound : w < b.watched.length := by
    rw [watched, List.length_map]
    exact (List.getElem?_eq_some_iff.1 found).1
  exact (List.getElem?_inj bound h.watched_nodup).1 pair

/-- Nobody but its watcher uses a subscription that is followed. -/
theorem Distinct.unconsumed_of_watcher (h : b.Distinct) {x : Watcher}
    (found : b.watchers[w]? = some x) (other : act ≠ .watch w) :
    ¬b.Consumes x.machine x.subscription act := by
  have followed : (x.machine, x.subscription) ∈ b.watched :=
    List.mem_map_of_mem (List.mem_of_getElem? found)
  intro consumes
  cases act with
  | watch j =>
    obtain ⟨y, found', machine, subscription⟩ := consumes
    exact other (congrArg Action.watch (h.watcher_eq found' found machine subscription))
  | mainTurn j =>
    obtain ⟨-, y, id, spec, there, leaves⟩ := consumes
    have queued : .present id spec x.machine x.subscription ∈ b.tasks j :=
      tasks_of_found there ▸ mem_tasks_of_leaving leaves
    exact h.not_brought followed j (mem_brought.2 ⟨id, spec, queued⟩)
  | _ => cases consumes

end Bridge

end MachineBridge
