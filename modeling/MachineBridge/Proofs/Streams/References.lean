import MachineBridge.Proofs.Streams.Frame
import MachineBridge.Proofs.Windows.Queue

/-!
# MachineBridge.Proofs.Streams.References

The subscriptions to states that the bridge takes for itself.  A request for a window takes
one along with its task, and the watcher of the window follows it later on.  The bridge
never gets hold of a subscription that a caller took: what it refers to is what it referred
to before, or a new subscription (`refers_step`).
-/

namespace MachineBridge

namespace Bridge

/-- How many subscriptions to the states of a machine were taken. -/
def taken (b : Bridge) (m : Nat) : Nat :=
  ((b.states? m).map (·.channel.subscriptions.length)).getD 0

/-- A task is queued in some application. -/
def Queues (b : Bridge) (t : MainTask) : Prop :=
  ∃ (a : Nat) (x : Application), b.applications[a]? = some x ∧ t ∈ x.queue.tasks

/-- The bridge refers to a subscription to the states of a machine: a watcher follows it, or
a task that presents a window brings it along. -/
def Refers (b : Bridge) (m i : Nat) : Prop :=
  (m, i) ∈ b.watched ∨ ∃ id spec, b.Queues (.present id spec m i)

variable {b b' : Bridge} {m i : Nat}

/-- The number of a new subscription is the number of those taken before. -/
theorem subscribeStates_snd (b : Bridge) (m : Nat) : (b.subscribeStates m).2 = b.taken m := by
  unfold subscribeStates taken states?
  cases b.machines[m]? with
  | none => rfl
  | some machine => rfl

theorem states?_subscribeStates {s : StateStream} (found : b.states? m = some s) :
    (b.subscribeStates m).1.states? m = some s.subscribe.1 := by
  obtain ⟨machine, known, rfl⟩ := Option.map_eq_some_iff.1 found
  rw [subscribeStates, known]
  rw [states?_modifyMachine b m m (g := fun s => s.subscribe.1) fun _ => rfl, found]
  exact if_pos rfl

/-! ## tasks that are queued -/

/-- A task is queued in an application that is left alone only if it was. -/
theorem Queues.of_eq {t : MainTask} (h : b'.Queues t) (same : b'.applications = b.applications) :
    b.Queues t := by
  obtain ⟨a, x, found, mem⟩ := h
  exact ⟨a, x, same ▸ found, mem⟩

/-- Handing over one task queues that task only. -/
theorem Queues.of_postsAt {a : Nat} {t u : MainTask} (h : b'.Queues u)
    (posts : ∀ k, PostsAt b b' a t k) : b.Queues u ∨ u = t := by
  obtain ⟨k, x', found', mem⟩ := h
  obtain same | ⟨-, x, found, after⟩ := posts k
  · exact .inl ⟨k, x', same ▸ found', mem⟩
  · cases after.symm.trans found'
    rw [Application.tasks_post, List.mem_append, List.mem_singleton] at mem
    obtain mem | rfl := mem
    · exact .inl ⟨k, x, found, mem⟩
    · exact .inr rfl

/-- A task is queued that was queued before, or that the step hands over. -/
theorem queues_step (env : Environment) (act : Action) {t : MainTask}
    (h : (b.step env act).Queues t) :
    b.Queues t ∨ ∃ a, Posts b act a (b.step env act) t := by
  obtain ⟨a, x', found', mem⟩ := h
  cases b.appStep_step env act a with
  | none _ absent' => cases found'.symm.trans absent'
  | added _ fresh =>
    cases found'.symm.trans fresh
    cases mem
  | changed found after change =>
    cases found'.symm.trans after
    obtain mem | posts := change.mem_tasks mem
    · exact .inl ⟨a, _, found, mem⟩
    · exact .inr ⟨a, posts⟩

/-- Only a request for a window hands over a task that presents one. -/
theorem Posts.requests {act : Action} {a : Nat} {id : Handle} {spec : WindowSpec}
    (h : Posts b act a b' (.present id spec m i)) : ∃ w, Requests m w a spec act := by
  cases h with
  | present _ _ requests _ => exact ⟨_, requests⟩
  | other present _ => exact absurd rfl (present id spec m i)

/-! ## requests for windows -/

/-- A caller that subscribes does not make the bridge refer to anything. -/
theorem refers_subscribeStates {k : Nat} (h : (b.subscribeStates k).1.Refers m i) :
    b.Refers m i := by
  obtain follows | ⟨id, spec, queues⟩ := h
  · exact .inl ((b.edits_subscribeStates k).watched rfl ▸ follows)
  · exact .inr ⟨id, spec, queues.of_eq (b.applications_subscribeStates k)⟩

/-- What a request hands over brings along a new subscription. -/
theorem refers_present {a : Nat} {id : Handle} {spec : WindowSpec} {k : Nat}
    (h : (b.present k a id spec).1.Refers m i) : b.Refers m i ∨ k = m ∧ i = b.taken m := by
  obtain follows | ⟨id', spec', queues⟩ := h
  · exact .inl (.inl ((b.edits_present k a id spec).watched rfl ▸ follows))
  · obtain queued | new := queues.of_postsAt fun n => b.postsAt_present k a id spec n
    · exact .inl (.inr ⟨id', spec', queued⟩)
    · rw [MainTask.present.injEq] at new
      obtain ⟨-, -, rfl, rfl⟩ := new
      exact .inr ⟨rfl, b.subscribeStates_snd m⟩

theorem taken_congr (same : b'.states? = b.states?) (m : Nat) : b'.taken m = b.taken m := by
  rw [taken, taken, same]

/-- A request takes one subscription. -/
theorem taken_present {s : StateStream} (found : b.states? m = some s) (a : Nat) (id : Handle)
    (spec : WindowSpec) : (b.present m a id spec).1.taken m = b.taken m + 1 := by
  have more : (b.subscribeStates m).1.taken m = b.taken m + 1 := by
    rw [taken, taken, states?_subscribeStates found, found]
    exact List.length_append
  have posted := taken_congr (((b.subscribeStates m).1.edits_dispatch a
    (.present id spec m (b.subscribeStates m).2)).states? rfl) m
  unfold present
  dsimp only
  split
  · next h =>
    rw [h] at posted
    exact posted.trans more
  · next c e h =>
    rw [h] at posted
    -- a subscription that is dropped again keeps its number
    have dropped (j : Nat) : (c.dropStates m j).taken m = c.taken m := by
      rw [taken, taken, dropStates,
        states?_modifyMachine c m m (g := fun s => s.drop j) fun _ => rfl, if_pos rfl]
      cases c.states? m with
      | none => rfl
      | some s => exact List.length_modify ..
    have closed (d : Bridge) : (d.closeWindow m).taken m = d.taken m :=
      taken_congr ((d.edits_closeWindow m).states? rfl) m
    exact (closed _).trans ((dropped _).trans (posted.trans more))

/-- A request that is let pass refers to one new subscription. -/
theorem refers_openWindow {machine : Machine} {required : UInt32} {a : Nat} {id : Handle}
    {spec : WindowSpec} {k : Nat} (admitted : b.admitted k required = .ok machine)
    (h : ((b.openWindow k machine.window a spec).present k a id spec).1.Refers m i) :
    b.Refers m i ∨ i = b.taken m ∧
      b.taken m < ((b.openWindow k machine.window a spec).present k a id spec).1.taken m := by
  have opened := b.edits_openWindow k machine.window a spec
  obtain (follows | ⟨id, spec, queues⟩) | ⟨rfl, fresh⟩ := refers_present h
  · exact .inl (.inl (opened.watched rfl ▸ follows))
  · exact .inl (.inr ⟨id, spec, queues.of_eq (applications_openWindow ..)⟩)
  · have found : b.states? k = some machine.state := by
      rw [states?, (admitted_eq_ok_iff.1 admitted).1]
      rfl
    have more := taken_present ((congrFun (opened.states? rfl) k).trans found) a id spec
    rw [taken_congr (opened.states? rfl)] at fresh more
    exact .inr ⟨fresh, more ▸ Nat.lt_succ_self _⟩

/-! ## the main thread -/

/-- A task that presents a new window hands its subscription to a watcher. -/
theorem watched_runTask (env : Environment) {a : Nat} {t : MainTask} {p : Nat × Nat}
    (h : p ∈ (b.runTask env a t).watched) :
    p ∈ b.watched ∨ ∃ id spec, t = .present id spec p.1 p.2 := by
  have edited := b.edits_runTask env a t
  cases t with
  | present id spec m i =>
    rw [runTask, runPresent] at h
    split at h
    · exact .inl h
    · have more : p ∈ b.watched ++ [(m, i)] := by
        have all : (b.watchers ++
            [{ application := a, id, machine := m, subscription := i : Watcher }]).map
              (fun w => (w.machine, w.subscription)) = b.watched ++ [(m, i)] := List.map_append
        rw [← all]
        exact h
      rw [List.mem_append, List.mem_singleton] at more
      obtain follows | rfl := more
      · exact .inl follows
      · exact .inr ⟨id, spec, rfl⟩
  | _ => exact .inl (edited.watched rfl ▸ h)

/-- The subscriptions that are followed after a turn of a main loop were followed before, or
a task brought them along. -/
theorem watched_mainTurn (env : Environment) {a : Nat} {p : Nat × Nat}
    (h : p ∈ (b.mainTurn env a).watched) :
    p ∈ b.watched ∨ ∃ id spec, b.Queues (.present id spec p.1 p.2) := by
  have turned := b.turnStep_mainTurn env a
  generalize b.mainTurn env a = b' at turned h
  cases turned with
  | waits _ => exact .inl h
  | @runs x t rest _ there task =>
    obtain follows | ⟨id, spec, rfl⟩ := watched_runTask env h
    · exact .inl follows
    · refine .inr ⟨id, spec, a, x, there, ?_⟩
      rw [Application.tasks_of_messages task]
      exact List.mem_cons_self
  | ends _ _ _ _ =>
    exact .inl (((b.dequeue a).edits_discardTasks _).watched rfl ▸ h)

/-! ## every step -/

/-- Only the main loop starts watchers. -/
theorem watched_step (env : Environment) (b : Bridge) {act : Action}
    (other : ∀ a, act ≠ .mainTurn a) : (b.step env act).watched = b.watched := by
  refine (b.edits_step env act).watched ?_
  cases act with
  | receive e => cases e <;> rfl
  | mainTurn a => exact absurd rfl (other a)
  | _ => rfl

/-- What the bridge refers to after a step it referred to before, or it is new. -/
theorem refers_step (env : Environment) {act : Action} (h : (b.step env act).Refers m i) :
    b.Refers m i ∨ i = b.taken m ∧ b.taken m < (b.step env act).taken m := by
  -- no step but a request hands over a task that presents a window
  have others (unrequested : ∀ w a spec, ¬Requests m w a spec act)
      (follows : (m, i) ∈ (b.step env act).watched → b.Refers m i) : b.Refers m i := by
    obtain followed | ⟨id, spec, queues⟩ := h
    · exact follows followed
    · obtain queued | ⟨a, posts⟩ := queues_step env act queues
      · exact .inr ⟨id, spec, queued⟩
      · obtain ⟨w, requests⟩ := posts.requests
        exact absurd requests (unrequested w a spec)
  cases act with
  | startGraphics k a width height options =>
    rw [step, startGraphics] at h ⊢
    cases admitted : b.admitted k PlatformVersion.forStopAndGraphics with
    | error e =>
      rw [admitted] at h
      exact .inl h
    | ok machine =>
      rw [admitted] at h
      dsimp only at h ⊢
      split at h
      · next positive =>
        rw [if_pos positive]
        exact refers_openWindow admitted h
      · exact .inl h
  | showWindow k =>
    rw [step, showWindow] at h ⊢
    cases admitted : b.admitted k PlatformVersion.forStopAndGraphics with
    | error e =>
      rw [admitted] at h
      exact .inl h
    | ok machine =>
      rw [admitted] at h
      cases known : machine.window.reopening? with
      | none =>
        simp only [known] at h
        exact .inl h
      | some window =>
        obtain ⟨a, id, spec⟩ := window
        have opened : b.openWindow k machine.window a spec =
            b.modifyMachine k fun x => { x with window := x.window.opened id a spec } := by
          rw [openWindow, windowToken_of_reopening k known]
        simp only [known, ← opened] at h ⊢
        exact refers_openWindow admitted h
  | mainTurn a =>
    have unrequested : ∀ w a' spec, ¬Requests m w a' spec (.mainTurn a) := fun _ _ _ requests => by
      cases requests
    exact .inl (others unrequested (watched_mainTurn env))
  | _ =>
    refine .inl (others (fun _ _ _ requests => by cases requests) fun followed => .inl ?_)
    rw [watched_step env b (fun _ => Action.noConfusion)] at followed
    exact followed

end Bridge

end MachineBridge
