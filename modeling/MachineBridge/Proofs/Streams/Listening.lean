import MachineBridge.Proofs.Broadcast.Delivery
import MachineBridge.Proofs.Streams.References

/-!
# MachineBridge.Proofs.Streams.Listening

What those who listen to the states of a machine do to its stream: they take subscriptions,
receive and drop.  The bridge itself does so on behalf of windows, but with subscriptions of
its own only, so a step leaves the subscriptions of callers alone unless it receives from
one or drops it (`listensAt_step`).
-/

namespace MachineBridge

/-- A stream of states is listened to: subscriptions are taken, and values are received from
subscriptions or dropped with them, as far as they are `own`. -/
inductive Listens (own : Nat → Prop) (s : StateStream) : StateStream → Prop
  | refl : Listens own s s
  | subscribe {t : StateStream} (h : Listens own s t) : Listens own s t.subscribe.1
  | receive {t : StateStream} {i : Nat} (h : Listens own s t) (allowed : own i) :
      Listens own s { t with channel := (t.channel.receive i).1 }
  | drop {t : StateStream} {i : Nat} (h : Listens own s t) (allowed : own i) :
      Listens own s (t.drop i)

namespace Listens

variable {own : Nat → Prop} {s t u : StateStream}

/-- Listening twice is listening. -/
theorem trans (first : Listens own s t) (second : Listens own t u) : Listens own s u := by
  induction second with
  | refl => exact first
  | subscribe _ ih => exact ih.subscribe
  | receive _ allowed ih => exact ih.receive allowed
  | drop _ allowed ih => exact ih.drop allowed

/-- Listening leaves the current state. -/
theorem current (h : Listens own s t) : t.current = s.current := by
  induction h with
  | refl => rfl
  | subscribe _ ih => exact ih
  | receive _ _ ih => exact ih
  | drop _ _ ih => exact ih

/-- Listening leaves the stream open or closed as it was. -/
theorem closed (h : Listens own s t) : t.channel.closed = s.channel.closed := by
  induction h with
  | refl => rfl
  | subscribe _ ih => exact ih
  | receive _ _ ih => exact (Broadcast.closed_receive _ _).trans ih
  | drop _ _ ih => exact ih

/-- No subscription is given to two listeners. -/
theorem length_le (h : Listens own s t) :
    s.channel.subscriptions.length ≤ t.channel.subscriptions.length := by
  induction h with
  | refl => exact Nat.le_refl _
  | @subscribe t _ ih =>
    have more : t.subscribe.1.channel.subscriptions.length =
        t.channel.subscriptions.length + 1 := List.length_append
    omega
  | @receive t i _ _ ih =>
    have same : (t.channel.receive i).1.subscriptions.length = t.channel.subscriptions.length := by
      rw [Broadcast.receive_fst, Broadcast.length_receiveMany]
    exact same.symm ▸ ih
  | @drop t i _ _ ih =>
    have same : (t.channel.drop i).subscriptions.length = t.channel.subscriptions.length :=
      List.length_modify ..
    exact same.symm ▸ ih

/-- Whoever has another subscription is owed what he was owed. -/
theorem owes (h : Listens own s t) {i : Nat} (other : ¬own i) {ahead : List ExecutionState}
    (owes : s.channel.Owes i ahead) : t.channel.Owes i ahead := by
  induction h with
  | refl => exact owes
  | subscribe _ ih => exact ih.subscribe
  | receive _ allowed ih =>
    rw [Broadcast.receive_fst]
    exact ih.receiveMany_of_ne 1 fun same => other (same ▸ allowed)
  | drop _ allowed ih => exact ih.drop fun same => other (same ▸ allowed)

/-- Listening adds nothing to what is queued. -/
theorem queued_le (h : Listens own s t) (i : Nat) : t.channel.queued i ≤ s.channel.queued i := by
  induction h with
  | refl => exact Nat.le_refl _
  | @subscribe t _ ih => exact Nat.le_trans (Nat.le_of_eq (t.channel.queued_subscribe i)) ih
  | @receive t j _ _ ih =>
    refine Nat.le_trans ?_ ih
    show (t.channel.receive j).1.queued i ≤ _
    rw [Broadcast.queued_receive]
    split
    · exact Nat.sub_le _ 1
    · exact Nat.le_refl _
  | @drop t j _ _ ih =>
    refine Nat.le_trans ?_ ih
    show (t.channel.drop j).queued i ≤ _
    rw [Broadcast.queued_drop]
    split
    · exact Nat.zero_le _
    · exact Nat.le_refl _

end Listens

namespace Bridge

/-- The streams of states are listened to, and nothing else happens to them. -/
structure ListensAt (own : Nat → Nat → Prop) (b b' : Bridge) : Prop where
  known : ∀ {m s}, b.states? m = some s → ∃ s', b'.states? m = some s' ∧ Listens (own m) s s'
  unknown : ∀ {m}, b.states? m = none → b'.states? m = none

variable {own : Nat → Nat → Prop} {b b₁ b₂ b₃ : Bridge}

theorem ListensAt.of_eq (same : b₂.states? = b₁.states?) : ListensAt own b₁ b₂ where
  known := fun found => ⟨_, same ▸ found, .refl⟩
  unknown := fun absent => same ▸ absent

theorem ListensAt.trans (first : ListensAt own b₁ b₂) (second : ListensAt own b₂ b₃) :
    ListensAt own b₁ b₃ where
  known := fun found => by
    obtain ⟨s, found, listens⟩ := first.known found
    obtain ⟨s', found, listens'⟩ := second.known found
    exact ⟨s', found, listens.trans listens'⟩
  unknown := fun absent => second.unknown (first.unknown absent)

/-! ## uses of a subscription -/

/-- A machine whose stream is used. -/
theorem ListensAt.of_modify {m : Nat} {f : Machine → Machine} {g : StateStream → StateStream}
    (hf : ∀ x, (f x).state = g x.state) (uses : ∀ s, Listens (own m) s (g s)) :
    ListensAt own b (b.modifyMachine m f) where
  known := fun {k s} found => by
    rw [states?_modifyMachine b m k hf, found]
    split
    · next same =>
      subst same
      exact ⟨g s, rfl, uses s⟩
    · exact ⟨s, rfl, .refl⟩
  unknown := fun {k} absent => by
    rw [states?_modifyMachine b m k hf, absent]
    split <;> rfl

theorem listensAt_subscribeStates (b : Bridge) (m : Nat) :
    ListensAt own b (b.subscribeStates m).1 := by
  unfold subscribeStates
  split
  · exact .of_eq rfl
  · exact .of_modify (g := fun s => s.subscribe.1) (fun _ => rfl) fun _ => .subscribe .refl

/-- A receive takes a value from the channel of the machine. -/
theorem receiveState_eq (b : Bridge) (m i : Nat) :
    (b.receiveState m i).1 = b.modifyMachine m fun x =>
      { x with state := { x.state with channel := (x.state.channel.receive i).1 } } := by
  unfold receiveState
  split
  · next absent => exact (modifyMachine_of_absent absent _).symm
  · next machine found => exact modifyMachine_congr found rfl

theorem listensAt_receiveState (b : Bridge) {m i : Nat} (allowed : own m i) :
    ListensAt own b (b.receiveState m i).1 := by
  rw [receiveState_eq]
  exact .of_modify (g := fun s => { s with channel := (s.channel.receive i).1 }) (fun _ => rfl)
    fun _ => .receive .refl allowed

theorem listensAt_dropStates (b : Bridge) {m i : Nat} (allowed : own m i) :
    ListensAt own b (b.dropStates m i) :=
  .of_modify (g := fun s => s.drop i) (fun _ => rfl) fun _ => .drop .refl allowed

/-! ## the bridge -/

/-- A request takes a new subscription, which is dropped again if it is refused. -/
theorem listensAt_present (b : Bridge) {m : Nat} (a : Nat) (id : Handle) (spec : WindowSpec)
    (allowed : own m (b.taken m)) : ListensAt own b (b.present m a id spec).1 := by
  have subscribed : ListensAt own b (b.subscribeStates m).1 := b.listensAt_subscribeStates m
  have posted := ((b.subscribeStates m).1.edits_dispatch a
    (.present id spec m (b.subscribeStates m).2)).states? rfl
  unfold present
  dsimp only
  split
  · next h =>
    rw [h] at posted
    exact subscribed.trans (.of_eq posted)
  · next c e h =>
    rw [h] at posted
    rw [b.subscribeStates_snd m]
    have dropped := (subscribed.trans (.of_eq posted)).trans (c.listensAt_dropStates allowed)
    exact dropped.trans (.of_eq ((edits_closeWindow _ m).states? rfl))

theorem listensAt_openWindow (b : Bridge) {m : Nat} (w : WindowState) (a : Nat) (id : Handle)
    (spec : WindowSpec) (allowed : own m (b.taken m)) :
    ListensAt own b ((b.openWindow m w a spec).present m a id spec).1 := by
  have opened := (b.edits_openWindow m w a spec).states? rfl
  rw [← taken_congr opened m] at allowed
  exact .trans (.of_eq opened) (listensAt_present _ a id spec allowed)

/-- A task that presents a window which is there already drops the subscription it brought
along. -/
theorem listensAt_runTask (env : Environment) (b : Bridge) (a : Nat) {t : MainTask}
    (allowed : ∀ id spec m i, t = .present id spec m i → own m i) :
    ListensAt own b (b.runTask env a t) := by
  have edited := b.edits_runTask env a t
  cases t with
  | present id spec m i =>
    rw [runTask, runPresent]
    split
    · have shown : ListensAt own b (b.callToolkit env a [.show id, .bringToFront id]) := .of_eq rfl
      exact shown.trans (listensAt_dropStates _ (allowed id spec m i rfl))
    · exact .of_eq rfl
  | _ => exact .of_eq (edited.states? rfl)

/-- Tasks that are discarded drop the subscriptions that they bring along. -/
theorem listensAt_discardTasks (b : Bridge) {ts : List MainTask}
    (allowed : ∀ id spec m i, .present id spec m i ∈ ts → own m i) :
    ListensAt own b (ts.foldl discardTask b) := by
  induction ts generalizing b with
  | nil => exact .of_eq rfl
  | cons t ts ih =>
    have rest := ih (b.discardTask t) fun id spec m i mem =>
      allowed id spec m i (List.mem_cons_of_mem _ mem)
    cases t with
    | present id spec m i =>
      exact .trans (b.listensAt_dropStates (allowed id spec m i List.mem_cons_self)) rest
    | _ =>
      refine .trans ?_ rest
      exact .of_eq rfl

/-- The tasks that are discarded when a loop ends were queued. -/
theorem mem_tasks_of_exit {q q' : MainQueue MainTask} {ts : List MainTask}
    (h : q.take = (q', .exit ts)) {t : MainTask} (mem : t ∈ ts) : t ∈ q.tasks := by
  obtain ⟨messages, handles, status⟩ := q
  cases messages with
  | nil =>
    unfold MainQueue.take at h
    dsimp only at h
    split at h
    · cases h
      cases mem
    · cases h
  | cons message rest =>
    cases message with
    | run u => cases h
    | quit =>
      cases h
      simpa [MainQueue.tasks, MainQueue.Message.task?] using mem

/-- The tasks that leave a queue when its loop looks at it: the first one, or all of them. -/
def leaving (q : MainQueue MainTask) : List MainTask :=
  match q.take.2 with
  | .run t => [t]
  | .idle => []
  | .exit ts => ts

/-- A task that leaves a queue was in it. -/
theorem mem_tasks_of_leaving {q : MainQueue MainTask} {t : MainTask} (mem : t ∈ leaving q) :
    t ∈ q.tasks := by
  unfold leaving at mem
  split at mem
  · next u took =>
    obtain rfl := List.mem_singleton.1 mem
    obtain ⟨v, rest, task, first⟩ | ⟨-, ts, first⟩ | first := take_cases q
    · rw [first] at took
      cases took
      rw [Application.tasks_of_messages task]
      exact List.mem_cons_self
    · rw [first] at took
      cases took
    · rw [first] at took
      cases took
  · cases mem
  · next ts took =>
    have exits : q.take = (q.take.1, .exit ts) := Prod.ext rfl took
    exact mem_tasks_of_exit exits mem

/-- The bridge itself uses a subscription in a step: the watcher that follows it takes its
turn, or the task that brought it along leaves its queue. -/
def Consumes (b : Bridge) (m i : Nat) : Action → Prop
  | .watch w => ∃ x, b.watchers[w]? = some x ∧ x.machine = m ∧ x.subscription = i
  | .mainTurn a => b.canTurn a = true ∧ ∃ x id spec, b.applications[a]? = some x ∧
      .present id spec m i ∈ leaving x.queue
  | _ => False

/-- The bridge uses what it refers to. -/
theorem Consumes.refers {m i : Nat} {act : Action} (h : b.Consumes m i act) : b.Refers m i := by
  unfold Consumes at h
  split at h
  · obtain ⟨x, found, rfl, rfl⟩ := h
    exact .inl (List.mem_map_of_mem (List.mem_of_getElem? found))
  · obtain ⟨-, x, id, spec, found, mem⟩ := h
    exact .inr ⟨id, spec, _, x, found, mem_tasks_of_leaving mem⟩
  · cases h

/-- A turn of a main loop uses the subscriptions that its task consumes. -/
theorem listensAt_mainTurn (env : Environment) (b : Bridge) (a : Nat)
    (allowed : ∀ m i, b.Consumes m i (.mainTurn a) → own m i) :
    ListensAt own b (b.mainTurn env a) := by
  have taken : ListensAt own b (b.dequeue a) := .of_eq rfl
  have turned := b.turnStep_mainTurn env a
  generalize b.mainTurn env a = b' at turned ⊢
  cases turned with
  | waits _ => exact .of_eq rfl
  | @runs x t rest ready there task =>
    refine taken.trans (listensAt_runTask env _ a fun id spec m i present => ?_)
    refine allowed m i ⟨ready, x, id, spec, there, ?_⟩
    rw [leaving, take_of_run task, present]
    exact List.mem_cons_self
  | @ends x ts ready there _ exits =>
    refine taken.trans (listensAt_discardTasks _ fun id spec m i mem => ?_)
    refine allowed m i ⟨ready, x, id, spec, there, ?_⟩
    rw [leaving, exits]
    exact mem

/-- A watcher receives from the subscription that it follows, and drops it in the end. -/
theorem listensAt_watch (b : Bridge) (w : Nat)
    (allowed : ∀ m i, b.Consumes m i (.watch w) → own m i) : ListensAt own b (b.watch w) := by
  have mine {watcher : Watcher} (found : b.watchers[w]? = some watcher) :
      own watcher.machine watcher.subscription := allowed _ _ ⟨watcher, found, rfl, rfl⟩
  have ends (c : Bridge) {watcher : Watcher} (found : b.watchers[w]? = some watcher) :
      ListensAt own c (c.endWatcher w watcher) := by
    have stopped : ListensAt own c (c.modifyWatcher w fun x => { x with running := false }) :=
      .of_eq rfl
    exact stopped.trans (listensAt_dropStates _ (mine found))
  have turned := b.watchStep_watch w
  generalize b.watch w = b' at turned ⊢
  cases turned with
  | waits _ => exact .of_eq rfl
  | passes found _ _ _ _ => exact b.listensAt_receiveState (mine found)
  | stops found _ _ _ _ =>
    have received := b.listensAt_receiveState (mine found)
    exact (received.trans (.of_eq ((edits_dispatch ..).states? rfl))).trans (ends _ found)
  | ends found _ _ _ => exact (b.listensAt_receiveState (mine found)).trans (ends _ found)
  | closed found _ _ => exact ends b found

/-! ## every step -/

/-- A subscription that a step may use: the bridge itself does, it is new, or the step is for
it. -/
def Uses (b : Bridge) (act : Action) (m i : Nat) : Prop :=
  b.Consumes m i act ∨ b.taken m ≤ i ∨ act = .receiveState m i ∨ act = .dropStates m i

/-- All steps listen only, but for the creation of machines, the reports of the runtime and
the end of a teardown. -/
theorem listensAt_step (env : Environment) (b : Bridge) {act : Action}
    (create : ∀ platform c, act ≠ .beginCreate platform c)
    (report : ∀ token code, act ≠ .receive (.stateChanged token code))
    (finish : ∀ m, act ≠ .finishTeardown m) : ListensAt (b.Uses act) b (b.step env act) := by
  by_cases apart : Part.apart act.parts [.machines, .states] = true
  · exact .of_eq ((b.edits_step env act).states? apart)
  cases act with
  | beginCreate platform c => exact absurd rfl (create platform c)
  | finishTeardown m => exact absurd rfl (finish m)
  | subscribeStates m => exact b.listensAt_subscribeStates m
  | receiveState m i => exact b.listensAt_receiveState (.inr (.inr (.inl rfl)))
  | dropStates m i => exact b.listensAt_dropStates (.inr (.inr (.inr rfl)))
  | startGraphics m a width height options =>
    rw [step, startGraphics]
    split
    · exact .of_eq rfl
    · next machine _ =>
      split
      · exact b.listensAt_openWindow machine.window a _ _ (.inr (.inl (Nat.le_refl _)))
      · exact .of_eq rfl
  | showWindow m =>
    rw [step, showWindow]
    split
    · exact .of_eq rfl
    · next machine _ =>
      split
      · exact .of_eq rfl
      · next a id spec known =>
        have opens : ListensAt (b.Uses (.showWindow m)) b
            ((b.openWindow m machine.window a spec).present m a id spec).1 :=
          b.listensAt_openWindow machine.window a id spec (.inr (.inl (Nat.le_refl _)))
        rw [openWindow, windowToken_of_reopening m known] at opens
        exact opens
  | receive e =>
    cases e with
    | stateChanged token code => exact absurd rfl (report token code)
    | _ => exact absurd rfl apart
  | mainTurn a => exact b.listensAt_mainTurn env a fun _ _ consumes => .inl consumes
  | watch w => exact b.listensAt_watch w fun _ _ consumes => .inl consumes
  | _ => exact absurd rfl apart

end Bridge

end MachineBridge
