import MachineBridge.Proofs.Windows.Stopping

/-!
# MachineBridge.Proofs.Windows.Borrowed

The subscriptions to states that the bridge takes for itself, one with each request for a window
that is accepted (`borrowed`).  Some go to the watcher of a new window; others are dropped because
the request is refused, or because the window is there already.

None is forgotten: a receiver of the bridge that was not dropped belongs to a task that is queued
or to a watcher that runs (`accounted_run`).
-/

namespace MachineBridge

/-! ## receivers that are dropped -/

namespace Listens

variable {own : Nat → Prop} {s t : StateStream}

/-- A receiver that was dropped is not taken back. -/
theorem keeps (h : Listens own s t) {i : Nat} (taken : i < s.channel.subscriptions.length)
    (kept : t.channel.keeps[i]? = some true) : s.channel.keeps[i]? = some true := by
  induction h with
  | refl => exact kept
  | @subscribe t before ih =>
    refine ih ?_
    have more : t.subscribe.1.channel.keeps = t.channel.keeps ++ [true] :=
      t.channel.keeps_subscribe
    rw [more, List.getElem?_append_left] at kept
    · exact kept
    · rw [Broadcast.length_keeps]
      exact Nat.lt_of_lt_of_le taken before.length_le
  | receive _ _ ih =>
    rw [Broadcast.receive_fst, Broadcast.keeps_receiveMany] at kept
    exact ih kept
  | @drop t j _ _ ih =>
    refine ih ?_
    have fewer : (t.drop j).channel.keeps = t.channel.keeps.set j false := t.channel.keeps_drop j
    rw [fewer, List.getElem?_set] at kept
    split at kept
    · split at kept <;> cases kept
    · exact kept

end Listens

/-- A receiver that is dropped is gone. -/
theorem StateStream.not_keeps_drop (s : StateStream) (i : Nat) :
    (s.drop i).channel.keeps[i]? ≠ some true := by
  have fewer : (s.drop i).channel.keeps = s.channel.keeps.set i false := s.channel.keeps_drop i
  rw [fewer, List.getElem?_set, if_pos rfl]
  split <;> simp

namespace Bridge

variable {b : Bridge} {env : Environment} {act : Action} {a k m i j w : Nat} {id : Handle}
  {x : Watcher} {actions : List (Environment × Action)}

def keepsStates (b : Bridge) (m i : Nat) : Bool :=
  (b.states? m).any fun s => s.channel.keeps[i]? == some true

theorem keepsStates_iff :
    b.keepsStates m i = true ↔ ∃ s, b.states? m = some s ∧ s.channel.keeps[i]? = some true := by
  rw [keepsStates, Option.any_eq_true]
  simp only [beq_iff_eq]

/-- A receiver that is there after a step was there before, unless it is new. -/
theorem keepsStates_step (reachable : b.Reachable) (taken : i < b.taken m)
    (kept : (b.step env act).keepsStates m i = true) : b.keepsStates m i = true := by
  obtain ⟨s', found', kept⟩ := keepsStates_iff.1 kept
  cases found : b.states? m with
  | none =>
    rw [Bridge.taken, found] at taken
    cases taken
  | some s =>
    rw [Bridge.taken, found] at taken
    refine keepsStates_iff.2 ⟨s, found, ?_⟩
    obtain ⟨t, known, change⟩ := stateChange_step reachable env act found
    cases found'.symm.trans known
    cases change with
    | applied _ _ _ => exact (s.channel.keeps_publish _).symm ▸ kept
    | closed _ _ => exact s.channel.keeps_close.symm ▸ kept
    | listened _ _ listens => exact listens.keeps taken kept

theorem keepsStates_dropStates (b : Bridge) (m i : Nat) :
    (b.dropStates m i).keepsStates m i = false := by
  refine Bool.eq_false_iff.2 fun kept => ?_
  obtain ⟨s, found, kept⟩ := keepsStates_iff.1 kept
  rw [dropStates, b.states?_modifyMachine m m (g := fun s => s.drop i) fun _ => rfl, if_pos rfl,
    Option.map_eq_some_iff] at found
  obtain ⟨t, -, rfl⟩ := found
  exact t.not_keeps_drop i kept

/-! ## the subscriptions of the bridge -/

/-- The subscriptions to the states of a machine that the bridge took in a run: one with each
request for a window that was accepted, in order. -/
def borrowed (m : Nat) (b : Bridge) (actions : List (Environment × Action)) : List Nat :=
  b.collect (fun b _ act => if (b.acceptedRequest? m act).isSome then [b.taken m] else []) actions

theorem borrowed_append_singleton (m : Nat) (before : List (Environment × Action))
    (s : Environment × Action) : borrowed m {} (before ++ [s]) = borrowed m {} before ++
      if ((({} : Bridge).run before).acceptedRequest? m s.2).isSome
        then [(({} : Bridge).run before).taken m] else [] :=
  collect_append_singleton ..

/-- Every subscription of the bridge is taken once. -/
theorem borrowed_run (m : Nat) (actions : List (Environment × Action)) :
    (∀ i ∈ borrowed m {} actions, i < (({} : Bridge).run actions).taken m) ∧
      (borrowed m {} actions).Nodup := by
  induction actions using List.reverseRecOn with
  | nil => exact ⟨by simp [borrowed, collect], List.nodup_nil⟩
  | append_singleton before s ih =>
    obtain ⟨taken, nodup⟩ := ih
    rw [borrowed_append_singleton, run_append]
    have grows : (({} : Bridge).run before).taken m ≤
        ((({} : Bridge).run before).step s.1 s.2).taken m :=
      taken_le_step ⟨before, rfl⟩ s.1 s.2 m
    split
    · next accepted =>
      obtain ⟨k, accepted⟩ := Option.isSome_iff_exists.1 accepted
      have more := taken_of_acceptedRequest s.1 accepted
      constructor
      · intro i mem
        show i < ((({} : Bridge).run before).step s.1 s.2).taken m
        obtain earlier | new := List.mem_append.1 mem
        · exact Nat.lt_of_lt_of_le (taken i earlier) grows
        · rw [List.mem_singleton.1 new]
          omega
      · refine List.nodup_append.2 ⟨nodup, List.pairwise_singleton _ _, fun i mem j new => ?_⟩
        rw [List.mem_singleton.1 new]
        exact Nat.ne_of_lt (taken i mem)
    · rw [List.append_nil]
      exact ⟨fun i mem => Nat.lt_of_lt_of_le (taken i mem) grows, nodup⟩

/-- The subscriptions of the bridge are those that requests took. -/
theorem mem_borrowed_iff : i ∈ borrowed m {} actions ↔ ∃ a, Requested m a i actions := by
  constructor
  · intro mem
    induction actions using List.reverseRecOn with
    | nil => cases mem
    | append_singleton before s ih =>
      rw [borrowed_append_singleton, List.mem_append] at mem
      obtain earlier | new := mem
      · obtain ⟨a, requested⟩ := ih earlier
        exact ⟨a, requested.append_singleton s⟩
      · split at new
        · next accepted =>
          obtain ⟨a, accepted⟩ := Option.isSome_iff_exists.1 accepted
          exact ⟨a, before, s.1, s.2, [], rfl, accepted, (List.mem_singleton.1 new).symm⟩
        · cases new
  · rintro ⟨a, before, env, act, after, rfl, accepted, rfl⟩
    rw [borrowed, collect_append, collect, accepted]
    exact List.mem_append_right _ (List.mem_append_left _ List.mem_cons_self)

/-- The receivers of the bridge that were not dropped. -/
def heldStates (m : Nat) (actions : List (Environment × Action)) : List Nat :=
  (borrowed m {} actions).filter ((({} : Bridge).run actions).keepsStates m)

/-! ## what becomes of a subscription of the bridge -/

/-- A request that is accepted is handed over with the subscription that it takes, or it is
refused and the subscription is dropped. -/
theorem brought_of_acceptedRequest (env : Environment)
    (accepted : b.acceptedRequest? m act = some a)
    (kept : (b.step env act).keepsStates m (b.taken m) = true) :
    (m, b.taken m) ∈ (b.step env act).brought a := by
  obtain ⟨machine, id, spec, admitted, presents⟩ := step_of_acceptedRequest env accepted
  have opened := (b.edits_openWindow m machine.window a spec).states? rfl
  have known : (b.openWindow m machine.window a spec).states? m = some machine.state :=
    (congrFun opened m).trans (states?_of_found (admitted_eq_ok_iff.1 admitted).1)
  rw [presents, ← taken_congr opened] at kept ⊢
  obtain ⟨-, dropped⟩ | ⟨handed, -⟩ :=
    (b.openWindow m machine.window a spec).tasks_present m a id spec
  · obtain ⟨s, found, kept⟩ := keepsStates_iff.1 kept
    cases found.symm.trans (dropped _ known)
    exact absurd kept (StateStream.not_keeps_drop _ _)
  · refine mem_brought.2 ⟨id, spec, ?_⟩
    rw [handed, if_pos rfl]
    exact List.mem_append_right _ List.mem_cons_self

/-- A task that presents a window stays queued until it starts a watcher with the subscription,
or drops it. -/
theorem watched_of_brought (alive : ∀ y, b.applications[a]? = some y → Alive y)
    (queued : (m, i) ∈ b.brought a) (kept : (b.step env act).keepsStates m i = true) :
    (m, i) ∈ (b.step env act).brought a ∨ ∃ (w : Nat) (id : Handle),
      (b.step env act).watchers[w]? =
        some { application := a, id, machine := m, subscription := i } := by
  obtain ⟨id, spec, queued⟩ := mem_brought.1 queued
  have runs : .present id spec m i ∈ (b.step env act).tasks a ∨ act = .mainTurn a ∧
      b.tasks a = .present id spec m i :: (b.step env act).tasks a :=
    (task_kept alive queued).imp_right fun h => ⟨h.1, h.2.1⟩
  obtain still | ⟨rfl, first⟩ := runs
  · exact .inl (mem_brought.2 ⟨id, spec, still⟩)
  right
  have turned := b.turnStep_mainTurn env a
  rw [step] at first kept ⊢
  generalize b.mainTurn env a = b' at turned first kept ⊢
  cases turned with
  | waits _ => exact absurd first.symm (List.cons_ne_self _ _)
  | @runs y t rest _ there task =>
    have same := (tasks_dequeue there task).symm.trans first
    obtain rfl : t = .present id spec m i := (List.cons.inj same).1
    cases held : (b.dequeue a).watcherOf? a id with
    | some w =>
      rw [runTask, runPresent,
        show ((b.dequeue a).applications[a]?).bind (·.watcher? id) = some w from held] at kept
      rw [keepsStates_dropStates] at kept
      cases kept
    | none =>
      have creates := creates_runPresent env spec m i (there_dequeue there) held
      refine ⟨(b.dequeue a).watchers.length, id, ?_⟩
      rw [runTask, creates.watchers, List.getElem?_concat_length]
  | @ends y ts _ there cause _ =>
    obtain none | asked := cause
    · exact absurd none (alive y there).handled
    · exact absurd asked (alive y there).unasked

/-- A watcher runs as long as its subscription is not dropped. -/
theorem running_of_keepsStates (found : b.watchers[w]? = some x) (running : x.running = true)
    (kept : (b.step env act).keepsStates x.machine x.subscription = true) :
    ∃ x', (b.step env act).watchers[w]? = some x' ∧ x.Later x' ∧ x'.running = true := by
  obtain ⟨x', found', later⟩ := watcher_step env act found
  refine ⟨x', found', later, ?_⟩
  by_contra stopped
  obtain rfl := (b.watcherStep_step env act).ends found running found'
    (Bool.eq_false_iff.2 stopped)
  have turned := b.watchStep_watch w
  rw [step] at found' kept
  generalize b.watch w = b' at turned found' kept
  have dropped {c : Bridge} {y : Watcher} (known : b.watchers[w]? = some y)
      (kept : (c.endWatcher w y).keepsStates x.machine x.subscription = true) : False := by
    cases found.symm.trans known
    rw [endWatcher, keepsStates_dropStates] at kept
    cases kept
  cases turned with
  | waits _ =>
    cases found.symm.trans found'
    exact stopped running
  | passes _ _ _ _ _ =>
    rw [watchers_receiveState] at found'
    cases found.symm.trans found'
    exact stopped running
  | stops known _ _ _ _ => exact dropped known kept
  | ends known _ _ _ => exact dropped known kept
  | closed known _ _ => exact dropped known kept

/-! ## every run -/

/-- A step shows the windows of a machine in one application, and respects them. -/
structure ShownIn (m a : Nat) (b : Bridge) (env : Environment) (act : Action) : Prop
    extends Respects m a b env act where
  requested : ∀ k, b.acceptedRequest? m act = some k → k = a

/-- A run shows the windows of a machine in one application if every accepted request names it. -/
theorem shownIn_of_respects (respects : b.Along (Respects m a) actions)
    (requested : b.Along (fun c _ act => ∀ k ∈ c.acceptedRequest? m act, k = a) actions) :
    b.Along (ShownIn m a) actions :=
  respects.and (fun _ _ _ h requested => ⟨h, requested⟩) requested

/-- A subscription is needed: a task that presents a window brings it along, or a watcher that
runs follows it. -/
def Needs (b : Bridge) (m a i : Nat) : Prop :=
  (m, i) ∈ b.brought a ∨ ∃ (w : Nat) (x : Watcher), b.watchers[w]? = some x ∧ x.machine = m ∧
    x.subscription = i ∧ x.running = true

/-- A receiver that is kept is still needed one step later. -/
theorem Needs.step (h : b.Needs m a i) (alive : ∀ y, b.applications[a]? = some y → Alive y)
    (kept : (b.step env act).keepsStates m i = true) : (b.step env act).Needs m a i := by
  obtain queued | ⟨w, x, found, rfl, rfl, running⟩ := h
  · obtain queued | ⟨w, id, found'⟩ := watched_of_brought alive queued kept
    · exact .inl queued
    · exact .inr ⟨w, _, found', rfl, rfl, rfl⟩
  · obtain ⟨x', found', later, running'⟩ := running_of_keepsStates found running kept
    exact .inr ⟨w, x', found', later.machine, later.subscription, running'⟩

theorem respects_of_shownIn (shown : ({} : Bridge).Along (ShownIn m a) actions) :
    ({} : Bridge).Along (Respects m a) actions :=
  shown.mono fun _ _ _ h => h.toRespects

theorem unasked_of_shownIn (shown : ({} : Bridge).Along (ShownIn m a) actions) :
    ∀ s ∈ actions, s.2 ≠ .quit a :=
  shown.forall (Q := fun _ act => act ≠ .quit a) fun _ _ _ h => h.unasked

/-- After every run the receivers of the bridge that were not dropped are needed. -/
theorem needs_run (shown : ({} : Bridge).Along (ShownIn m a) actions)
    (mem : i ∈ heldStates m actions) : (({} : Bridge).run actions).Needs m a i := by
  induction actions using List.reverseRecOn with
  | nil => cases mem
  | append_singleton before s ih =>
    obtain ⟨mem, kept⟩ := List.mem_filter.1 mem
    rw [run_append] at kept ⊢
    rw [along_append] at shown
    have alive {y : Application}
        (there : (({} : Bridge).run before).applications[a]? = some y) : Alive y :=
      alive_run (unasked_of_shownIn shown.1) there
    rw [borrowed_append_singleton, List.mem_append] at mem
    obtain earlier | new := mem
    · have taken := (borrowed_run m before).1 i earlier
      have kept' := keepsStates_step ⟨before, rfl⟩ taken kept
      exact (ih shown.1 (List.mem_filter.2 ⟨earlier, kept'⟩)).step (fun _ => alive) kept
    · split at new
      · next accepted =>
        obtain ⟨k, accepted⟩ := Option.isSome_iff_exists.1 accepted
        obtain rfl := List.mem_singleton.1 new
        obtain rfl := shown.2.1.requested k accepted
        exact .inl (brought_of_acceptedRequest s.1 accepted kept)
      · cases new

/-- The windows of the machine are in that application. -/
theorem Requested.eq_of_shownIn (h : Requested m k i actions)
    (shown : ({} : Bridge).Along (ShownIn m a) actions) : k = a := by
  obtain ⟨before, env, act, after, rfl, requested⟩ := h
  rw [along_append] at shown
  exact shown.2.1.requested k requested.accepted

end Bridge

end MachineBridge
