import MachineBridge.Proofs.History
import MachineBridge.Proofs.Windows.Views

/-!
# MachineBridge.Proofs.Windows.Watchers

The windows of all applications with their watchers.  A window is known by the number of the
watcher that was started with it: windows that follow each other under one token have nothing
else that tells them apart.  A step creates one window, closes one, ends a watcher, or leaves
all of them alone (`watcherStep_step`).

An application has a window exactly while the watcher of the window is open
(`attended_run`), and a window is closed by one event only (`closedOnce_run`).
-/

namespace MachineBridge

/-- What a watcher becomes: it follows the same subscription on behalf of the same window, and
it neither starts nor opens again. -/
structure Watcher.Later (x x' : Watcher) : Prop where
  application : x'.application = x.application
  id : x'.id = x.id
  machine : x'.machine = x.machine
  subscription : x'.subscription = x.subscription
  isOpen : x'.isOpen = true → x.isOpen = true
  running : x'.running = true → x.running = true

theorem Watcher.Later.refl (x : Watcher) : x.Later x :=
  ⟨rfl, rfl, rfl, rfl, fun h => h, fun h => h⟩

theorem Watcher.Later.trans {x₁ x₂ x₃ : Watcher} (first : x₁.Later x₂) (second : x₂.Later x₃) :
    x₁.Later x₃ where
  application := second.application.trans first.application
  id := second.id.trans first.id
  machine := second.machine.trans first.machine
  subscription := second.subscription.trans first.subscription
  isOpen h := first.isOpen (second.isOpen h)
  running h := first.running (second.running h)

namespace Bridge

variable {b b' : Bridge} {a k w : Nat} {id : Handle}

/-! ## what a step does to the windows -/

/-- A window is created with a watcher of its own. -/
structure Creates (b : Bridge) (k : Nat) (id : Handle) (m i : Nat) (b' : Bridge) : Prop where
  absent : b.watcherOf? k id = none
  watchers : b'.watchers =
    b.watchers ++ [{ application := k, id, machine := m, subscription := i }]
  held : ∀ a j, b'.watcherOf? a j =
    if a = k ∧ j = id then some b.watchers.length else b.watcherOf? a j
  closings : ∀ a, b'.closings a = b.closings a

/-- An event closes the window of a watcher. -/
structure Shuts (b : Bridge) (k : Nat) (id : Handle) (w : Nat) (e : WindowEvent)
    (b' : Bridge) : Prop where
  held : b.watcherOf? k id = some w
  event : e.closes? = some id
  watchers : b'.watchers = b.watchers.modify w fun x => { x with isOpen := false }
  lost : ∀ a j, b'.watcherOf? a j = if a = k ∧ j = id then none else b.watcherOf? a j
  closings : ∀ a, b'.closings a = if a = k then b.closings a ++ [e] else b.closings a

/-- Why a window is closed: by the user, or by a task of the main thread, because its machine
is torn down or because its watcher saw the machine stop. -/
inductive Cause (b : Bridge) (k : Nat) (id : Handle) (w : Nat) : Action → WindowEvent → Prop
  | user : Cause b k id w (.userClosed k id) (.closedByUser id)
  | teardown (task : .forget id ∈ b.tasks k) : Cause b k id w (.mainTurn k) (.called (.close id))
  | stop (task : .closeForStop id w ∈ b.tasks k) :
      Cause b k id w (.mainTurn k) (.called (.close id))

/-- What a step does to the windows and their watchers. -/
inductive WatcherStep (b : Bridge) (act : Action) (b' : Bridge) : Prop
  | undisturbed (h : Undisturbed b b')
  | ended {w : Nat} (cause : act = .watch w)
      (h : Undisturbed (b.modifyWatcher w fun x => { x with running := false }) b')
  | created {k m i : Nat} {id : Handle} {spec : WindowSpec} (cause : act = .mainTurn k)
      (task : b.tasks k = .present id spec m i :: b'.tasks k) (states : b'.states? = b.states?)
      (creates : Creates b k id m i b')
  | closed {k w : Nat} {id : Handle} {e : WindowEvent} (cause : Cause b k id w act e)
      (shuts : Shuts b k id w e b')

/-- An application that has a window is there. -/
theorem there_of_watcherOf? (held : b.watcherOf? a id = some w) :
    ∃ x, b.applications[a]? = some x ∧ x.watcher? id = some w := Option.bind_eq_some_iff.1 held

theorem Shuts.of_change {e : WindowEvent} {f : Application → Application}
    (held : b.watcherOf? k id = some w) (event : e.closes? = some id)
    (watchers : b'.watchers = b.watchers.modify w fun x => { x with isOpen := false })
    (after : ∀ a, b'.applications[a]? =
      if k = a then b.applications[a]?.map f else b.applications[a]?)
    (lost : ∀ x j, (f x).watcher? j = if j = id then none else x.watcher? j)
    (closings : ∀ x, (f x).closings = x.closings ++ [e]) : Shuts b k id w e b' where
  held := held
  event := event
  watchers := watchers
  lost a j := by
    rw [watcherOf?, after]
    by_cases same : k = a
    · subst same
      obtain ⟨x, there, -⟩ := there_of_watcherOf? held
      rw [watcherOf?, if_pos rfl, there, Option.map_some, Option.bind_some, lost]
      by_cases own : j = id
      · rw [if_pos own, if_pos ⟨rfl, own⟩]
      · rw [if_neg own, if_neg fun both => own both.2]
        rfl
    · rw [if_neg same, if_neg fun both => same both.1.symm]
      rfl
  closings a := by
    rw [Bridge.closings, after]
    by_cases same : k = a
    · subst same
      obtain ⟨x, there, -⟩ := there_of_watcherOf? held
      rw [if_pos rfl, if_pos rfl, there, Bridge.closings, there]
      exact closings x
    · rw [if_neg same, if_neg (Ne.symm same)]
      rfl

/-- What happens to other things before and after a window is closed does not matter. -/
theorem Shuts.between {b₁ b₂ : Bridge} {e : WindowEvent} (before : Undisturbed b b₁)
    (shuts : Shuts b₁ k id w e b₂) (after : Undisturbed b₂ b') : Shuts b k id w e b' where
  held := (before.held k id).symm.trans shuts.held
  event := shuts.event
  watchers := by rw [after.watchers, shuts.watchers, before.watchers]
  lost a j := by rw [after.held, shuts.lost, before.held]
  closings a := by rw [after.closings, shuts.closings, before.closings]

/-- What happens to other things before a window is created does not matter. -/
theorem Creates.behind {c : Bridge} {m i : Nat} (before : Undisturbed b c)
    (creates : Creates c k id m i b') : Creates b k id m i b' where
  absent := (before.held k id).symm.trans creates.absent
  watchers := by rw [creates.watchers, before.watchers]
  held a j := by rw [creates.held, before.watchers, before.held]
  closings a := (creates.closings a).trans (before.closings a)

/-! ### the user -/

/-- A report that a window was closed closes it, if the application has it. -/
theorem watcherStep_userClosed (b : Bridge) (k : Nat) (id : Handle) :
    WatcherStep b (.userClosed k id) (b.userClosed k id) := by
  unfold userClosed
  split
  · exact .undisturbed (.refl b)
  · next w held =>
    let removed := (b.removeController k id w).modifyApplication k fun x =>
      { x with history := x.history ++ [.closedByUser id] }
    have shuts : Shuts b k id w (.closedByUser id) removed :=
      .of_change held rfl rfl (fun a => b.getElem?_modifyApplication_twice k a _ _)
        (fun x j => x.watcher?_eraseController id j) fun x => List.filter_append ..
    have begun (n : Nat) : Undisturbed removed (removed.beginStop n) := .of_eq rfl rfl
    have told (c : Bridge) : Undisturbed c (c.receive (.windowClosed id)).1 :=
      (c.edits_receive (.windowClosed id)).undisturbed rfl
    dsimp only
    split
    · exact .closed .user (.between (.refl b) shuts ((begun _).trans (told _)))
    · exact .closed .user (.between (.refl b) shuts (told _))

/-! ### the main thread -/

/-- Showing and raising windows closes none. -/
theorem undisturbed_runPresent {env : Environment} {spec : WindowSpec} {m i : Nat}
    (held : b.watcherOf? k id = some w) :
    Undisturbed b (b.runPresent env k id spec m i) := by
  rw [runPresent, show (b.applications[k]?).bind (·.watcher? id) = some w from held]
  have called := b.undisturbed_callToolkit env k [.show id, .bringToFront id]
    (by simp [WindowEvent.closes?])
  exact called.trans (.of_eq rfl rfl)

/-- A window that is not there is created with a new watcher. -/
theorem creates_runPresent (env : Environment) {x : Application} (spec : WindowSpec) (m i : Nat)
    (there : b.applications[k]? = some x) (absent : b.watcherOf? k id = none) :
    Creates b k id m i (b.runPresent env k id spec m i) := by
  let watched : Bridge := { b with
    watchers := b.watchers ++ [{ application := k, id, machine := m, subscription := i }] }
  let inserted := watched.modifyApplication k (·.insertController id b.watchers.length)
  have called := inserted.undisturbed_callToolkit env k
    [.create id spec, .show id, .bringToFront id] (by simp [WindowEvent.closes?])
  rw [runPresent, show (b.applications[k]?).bind (·.watcher? id) = none from absent]
  refine ⟨absent, called.watchers, fun a j => (called.held a j).trans ?_, fun a => ?_⟩
  · rw [watcherOf?_modifyApplication]
    by_cases same : k = a
    · subst same
      rw [if_pos rfl, show watched.applications[k]? = some x from there, Option.bind_some,
        Application.watcher?_insertController, watcherOf?_of_found there]
      by_cases own : j = id
      · rw [if_pos own, if_pos ⟨rfl, own⟩]
      · rw [if_neg own, if_neg fun both => own both.2]
    · rw [if_neg same, if_neg fun both => same both.1.symm]
      rfl
  · refine (called.closings a).trans ?_
    rw [closings_modifyApplication]
    split <;> rfl

/-- A task of the main thread closes a window together with its controller. -/
theorem shuts_removeController (env : Environment) (held : b.watcherOf? k id = some w) :
    Shuts b k id w (.called (.close id))
      ((b.removeController k id w).callToolkit env k [.close id]) := by
  refine .of_change held rfl rfl (fun a => b.getElem?_modifyApplication_twice k a _ _) ?_ ?_
  · intro x j
    rw [Application.watcher?_recordUpToPanic, Application.watcher?_eraseController]
  · intro x
    exact Application.closings_close _ _ id

theorem tasks_runTask (env : Environment) (b : Bridge) (a : Nat) (t : MainTask) (k : Nat) :
    (b.runTask env a t).tasks k = b.tasks k := by
  obtain ⟨x, x', -, there, there', queue, -⟩ | ⟨-, idle⟩ := b.runsAt_runTask env a t k
  · rw [tasks_of_found there, tasks_of_found there', queue]
  · obtain ⟨absent, absent'⟩ | ⟨x, x', there, there', idle⟩ := idle
    · rw [tasks, tasks, absent, absent']
    · rw [tasks_of_found there, tasks_of_found there', idle.queue]

/-- What the first task of a queue does to the windows. -/
theorem watcherStep_runTask (env : Environment) {c : Bridge} {x : Application} {t : MainTask}
    (there : c.applications[k]? = some x) (same : Undisturbed b c)
    (states : c.states? = b.states?) (task : b.tasks k = t :: c.tasks k) :
    WatcherStep b (.mainTurn k) (c.runTask env k t) := by
  have first : t ∈ b.tasks k := task ▸ List.mem_cons_self
  have edited := c.edits_runTask env k t
  cases t with
  | present id spec m i =>
    cases held : c.watcherOf? k id with
    | some w => exact .undisturbed (same.trans (undisturbed_runPresent held))
    | none =>
      have creates := creates_runPresent env spec m i there held
      have queued := c.tasks_runTask env k (.present id spec m i) k
      refine .created rfl (by rw [queued]; exact task) ?_ (creates.behind same)
      rw [runTask, runPresent, show (c.applications[k]?).bind (·.watcher? id) = none from held]
      exact states
  | forget id =>
    rw [runTask, runForget]
    split
    · exact .undisturbed same
    · next w held =>
      exact .closed (.teardown first) (.between same (shuts_removeController env held) (.refl _))
  | closeForStop id w =>
    rw [runTask, runCloseForStop]
    split
    · next held =>
      have shuts := shuts_removeController env held
      dsimp only
      split
      · exact .closed (.stop first) (.between same shuts (.refl _))
      · exact .closed (.stop first)
          (.between same shuts ((edits_receive _ (.windowClosed id)).undisturbed rfl))
    · exact .undisturbed same
  | _ => exact .undisturbed (same.trans (edited.undisturbed rfl))

theorem undisturbed_dequeue (b : Bridge) (a : Nat) : Undisturbed b (b.dequeue a) :=
  (b.edits_dequeue a).undisturbed rfl

theorem undisturbed_discardTasks (b : Bridge) (ts : List MainTask) :
    Undisturbed b (ts.foldl discardTask b) := (b.edits_discardTasks ts).undisturbed rfl

theorem tasks_dequeue {x : Application} {t : MainTask} {rest : List (Message MainTask)}
    (there : b.applications[a]? = some x) (task : x.queue.messages = .run t :: rest) :
    b.tasks a = t :: (b.dequeue a).tasks a := by
  rw [tasks_of_found there, tasks_of_found (there_dequeue there),
    Application.tasks_of_messages task, take_of_run task]

/-- A turn of a main loop creates a window, closes one or leaves them. -/
theorem watcherStep_mainTurn (env : Environment) (b : Bridge) (a : Nat) :
    WatcherStep b (.mainTurn a) (b.mainTurn env a) := by
  have turned := b.turnStep_mainTurn env a
  generalize b.mainTurn env a = b' at turned ⊢
  cases turned with
  | waits _ => exact .undisturbed (.refl b)
  | runs _ there task =>
    exact watcherStep_runTask env (there_dequeue there) (b.undisturbed_dequeue a) rfl
      (tasks_dequeue there task)
  | ends _ _ _ _ =>
    exact .undisturbed ((b.undisturbed_dequeue a).trans (undisturbed_discardTasks _ _))

/-! ### watchers -/

/-- A watcher that ends leaves its window open. -/
theorem watcherStep_watch (b : Bridge) (w : Nat) : WatcherStep b (.watch w) (b.watch w) := by
  have turned := b.watchStep_watch w
  generalize b.watch w = b' at turned ⊢
  have received (m i : Nat) : Undisturbed b (b.receiveState m i).1 :=
    (b.edits_receiveState m i).undisturbed rfl
  have ended {c : Bridge} (watcher : Watcher) (same : Undisturbed b c) :
      WatcherStep b (.watch w) (c.endWatcher w watcher) := by
    refine .ended rfl ⟨?_, same.held, same.closings⟩
    show c.watchers.modify w _ = b.watchers.modify w _
    rw [same.watchers]
  cases turned with
  | waits _ => exact .undisturbed (.refl b)
  | passes _ _ _ _ _ => exact .undisturbed (received _ _)
  | stops _ _ _ _ _ =>
    exact ended _ ((received _ _).trans ((edits_dispatch ..).undisturbed rfl))
  | ends _ _ _ _ => exact ended _ (received _ _)
  | closed _ _ _ => exact ended _ (.refl b)

/-! ### every step -/

/-- Each step does one of these things to the windows and their watchers. -/
theorem watcherStep_step (env : Environment) (b : Bridge) (act : Action) :
    WatcherStep b act (b.step env act) := by
  by_cases apart : Part.apart act.parts [.watchers, .watching, .controllers, .closings] = true
  · exact .undisturbed ((b.edits_step env act).undisturbed apart)
  cases act with
  | userClosed a id => exact b.watcherStep_userClosed a id
  | receive e => exact absurd (by cases e <;> rfl) apart
  | mainTurn a => exact b.watcherStep_mainTurn env a
  | watch w => exact b.watcherStep_watch w
  | _ => exact absurd rfl apart

/-! ## watchers over time -/

variable {x x' : Watcher}

/-- A watcher that is found after a modification was modified or left alone. -/
theorem modified_watcher {ws : List Watcher} {j : Nat} {f : Watcher → Watcher}
    (found' : (ws.modify j f)[w]? = some x') :
    ∃ x, ws[w]? = some x ∧ (j = w ∧ x' = f x ∨ j ≠ w ∧ x' = x) := by
  rw [getElem?_modify_watchers] at found'
  split at found'
  · next own =>
    obtain ⟨x, found, rfl⟩ := Option.map_eq_some_iff.1 found'
    exact ⟨x, found, .inl ⟨own, rfl⟩⟩
  · next other => exact ⟨x', found', .inr ⟨other, rfl⟩⟩

theorem watcher_of_modify {f : Watcher → Watcher} (hf : ∀ y : Watcher, y.Later (f y)) {j : Nat}
    (found : b.watchers[w]? = some x) :
    ∃ x', (b.watchers.modify j f)[w]? = some x' ∧ x.Later x' := by
  rw [getElem?_modify_watchers, found]
  split
  · exact ⟨f x, rfl, hf x⟩
  · exact ⟨x, rfl, .refl x⟩

theorem later_ended (x : Watcher) : x.Later { x with running := false } :=
  ⟨rfl, rfl, rfl, rfl, fun h => h, fun h => absurd h Bool.false_ne_true⟩

theorem later_shut (x : Watcher) : x.Later { x with isOpen := false } :=
  ⟨rfl, rfl, rfl, rfl, fun h => absurd h Bool.false_ne_true, fun h => h⟩

/-- A watcher is never lost. -/
theorem WatcherStep.watcher {act : Action} (h : WatcherStep b act b')
    (found : b.watchers[w]? = some x) : ∃ x', b'.watchers[w]? = some x' ∧ x.Later x' := by
  cases h with
  | undisturbed same => exact ⟨x, same.watchers ▸ found, .refl x⟩
  | ended _ same =>
    rw [same.watchers]
    exact watcher_of_modify later_ended found
  | created _ _ _ creates =>
    rw [creates.watchers, List.getElem?_append_left (List.getElem?_eq_some_iff.1 found).1]
    exact ⟨x, found, .refl x⟩
  | closed _ shuts =>
    rw [shuts.watchers]
    exact watcher_of_modify later_shut found

/-- A watcher is never taken away. -/
theorem watcher_step (env : Environment) (act : Action) (found : b.watchers[w]? = some x) :
    ∃ x', (b.step env act).watchers[w]? = some x' ∧ x.Later x' :=
  (b.watcherStep_step env act).watcher found

/-- A watcher follows the same subscription after every run. -/
theorem watcher_run (actions : List (Environment × Action)) (found : b.watchers[w]? = some x) :
    ∃ x', (b.run actions).watchers[w]? = some x' ∧ x.Later x' := by
  induction actions generalizing b x with
  | nil => exact ⟨x, found, .refl x⟩
  | cons s rest ih =>
    obtain ⟨y, found', first⟩ := watcher_step s.1 s.2 found
    obtain ⟨x', found'', second⟩ := ih found'
    exact ⟨x', found'', first.trans second⟩

/-- A watcher was there before, or it has just been started with its window. -/
theorem WatcherStep.watcher_before {act : Action} (h : WatcherStep b act b')
    (found' : b'.watchers[w]? = some x') :
    (∃ x, b.watchers[w]? = some x ∧ x.Later x') ∨
      ∃ k id spec m i, act = .mainTurn k ∧ b.tasks k = .present id spec m i :: b'.tasks k ∧
        b'.states? = b.states? ∧ w = b.watchers.length ∧
        x' = { application := k, id, machine := m, subscription := i } := by
  have modified {f : Watcher → Watcher} (hf : ∀ y : Watcher, y.Later (f y)) {j : Nat}
      (found' : (b.watchers.modify j f)[w]? = some x') :
      ∃ x, b.watchers[w]? = some x ∧ x.Later x' := by
    obtain ⟨x, found, ⟨-, rfl⟩ | ⟨-, rfl⟩⟩ := modified_watcher found'
    · exact ⟨x, found, hf x⟩
    · exact ⟨x', found, .refl x'⟩
  cases h with
  | undisturbed same => exact .inl ⟨x', same.watchers ▸ found', .refl x'⟩
  | ended _ same => exact .inl (modified later_ended (same.watchers ▸ found'))
  | @created k m i id spec cause task states creates =>
    rw [creates.watchers, List.getElem?_append] at found'
    split at found'
    · exact .inl ⟨x', found', .refl x'⟩
    · next beyond =>
      obtain ⟨here, fresh⟩ := List.getElem?_eq_some_iff.1 found'
      rw [List.length_singleton] at here
      obtain rfl : w = b.watchers.length := by omega
      refine .inr ⟨k, id, spec, m, i, cause, task, states, rfl, ?_⟩
      rw [← fresh]
      simp
  | closed _ shuts => exact .inl (modified later_shut (shuts.watchers ▸ found'))

/-! ## windows and watchers -/

/-- A window has a watcher that is open. -/
def Opens (b : Bridge) (a : Nat) (id : Handle) (w : Nat) : Prop :=
  ∃ x, b.watchers[w]? = some x ∧ x.application = a ∧ x.id = id ∧ x.isOpen = true

/-- An application has a window exactly while the watcher of the window is open. -/
def Attended (b : Bridge) : Prop := ∀ a id w, b.watcherOf? a id = some w ↔ b.Opens a id w

theorem attended_of_undisturbed (attended : b.Attended) (same : Undisturbed b b') :
    b'.Attended := by
  intro a id w
  rw [same.held, attended a id w, Opens, Opens, same.watchers]

theorem attended_of_ended {j : Nat} (attended : b.Attended) :
    (b.modifyWatcher j fun x => { x with running := false }).Attended := by
  intro a id w
  refine (attended a id w).trans ?_
  rw [Opens, Opens, modifyWatcher, getElem?_modify_watchers]
  cases b.watchers[w]? with
  | none => simp
  | some x => split <;> simp

theorem Creates.attended {m i : Nat} (creates : Creates b k id m i b') (attended : b.Attended) :
    b'.Attended := by
  intro a j w
  rw [creates.held, Opens, creates.watchers]
  constructor
  · intro held
    split at held
    · next both =>
      obtain ⟨rfl, rfl⟩ := both
      cases held
      exact ⟨_, List.getElem?_concat_length, rfl, rfl, rfl⟩
    · obtain ⟨x, found, known⟩ := (attended a j w).1 held
      refine ⟨x, ?_, known⟩
      rw [List.getElem?_append_left (List.getElem?_eq_some_iff.1 found).1, found]
  · rintro ⟨x, found, rfl, rfl, isOpen⟩
    rw [List.getElem?_append] at found
    split at found
    · have held := (attended x.application x.id w).2 ⟨x, found, rfl, rfl, isOpen⟩
      rw [if_neg]
      · exact held
      · rintro ⟨own, same⟩
        rw [own, same, creates.absent] at held
        cases held
    · obtain ⟨here, rfl⟩ := List.getElem?_eq_some_iff.1 found
      rw [List.length_singleton] at here
      obtain rfl : w = b.watchers.length := by omega
      simp

theorem Shuts.attended {e : WindowEvent} {j : Nat} (shuts : Shuts b k id j e b')
    (attended : b.Attended) : b'.Attended := by
  intro a i w
  rw [shuts.lost, Opens, shuts.watchers]
  constructor
  · intro held
    split at held
    · cases held
    · next other =>
      obtain ⟨x, found, own, same, isOpen⟩ := (attended a i w).1 held
      refine ⟨x, ?_, own, same, isOpen⟩
      rw [getElem?_modify_watchers, if_neg]
      · exact found
      · rintro rfl
        obtain ⟨y, found', own', same', -⟩ := (attended k id j).1 shuts.held
        cases found.symm.trans found'
        exact other ⟨own.symm.trans own', same.symm.trans same'⟩
  · rintro ⟨x', found', own, same, isOpen⟩
    obtain ⟨x, found, ⟨-, rfl⟩ | ⟨other, rfl⟩⟩ := modified_watcher found'
    · cases isOpen
    · have held := (attended a i w).2 ⟨x', found, own, same, isOpen⟩
      rw [if_neg]
      · exact held
      · rintro ⟨rfl, rfl⟩
        exact other (Option.some.inj (shuts.held.symm.trans held))

theorem WatcherStep.attended {act : Action} (h : WatcherStep b act b') (attended : b.Attended) :
    b'.Attended := by
  cases h with
  | undisturbed same => exact attended_of_undisturbed attended same
  | ended _ same => exact attended_of_undisturbed (attended_of_ended attended) same
  | created _ _ _ creates => exact creates.attended attended
  | closed _ shuts => exact shuts.attended attended

/-- After every run an application has a window exactly if its watcher is open. -/
theorem attended_run (actions : List (Environment × Action)) :
    (({} : Bridge).run actions).Attended := by
  induction actions using List.reverseRecOn with
  | nil =>
    intro a id w
    constructor
    · intro held
      cases held
    · rintro ⟨x, found, -⟩
      cases found
  | append_singleton before s ih =>
    rw [run_append]
    exact (watcherStep_step s.1 _ s.2).attended ih

/-! ## windows that were closed -/

/-- What a step closes in an application: the windows, by their watchers, each with the event
that closes it. -/
def shutBy (a : Nat) (b : Bridge) (env : Environment) (act : Action) :
    List (Nat × WindowEvent) :=
  (((b.step env act).closings a).drop (b.closings a).length).filterMap fun e =>
    (e.closes?.bind (b.watcherOf? a)).map fun w => (w, e)

/-- The windows of an application that were closed in a run, in order. -/
def shut (a : Nat) (b : Bridge) (actions : List (Environment × Action)) :
    List (Nat × WindowEvent) := b.collect (shutBy a) actions

/-- The windows of an application that were closed are those whose watcher is not open, and
each of them was closed by one event. -/
structure ClosedOnce (b : Bridge) (a : Nat) (shut : List (Nat × WindowEvent)) : Prop where
  recorded : shut.map Prod.snd = b.closings a
  once : (shut.map Prod.fst).Nodup
  known : ∀ w e, (w, e) ∈ shut → ∃ x, b.watchers[w]? = some x ∧ x.application = a ∧
    x.isOpen = false ∧ e.closes? = some x.id
  all : ∀ w x, b.watchers[w]? = some x → x.application = a → x.isOpen = false →
    w ∈ shut.map Prod.fst

theorem shutBy_of_same {env : Environment} {act : Action}
    (same : (b.step env act).closings a = b.closings a) : shutBy a b env act = [] := by
  rw [shutBy, same, List.drop_length]
  rfl

/-- A step that closes a window does so in its own application. -/
theorem shutBy_of_shuts {env : Environment} {act : Action} {e : WindowEvent}
    (shuts : Shuts b k id w e (b.step env act)) :
    shutBy a b env act = if a = k then [(w, e)] else [] := by
  by_cases own : a = k
  · subst own
    rw [shutBy, shuts.closings, if_pos rfl, if_pos rfl, List.drop_left, List.filterMap_cons,
      shuts.event, Option.bind_some, shuts.held]
    rfl
  · rw [if_neg own]
    exact shutBy_of_same (by rw [shuts.closings, if_neg own])

/-- A window that a step closes was there. -/
theorem watcherOf?_of_shutBy {env : Environment} {act : Action} {e : WindowEvent}
    (mem : (w, e) ∈ shutBy a b env act) :
    ∃ id, e.closes? = some id ∧ b.watcherOf? a id = some w := by
  obtain ⟨f, -, entry⟩ := List.mem_filterMap.1 mem
  obtain ⟨j, held, same⟩ := Option.map_eq_some_iff.1 entry
  cases same
  exact Option.bind_eq_some_iff.1 held

/-- A window that is not closed by a step was closed before. -/
theorem WatcherStep.shut_before {act : Action} (h : WatcherStep b act b')
    (found' : b'.watchers[w]? = some x') (closed : x'.isOpen = false) :
    (∃ x, b.watchers[w]? = some x ∧ x.Later x' ∧ x.isOpen = false) ∨
      ∃ k id e, Shuts b k id w e b' := by
  cases h with
  | undisturbed same => exact .inl ⟨x', same.watchers ▸ found', .refl x', closed⟩
  | ended _ same =>
    rw [same.watchers] at found'
    obtain ⟨x, found, ⟨-, rfl⟩ | ⟨-, rfl⟩⟩ := modified_watcher found'
    · exact .inl ⟨x, found, later_ended x, closed⟩
    · exact .inl ⟨x', found, .refl x', closed⟩
  | created _ _ _ creates =>
    rw [creates.watchers, List.getElem?_append] at found'
    split at found'
    · exact .inl ⟨x', found', .refl x', closed⟩
    · obtain ⟨here, rfl⟩ := List.getElem?_eq_some_iff.1 found'
      rw [List.length_singleton] at here
      obtain rfl : w = b.watchers.length := by omega
      simp at closed
  | @closed k j id e _ shuts =>
    rw [shuts.watchers] at found'
    obtain ⟨x, found, ⟨rfl, -⟩ | ⟨-, rfl⟩⟩ := modified_watcher found'
    · exact .inr ⟨k, id, e, shuts⟩
    · exact .inl ⟨x', found, .refl x', closed⟩

/-- A step closes one window only. -/
theorem Shuts.unique {k' w' : Nat} {id' : Handle} {e e' : WindowEvent}
    (shuts : Shuts b k id w e b') (shuts' : Shuts b k' id' w' e' b') : k' = k ∧ w' = w := by
  have more := shuts'.closings k'
  rw [if_pos rfl, shuts.closings] at more
  split at more
  · next same =>
    subst same
    rw [List.append_cancel_left_eq, List.cons.injEq] at more
    obtain ⟨rfl, -⟩ := more
    obtain rfl := Option.some.inj (shuts.event.symm.trans shuts'.event)
    exact ⟨rfl, Option.some.inj (shuts'.held.symm.trans shuts.held)⟩
  · exact absurd (congrArg List.length more) (by simp)

/-- A step that closes a window adds to what closed windows of its application. -/
theorem Shuts.ne_of_same {e : WindowEvent} (shuts : Shuts b k id w e b')
    (same : b'.closings a = b.closings a) : k ≠ a := by
  rintro rfl
  have more := shuts.closings k
  rw [if_pos rfl, same] at more
  exact absurd (congrArg List.length more) (by simp)

/-- What was closed stays closed. -/
theorem ClosedOnce.known_step {shut : List (Nat × WindowEvent)} (h : b.ClosedOnce a shut)
    (env : Environment) (act : Action) {e : WindowEvent} (mem : (w, e) ∈ shut) :
    ∃ x, (b.step env act).watchers[w]? = some x ∧ x.application = a ∧ x.isOpen = false ∧
      e.closes? = some x.id := by
  obtain ⟨x, found, own, closed, event⟩ := h.known w e mem
  obtain ⟨x', found', later⟩ := watcher_step env act found
  refine ⟨x', found', later.application.trans own, ?_, later.id ▸ event⟩
  exact Bool.eq_false_iff.2 fun isOpen => Bool.eq_false_iff.1 closed (later.isOpen isOpen)

/-- A step that closes no window of the application. -/
theorem ClosedOnce.step_of_same {shut : List (Nat × WindowEvent)} (h : b.ClosedOnce a shut)
    (attended : b.Attended) {env : Environment} {act : Action}
    (same : (b.step env act).closings a = b.closings a) :
    (b.step env act).ClosedOnce a (shut ++ shutBy a b env act) := by
  rw [shutBy_of_same same, List.append_nil]
  refine ⟨h.recorded.trans same.symm, h.once, fun w e => h.known_step env act,
    fun w x' found' own closed => ?_⟩
  obtain ⟨x, found, later, closed⟩ | ⟨k, id, e, shuts⟩ :=
    (b.watcherStep_step env act).shut_before found' closed
  · exact h.all w x found (later.application ▸ own) closed
  · obtain ⟨y, found, elsewhere, -, -⟩ := (attended k id w).1 shuts.held
    obtain ⟨y', found'', later⟩ := watcher_step env act found
    cases found'.symm.trans found''
    exact absurd (elsewhere.symm.trans (later.application.symm.trans own)) (shuts.ne_of_same same)

/-- A step that closes a window of the application. -/
theorem ClosedOnce.step_of_shuts {shut : List (Nat × WindowEvent)} (h : b.ClosedOnce a shut)
    (attended : b.Attended) {env : Environment} {act : Action} {e : WindowEvent}
    (shuts : Shuts b a id w e (b.step env act)) :
    (b.step env act).ClosedOnce a (shut ++ shutBy a b env act) := by
  obtain ⟨x, found, own, named, isOpen⟩ := (attended a id w).1 shuts.held
  have fresh : w ∉ shut.map Prod.fst := by
    intro mem
    obtain ⟨entry, known, rfl⟩ := List.mem_map.1 mem
    obtain ⟨y, found', -, closed, -⟩ := h.known entry.1 entry.2 known
    cases found.symm.trans found'
    rw [isOpen] at closed
    cases closed
  rw [shutBy_of_shuts shuts, if_pos rfl]
  constructor
  · rw [List.map_append, h.recorded, shuts.closings, if_pos rfl]
    rfl
  · rw [List.map_append]
    refine List.nodup_append.2 ⟨h.once, List.pairwise_singleton _ w, fun j mem l single => ?_⟩
    obtain rfl := List.mem_singleton.1 single
    exact fun same => fresh (same ▸ mem)
  · intro j f mem
    obtain mem | new := List.mem_append.1 mem
    · exact h.known_step env act mem
    · cases List.mem_singleton.1 new
      refine ⟨{ x with isOpen := false }, ?_, own, rfl, named ▸ shuts.event⟩
      rw [shuts.watchers, getElem?_modify_watchers, found]
      simp
  · intro j x' found' own' closed
    rw [List.map_append, List.mem_append]
    obtain ⟨y, found, later, closed⟩ | ⟨k, id', f, shuts'⟩ :=
      (b.watcherStep_step env act).shut_before found' closed
    · exact .inl (h.all j y found (later.application ▸ own') closed)
    · obtain ⟨-, rfl⟩ := shuts.unique shuts'
      exact .inr List.mem_cons_self

/-- A window that a step closes was not closed before. -/
theorem ClosedOnce.step {shut : List (Nat × WindowEvent)} (h : b.ClosedOnce a shut)
    (attended : b.Attended) (env : Environment) (act : Action) :
    (b.step env act).ClosedOnce a (shut ++ shutBy a b env act) := by
  cases b.watcherStep_step env act with
  | undisturbed same => exact h.step_of_same attended (same.closings a)
  | ended _ same => exact h.step_of_same attended (same.closings a)
  | created _ _ _ creates => exact h.step_of_same attended (creates.closings a)
  | @closed k w id e _ shuts =>
    by_cases own : a = k
    · subst own
      exact h.step_of_shuts attended shuts
    · exact h.step_of_same attended (by rw [shuts.closings, if_neg own])

/-- After every run each window of an application that was closed was closed once. -/
theorem closedOnce_run (a : Nat) (actions : List (Environment × Action)) :
    (({} : Bridge).run actions).ClosedOnce a (shut a {} actions) := by
  induction actions using List.reverseRecOn with
  | nil =>
    refine ⟨rfl, List.nodup_nil, fun w e mem => ?_, fun w x found => ?_⟩
    · cases mem
    · cases found
  | append_singleton before s ih =>
    rw [run_append, shut, collect_append_singleton]
    exact ih.step (attended_run before) s.1 s.2

end Bridge

end MachineBridge
