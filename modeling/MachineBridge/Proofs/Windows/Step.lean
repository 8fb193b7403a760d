import MachineBridge.Proofs.Machines
import MachineBridge.Proofs.Windows.Marks

/-!
# MachineBridge.Proofs.Windows.Step

What one step of the bridge does to an application: nothing to its queue and its windows,
one more task behind all others, one task less in front with what the task does, a window
closed by the user, or the end of its main loop (`appStep_step`).

A task that presents a window comes from a request that was let pass, under the window
token of its machine, and a task that forgets one from the teardown of its machine.
-/

namespace MachineBridge

/-- The queue and the windows of an application are left alone. -/
structure Application.Idle (x x' : Application) : Prop where
  queue : x'.queue = x.queue
  windows : x.SameWindows x'

theorem Application.Idle.refl (x : Application) : x.Idle x := ⟨rfl, .refl x⟩

theorem Application.Idle.trans {x₁ x₂ x₃ : Application} (first : x₁.Idle x₂)
    (second : x₂.Idle x₃) : x₁.Idle x₃ where
  queue := second.queue.trans first.queue
  windows :=
    { watchers := fun id => (second.windows.watchers id).trans (first.windows.watchers id)
      marks := fun id => (second.windows.marks id).trans (first.windows.marks id) }

namespace Bridge

/-- Why a task is handed to the main thread of an application. -/
inductive Posts (b : Bridge) (act : Action) (a : Nat) (b' : Bridge) : MainTask → Prop
  | present {m i : Nat} {s : MachineSkeleton} {id : Handle} {spec : WindowSpec}
      (found : b.skeleton? m = some s) (admits : s.Admits PlatformVersion.forStopAndGraphics)
      (requests : Requests m s.window a spec act)
      (registered : ∃ s', b'.skeleton? m = some s' ∧ s'.window.token = some id) :
      Posts b act a b' (.present id spec m i)
  | forget {m : Nat} {s : MachineSkeleton} {id : Handle} (found : b.skeleton? m = some s)
      (token : s.window.token = some id)
      (gone : b'.skeleton? m = some { s with phase := .releasing, window := {} }) :
      Posts b act a b' (.forget id)
  | other {t : MainTask} (present : ∀ id spec m i, t ≠ .present id spec m i)
      (forget : ∀ id, t ≠ .forget id)
      (stop : ∀ id w, t = .closeForStop id w → act = .watch w) : Posts b act a b' t

/-- What an action does to an application that there is. -/
inductive AppChange (b : Bridge) (act : Action) (a : Nat) (b' : Bridge) (x : Application) :
    Application → Prop
  | idle {x' : Application} (h : x.Idle x') : AppChange b act a b' x x'
  | posted {t : MainTask} (posts : Posts b act a b' t) : AppChange b act a b' x (x.post t)
  | quit (cause : act = .quit a) : AppChange b act a b' x { x with queue := x.queue.quit }
  | userClosed {id : Handle} {x' : Application} (cause : act = .userClosed a id)
      (queue : x'.queue = x.queue) (closes : x.Closes id x') : AppChange b act a b' x x'
  | ran {t : MainTask} {rest : List (Message MainTask)} {x' : Application}
      (cause : act = .mainTurn a) (task : x.queue.messages = .run t :: rest)
      (queue : x'.queue = { x.queue with messages := rest }) (runs : x.Runs t x') :
      AppChange b act a b' x x'
  | ended (cause : act = .mainTurn a) (ends : x.queue.handles = 0 ∨ .quit ∈ x.queue.messages) :
      AppChange b act a b' x { x with queue := x.queue.finish }

/-- What an action does to the application of a number. -/
inductive AppStep (b : Bridge) (act : Action) (a : Nat) (b' : Bridge) : Prop
  | none (absent : b.applications[a]? = none) (absent' : b'.applications[a]? = none)
  | added (absent : b.applications[a]? = none) (fresh : b'.applications[a]? = some {})
  | changed {x x' : Application} (found : b.applications[a]? = some x)
      (found' : b'.applications[a]? = some x') (change : AppChange b act a b' x x')

/-! ## idle changes -/

/-- The application of a number is left alone, up to idle changes. -/
def IdleAt (b b' : Bridge) (a : Nat) : Prop :=
  b.applications[a]? = none ∧ b'.applications[a]? = none ∨
    ∃ x x', b.applications[a]? = some x ∧ b'.applications[a]? = some x' ∧ x.Idle x'

theorem IdleAt.of_eq {b b' : Bridge} {a : Nat} (h : b'.applications[a]? = b.applications[a]?) :
    IdleAt b b' a := by
  cases found : b.applications[a]? with
  | none => exact .inl ⟨found, h.trans found⟩
  | some x => exact .inr ⟨x, x, found, h.trans found, .refl x⟩

theorem IdleAt.trans {b₁ b₂ b₃ : Bridge} {a : Nat} (first : IdleAt b₁ b₂ a)
    (second : IdleAt b₂ b₃ a) : IdleAt b₁ b₃ a := by
  obtain ⟨h₁, h₂⟩ | ⟨x₁, x₂, h₁, h₂, idle⟩ := first
  · obtain ⟨-, h₃⟩ | ⟨x, _, h, -, -⟩ := second
    · exact .inl ⟨h₁, h₃⟩
    · rw [h₂] at h; contradiction
  · obtain ⟨h, -⟩ | ⟨x, x₃, h, h₃, idle'⟩ := second
    · rw [h₂] at h; contradiction
    · cases h₂.symm.trans h
      exact .inr ⟨x₁, x₃, h₁, h₃, idle.trans idle'⟩

/-- An idle change of one application. -/
theorem idleAt_modifyApplication (b : Bridge) (a : Nat) {f : Application → Application}
    (idle : ∀ x : Application, x.Idle (f x)) (k : Nat) : IdleAt b (b.modifyApplication a f) k := by
  cases found : b.applications[k]? with
  | none =>
    refine .inl ⟨found, ?_⟩
    rw [getElem?_modifyApplication, found]
    exact ite_self _
  | some x =>
    rw [IdleAt, getElem?_modifyApplication, found]
    split
    · exact .inr ⟨x, f x, rfl, rfl, idle x⟩
    · exact .inr ⟨x, x, rfl, rfl, .refl x⟩

theorem queue_recordUpToPanic (x : Application) (panics : ToolkitCall → Bool)
    (cs : List ToolkitCall) : (x.recordUpToPanic panics cs).queue = x.queue := by
  rw [Application.recordUpToPanic]
  generalize Application.upToPanic panics cs = ds
  induction ds generalizing x with
  | nil => rfl
  | cons d rest ih => exact (ih (x.record d)).trans rfl

/-- Showing, raising and looking at windows is idle. -/
theorem idle_recordUpToPanic (x : Application) (panics : ToolkitCall → Bool) {cs : List ToolkitCall}
    (quiet : ∀ c ∈ cs, ∀ id, WindowEvent.mark? id (.called c) = none) :
    x.Idle (x.recordUpToPanic panics cs) where
  queue := queue_recordUpToPanic x panics cs
  windows := x.sameWindows_recordUpToPanic panics quiet

theorem idleAt_look (env : Environment) (b : Bridge) (i k : Nat) : IdleAt b (b.look env i) k := by
  unfold look
  split
  · exact .of_eq rfl
  · next inquiry _ =>
    have quiet : ∀ c ∈ [ToolkitCall.isVisible inquiry.id], ∀ id,
        WindowEvent.mark? id (.called c) = none := by simp [WindowEvent.mark?]
    exact idleAt_modifyApplication b _ (fun x => idle_recordUpToPanic x _ quiet) k

theorem idleAt_leaveJob (b : Bridge) (a : Nat) (s : JobStatus) (k : Nat) :
    IdleAt b (b.leaveJob a s) k := by
  unfold leaveJob
  split
  · exact .of_eq rfl
  · exact idleAt_modifyApplication (f := fun x => { x with job := none }) (b.setJob _ s) a
      (fun _ => ⟨rfl, fun _ => rfl, fun _ => rfl⟩) k

theorem idleAt_lookInPlace (env : Environment) (b : Bridge) (a i : Nat) (id : Handle) (k : Nat) :
    IdleAt b (b.lookInPlace env a i id) k := by
  unfold lookInPlace
  split
  · exact (b.idleAt_look env i k).trans (idleAt_leaveJob _ a _ k)
  · exact b.idleAt_look env i k

/-! ## tasks that are handed over -/

/-- An application is left alone, or it is the one that a task is handed to. -/
def PostsAt (b b' : Bridge) (a : Nat) (t : MainTask) (k : Nat) : Prop :=
  b'.applications[k]? = b.applications[k]? ∨
    k = a ∧ ∃ x, b.applications[k]? = some x ∧ b'.applications[k]? = some (x.post t)

theorem postsAt_dispatch (b : Bridge) (a : Nat) (t : MainTask) (k : Nat) :
    PostsAt b (b.dispatch a t).1 a t k := by
  obtain ⟨x, found, -, h⟩ | ⟨-, e, h⟩ := b.dispatch_cases a t
  · rw [h]
    by_cases same : a = k
    · subst same
      refine .inr ⟨rfl, x, found, ?_⟩
      dsimp only
      rw [getElem?_modifyApplication, if_pos rfl, found]
      rfl
    · exact .inl (by dsimp only; rw [getElem?_modifyApplication, if_neg same])
  · rw [h]
    exact .inl rfl

/-- A step that hands over a task. -/
theorem AppStep.of_postsAt {b b' : Bridge} {act : Action} {a k : Nat} {t : MainTask}
    (h : PostsAt b b' a t k) (posts : k = a → Posts b act a b' t) : AppStep b act k b' := by
  obtain h | ⟨rfl, x, found, found'⟩ := h
  · cases found : b.applications[k]? with
    | none => exact .none found (h.trans found)
    | some x => exact .changed found (h.trans found) (.idle (.refl x))
  · exact .changed found found' (.posted (posts rfl))

/-- An application that is left alone is changed by no step. -/
theorem AppStep.of_idleAt {b b' : Bridge} {act : Action} {a : Nat} (h : IdleAt b b' a) :
    AppStep b act a b' := by
  obtain ⟨absent, absent'⟩ | ⟨x, x', found, found', idle⟩ := h
  · exact .none absent absent'
  · exact .changed found found' (.idle idle)

/-- A step that leaves all applications alone. -/
theorem AppStep.of_eq {b b' : Bridge} {act : Action} {a : Nat}
    (h : b'.applications = b.applications) : AppStep b act a b' :=
  .of_idleAt (.of_eq (by rw [h]))

/-! ## requests and teardown -/

theorem postsAt_present (b : Bridge) (m a : Nat) (id : Handle) (spec : WindowSpec) (k : Nat) :
    PostsAt b (b.present m a id spec).1 a (.present id spec m (b.subscribeStates m).2) k := by
  have posts := (b.subscribeStates m).1.postsAt_dispatch a
    (.present id spec m (b.subscribeStates m).2) k
  rw [PostsAt, applications_subscribeStates] at posts
  unfold present
  dsimp only
  split
  · next h => rw [h] at posts; exact posts
  · next h => rw [h] at posts; exact posts

/-- A request that is let pass hands over a task under the window token of its machine. -/
theorem appStep_present {b : Bridge} {act : Action} {m a : Nat} {machine : Machine}
    {spec : WindowSpec} (admitted : b.admitted m PlatformVersion.forStopAndGraphics = .ok machine)
    (requests : Requests m machine.window a spec act) (k : Nat) :
    AppStep b act k ((b.openWindow m machine.window a spec).present m a
      (b.windowToken m machine.window).2 spec).1 := by
  have posts := postsAt_present (b.openWindow m machine.window a spec) m a
    (b.windowToken m machine.window).2 spec k
  rw [PostsAt, applications_openWindow] at posts
  obtain ⟨found, admits⟩ := skeleton?_of_admitted admitted
  refine .of_postsAt posts ?_
  rintro rfl
  refine .present found admits requests ?_
  have opened := (openWindow_of_admitted admitted k spec).2
  rw [← b.windowToken_eq m] at opened
  obtain ⟨-, quiet⟩ | ⟨-, quiet⟩ := quiet_present (b.openWindow m machine.window k spec) m k
    (b.windowToken m machine.window).2 spec
  · exact ⟨_, by rw [quiet.skeletons, opened, Function.update_self], rfl⟩
  · exact ⟨_, by rw [quiet.skeletons, skeleton?_closeWindow, if_pos rfl, opened,
      Function.update_self, Option.map_some], rfl⟩

theorem appStep_startGraphics (b : Bridge) (m a : Nat) (width height : Float)
    (options : GraphicsOptions) (k : Nat) :
    AppStep b (.startGraphics m a width height options) k
      (b.startGraphics m a width height options).1 := by
  unfold startGraphics
  split
  · exact .of_eq rfl
  · next machine admitted =>
    split
    · next positive => exact appStep_present admitted (.start positive rfl) k
    · exact .of_eq rfl

theorem appStep_showWindow (b : Bridge) (m k : Nat) :
    AppStep b (.showWindow m) k (b.showWindow m).1 := by
  unfold showWindow
  split
  · exact .of_eq rfl
  · next machine admitted =>
    split
    · exact .of_eq rfl
    · next a id spec known =>
      have step := appStep_present admitted (.again known) k
      rw [openWindow, windowToken_of_reopening m known] at step
      exact step

/-- The teardown of a live machine with a window hands over a task to forget it. -/
theorem applications_beginTeardown {b : Bridge} {m a : Nat} {machine : Machine} {id : Handle}
    (found : b.machines[m]? = some machine) (live : machine.phase = .live)
    (token : machine.window.token = some id) (application : machine.window.application = some a) :
    (b.beginTeardown m).applications = (b.dispatch a (.forget id)).1.applications := by
  simp only [beginTeardown, found, Machine.isLive, live, beq_self_eq_true, if_true, token,
    application]
  unfold dispatch modifyMachine
  dsimp only
  split
  · rfl
  · split <;> rfl

theorem appStep_beginTeardown (b : Bridge) (act : Action) (m k : Nat) :
    AppStep b act k (b.beginTeardown m) := by
  by_cases h : ∃ machine, b.machines[m]? = some machine ∧ machine.phase = .live
  · obtain ⟨machine, hm, live⟩ := h
    have found : b.skeleton? m = some machine.skeleton := by rw [skeleton?, hm]; rfl
    have gone : (b.beginTeardown m).skeleton? m =
        some { machine.skeleton with phase := .releasing, window := {} } := by
      rw [(beginTeardown_of_live hm live).2.2, Function.update_self]
    cases token : machine.window.token with
    | none =>
      refine .of_eq ?_
      simp only [beginTeardown, hm, Machine.isLive, live, beq_self_eq_true, if_true, token]
      rfl
    | some id =>
      cases application : machine.window.application with
      | none =>
        refine .of_eq ?_
        simp only [beginTeardown, hm, Machine.isLive, live, beq_self_eq_true, if_true, token,
          application]
        rfl
      | some a =>
        have posts := b.postsAt_dispatch a (.forget id) k
        rw [PostsAt, ← applications_beginTeardown hm live token application] at posts
        exact .of_postsAt posts fun _ => .forget found token gone
  · rw [beginTeardown_of_not_live fun machine hm live => h ⟨machine, hm, live⟩]
    exact .of_eq rfl

/-- Quiet changes that leave the applications alone do not matter. -/
theorem AppStep.between {b₁ b₂ b₃ b₄ : Bridge} {act : Action} {a : Nat} (before : Quiet b₁ b₂)
    (same : b₂.applications = b₁.applications) (step : AppStep b₂ act a b₃) (after : Quiet b₃ b₄)
    (same' : b₄.applications = b₃.applications) : AppStep b₁ act a b₄ := by
  have posts : ∀ t, Posts b₂ act a b₃ t → Posts b₁ act a b₄ t := by
    intro t h
    cases h with
    | present found admits requests registered =>
      rw [before.skeletons] at found
      rw [← after.skeletons] at registered
      exact .present found admits requests registered
    | forget found token gone =>
      rw [before.skeletons] at found
      rw [← after.skeletons] at gone
      exact .forget found token gone
    | other present forget stop => exact .other present forget stop
  cases step with
  | none absent absent' => exact .none (same ▸ absent) (same' ▸ absent')
  | added absent fresh => exact .added (same ▸ absent) (same' ▸ fresh)
  | changed found found' change =>
    refine .changed (same ▸ found) (same' ▸ found') ?_
    cases change with
    | idle h => exact .idle h
    | posted h => exact .posted (posts _ h)
    | quit cause => exact .quit cause
    | userClosed cause queue closes => exact .userClosed cause queue closes
    | ran cause task queue runs => exact .ran cause task queue runs
    | ended cause ends => exact .ended cause ends

theorem TearsDown.appStep {b b' : Bridge} {m : Nat} (h : TearsDown b m b') (act : Action)
    (k : Nat) : AppStep b act k b' := by
  obtain ⟨c, quiet, same, rfl⟩ := h
  exact .between quiet same (c.appStep_beginTeardown act m k) (.refl _) rfl

theorem appStep_dropReference (b : Bridge) (act : Action) (m k : Nat) :
    AppStep b act k (b.dropReference m) := by
  obtain ⟨-, same⟩ | tears := b.dropReference_cases m
  · exact .of_eq same
  · exact tears.appStep act k

theorem appStep_stop (env : Environment) (b : Bridge) (s k : Nat) :
    AppStep b (.stop s) k (b.stop env s) := by
  have stopped := b.stopStep_stop env s
  generalize b.stop env s = b' at stopped ⊢
  cases stopped with
  | quiet _ same => exact .of_eq same
  | tearsDown tears => exact tears.appStep _ k
  | begun _ _ => exact .of_eq ((b.edits_beginControl _ .stop).applications_eq rfl)

/-! ## visibility and watchers -/

/-- A task that is handed over on its own, and neither presents nor forgets a window. -/
theorem appStep_dispatch (b : Bridge) (act : Action) (a : Nat) {t : MainTask}
    (present : ∀ id spec m i, t ≠ .present id spec m i) (forget : ∀ id, t ≠ .forget id)
    (stop : ∀ id w, t = .closeForStop id w → act = .watch w) (k : Nat) :
    AppStep b act k (b.dispatch a t).1 :=
  .of_postsAt (b.postsAt_dispatch a t k) fun _ => .other present forget stop

theorem appStep_inquire (env : Environment) (b : Bridge) (act : Action) (a : Nat) (id : Handle)
    (place : Option Nat) (k : Nat) : AppStep b act k (b.inquire env a id place).1 := by
  let asked : Bridge := { b with inquiries := b.inquiries ++ [{ application := a, id }] }
  have quiet : Quiet b asked := ⟨rfl, rfl, rfl⟩
  have step := asked.appStep_dispatch act a (t := .inquire b.inquiries.length) (by simp) (by simp)
    (by simp) k
  unfold inquire
  dsimp only
  split
  · exact .between quiet rfl (.of_idleAt (asked.idleAt_lookInPlace env a _ id k)) (.refl _) rfl
  · split
    · next h => rw [h] at step; exact .between quiet rfl step (.refl _) rfl
    · next h =>
      rw [h] at step
      exact .between quiet rfl step ⟨rfl, rfl, rfl⟩ rfl

theorem appStep_watch (b : Bridge) (w k : Nat) : AppStep b (.watch w) k (b.watch w) := by
  have turned := b.watchStep_watch w
  generalize b.watch w = b' at turned ⊢
  cases turned with
  | waits _ => exact .of_eq rfl
  | passes _ _ _ _ _ => exact .of_eq (b.applications_receiveState _ _)
  | @stops watcher _ _ _ _ _ _ =>
    have posted := (b.receiveState watcher.machine watcher.subscription).1.appStep_dispatch
      (.watch w) watcher.application (t := .closeForStop watcher.id w) (by simp) (by simp)
      (by simp) k
    exact .between ((b.edits_receiveState _ _).quiet rfl) (b.applications_receiveState _ _) posted
      ((edits_endWatcher _ w _).quiet rfl) rfl
  | ends _ _ _ _ => exact .of_eq (b.applications_receiveState _ _)
  | closed _ _ _ => exact .of_eq rfl

/-! ## the main thread -/

/-- An application is changed, and then perhaps once more. -/
theorem getElem?_modifyApplication_twice (b : Bridge) (a k : Nat) (f g : Application → Application) :
    ((b.modifyApplication a f).modifyApplication a g).applications[k]? =
      if a = k then b.applications[k]?.map fun x => g (f x) else b.applications[k]? := by
  rw [getElem?_modifyApplication, getElem?_modifyApplication]
  split
  · rw [Option.map_map]; rfl
  · rfl

/-- The user closes a window that the application has, or nothing happens. -/
theorem appStep_userClosed (b : Bridge) (a : Nat) (id : Handle) (k : Nat) :
    AppStep b (.userClosed a id) k (b.userClosed a id) := by
  unfold userClosed
  split
  · exact .of_eq rfl
  · next w holds =>
    obtain ⟨x, found, held⟩ := Option.bind_eq_some_iff.1 holds
    dsimp only
    have step : ∀ c : Bridge,
        c.applications = ((b.modifyApplication a (·.eraseController id)).modifyApplication a fun x =>
          { x with history := x.history ++ [.closedByUser id] }).applications →
        AppStep b (.userClosed a id) k c := by
      intro c hc
      have after := b.getElem?_modifyApplication_twice a k (·.eraseController id) fun x =>
        { x with history := x.history ++ [.closedByUser id] }
      rw [← hc] at after
      by_cases same : a = k
      · subst same
        rw [if_pos rfl, found] at after
        exact .changed found after (.userClosed rfl rfl (Application.closes_closedByUser held))
      · rw [if_neg same] at after
        exact .of_idleAt (.of_eq after)
    split
    · exact step _ (applications_receive _ _)
    · exact step _ (applications_receive _ _)

/-- A task runs in one application and is idle for every other one. -/
def RunsAt (b b' : Bridge) (a : Nat) (t : MainTask) (k : Nat) : Prop :=
  (∃ x x', k = a ∧ b.applications[k]? = some x ∧ b'.applications[k]? = some x' ∧
      x'.queue = x.queue ∧ x.Runs t x') ∨
    (k = a → b.applications[k]? = none) ∧ IdleAt b b' k

theorem RunsAt.of_change {b b' : Bridge} {a k : Nat} {t : MainTask} {f : Application → Application}
    (after : b'.applications[k]? = if a = k then b.applications[k]?.map f else b.applications[k]?)
    (runs : ∀ x, b.applications[a]? = some x → (f x).queue = x.queue ∧ x.Runs t (f x)) :
    RunsAt b b' a t k := by
  by_cases same : a = k
  · subst same
    rw [if_pos rfl] at after
    cases found : b.applications[a]? with
    | none => rw [found] at after; exact .inr ⟨fun _ => found, .inl ⟨found, after⟩⟩
    | some x => rw [found] at after; exact .inl ⟨x, f x, rfl, found, after, runs x found⟩
  · rw [if_neg same] at after
    exact .inr ⟨fun e => absurd e.symm same, .of_eq after⟩

/-- A task that leaves all applications alone. -/
theorem RunsAt.of_idleAt {b b' : Bridge} {a k : Nat} {t : MainTask} (idle : IdleAt b b' k)
    (skips : ∀ x, b.applications[a]? = some x → x.Skips t) : RunsAt b b' a t k := by
  by_cases same : k = a
  · subst same
    obtain ⟨absent, absent'⟩ | ⟨x, x', found, found', h⟩ := idle
    · exact .inr ⟨fun _ => absent, .inl ⟨absent, absent'⟩⟩
    · exact .inl ⟨x, x', rfl, found, found', h.queue, .leaves (skips x found) h.windows⟩
  · exact .inr ⟨fun e => absurd e same, idle⟩

theorem runsAt_runPresent (env : Environment) (b : Bridge) (a : Nat) (id : Handle)
    (spec : WindowSpec) (m i k : Nat) :
    RunsAt b (b.runPresent env a id spec m i) a (.present id spec m i) k := by
  unfold runPresent
  split
  · next w holds =>
    have quiet : ∀ c ∈ [ToolkitCall.show id, .bringToFront id], ∀ k,
        WindowEvent.mark? k (.called c) = none := by simp [WindowEvent.mark?]
    refine .of_change (b.getElem?_modifyApplication a k _) fun x found =>
      ⟨queue_recordUpToPanic x _ _, .leaves ?_ (x.sameWindows_recordUpToPanic _ quiet)⟩
    rw [found] at holds
    rw [Application.Skips, show x.watcher? id = some w from holds]
    rfl
  · next absent =>
    refine .of_change (b.getElem?_modifyApplication_twice a k
      (·.insertController id b.watchers.length) _) fun x found =>
      ⟨queue_recordUpToPanic _ _ _, .opens ?_⟩
    rw [found] at absent
    exact Application.opens_insertController absent _ _ spec

theorem runsAt_runForget (env : Environment) (b : Bridge) (a : Nat) (id : Handle) (k : Nat) :
    RunsAt b (b.runForget env a id) a (.forget id) k := by
  unfold runForget
  split
  · next absent =>
    refine .of_idleAt (.of_eq rfl) fun x found => ?_
    rw [found] at absent
    exact absent
  · next w holds =>
    refine .of_change (b.getElem?_modifyApplication_twice a k (·.eraseController id) _)
      fun x found => ⟨queue_recordUpToPanic _ _ _, .forgets ?_⟩
    rw [found] at holds
    exact Application.closes_eraseController holds _

theorem runsAt_runCloseForStop (env : Environment) (b : Bridge) (a : Nat) (id : Handle)
    (w k : Nat) : RunsAt b (b.runCloseForStop env a id w) a (.closeForStop id w) k := by
  unfold runCloseForStop
  split
  · next holds =>
    have closed : ∀ c : Bridge,
        c.applications = ((b.modifyApplication a (·.eraseController id)).modifyApplication a
          (·.recordUpToPanic (env.panics a) [.close id])).applications →
        RunsAt b c a (.closeForStop id w) k := by
      intro c hc
      have after := b.getElem?_modifyApplication_twice a k (·.eraseController id)
        (·.recordUpToPanic (env.panics a) [.close id])
      rw [← hc] at after
      refine .of_change after fun x found => ⟨queue_recordUpToPanic _ _ _, ?_⟩
      rw [found] at holds
      exact .stops holds (Application.closes_eraseController holds _)
    dsimp only
    split
    · exact closed _ rfl
    · exact closed _ (applications_receive _ _)
  · next other =>
    refine .of_idleAt (.of_eq rfl) fun x found => ?_
    rw [found] at other
    exact other

/-- A task runs in its own application. -/
theorem runsAt_runTask (env : Environment) (b : Bridge) (a : Nat) (t : MainTask) (k : Nat) :
    RunsAt b (b.runTask env a t) a t k := by
  cases t with
  | present id spec m i => exact b.runsAt_runPresent env a id spec m i k
  | bringToFront id =>
    have quiet : ∀ c ∈ [ToolkitCall.bringToFront id], ∀ k,
        WindowEvent.mark? k (.called c) = none := by simp [WindowEvent.mark?]
    exact .of_change (b.getElem?_modifyApplication a k _) fun x _ =>
      ⟨queue_recordUpToPanic x _ _, .leaves trivial (x.sameWindows_recordUpToPanic _ quiet)⟩
  | inquire i => exact .of_idleAt (b.idleAt_look env i k) fun _ _ => trivial
  | forget id => exact b.runsAt_runForget env a id k
  | closeForStop id w => exact b.runsAt_runCloseForStop env a id w k
  | host j =>
    exact .of_change ((b.setJob j .running).getElem?_modifyApplication a k _) fun x _ =>
      ⟨rfl, .leaves trivial ⟨fun _ => rfl, fun _ => rfl⟩⟩

theorem there_dequeue {b : Bridge} {a : Nat} {x : Application}
    (there : b.applications[a]? = some x) :
    (b.dequeue a).applications[a]? = some { x with queue := x.queue.take.1 } := by
  rw [dequeue, getElem?_modifyApplication, if_pos rfl, there]
  rfl

/-- A turn of a main loop runs a task in its application, or ends the loop. -/
theorem appStep_mainTurn (env : Environment) (b : Bridge) (a k : Nat) :
    AppStep b (.mainTurn a) k (b.mainTurn env a) := by
  have others (other : a ≠ k) : IdleAt b (b.dequeue a) k := by
    refine .of_eq ?_
    rw [dequeue, getElem?_modifyApplication, if_neg other]
  have turned := b.turnStep_mainTurn env a
  generalize b.mainTurn env a = b' at turned ⊢
  cases turned with
  | waits _ => exact .of_eq rfl
  | @runs x t rest _ there task =>
    by_cases same : a = k
    · subst same
      have taken := there_dequeue there
      rw [take_of_run task] at taken
      obtain ⟨y, x', -, there', found', queue, runs⟩ | ⟨elsewhere, -⟩ :=
        (b.dequeue a).runsAt_runTask env a t a
      · rw [taken] at there'
        cases there'
        exact .changed there found' (.ran rfl task queue runs.of_queue)
      · rw [elsewhere rfl] at taken
        contradiction
    · obtain ⟨-, -, own, -⟩ | ⟨-, idle⟩ := (b.dequeue a).runsAt_runTask env a t k
      · exact absurd own.symm same
      · exact .of_idleAt ((others same).trans idle)
  | @ends x ts _ there cause exits =>
    have left := (b.dequeue a).applications_discardTasks ts
    by_cases same : a = k
    · subst same
      refine .changed there ?_ (.ended rfl cause)
      rw [left, there_dequeue there, exits]
    · exact .of_idleAt ((others same).trans (.of_eq (by rw [left])))

/-! ## every step -/

theorem appStep_addApplication (b : Bridge) (act : Action) (k : Nat) :
    AppStep b act k b.addApplication.1 := by
  by_cases last : k = b.applications.length
  · subst last
    exact .added (List.getElem?_eq_none (Nat.le_refl _)) (List.getElem?_concat_length ..)
  · refine .of_idleAt (.of_eq ?_)
    rw [addApplication, getElem?_added, if_neg last]

theorem appStep_quit (b : Bridge) (a k : Nat) : AppStep b (.quit a) k (b.quit a) := by
  have after := b.getElem?_modifyApplication a k fun x => { x with queue := x.queue.quit }
  by_cases same : a = k
  · subst same
    rw [if_pos rfl] at after
    cases found : b.applications[a]? with
    | none => exact .none found (by rw [quit, after, found]; rfl)
    | some x => exact .changed found (by rw [quit, after, found]; rfl) (.quit rfl)
  · rw [if_neg same] at after
    exact .of_idleAt (.of_eq after)

/-- Each step does one of these things to an application. -/
theorem appStep_step (env : Environment) (b : Bridge) (act : Action) (k : Nat) :
    AppStep b act k (b.step env act) := by
  by_cases apart : Part.apart act.parts Part.ofApplications = true
  · exact .of_eq ((b.edits_step env act).applications_eq apart)
  cases act with
  | dropReference m => exact b.appStep_dropReference _ m k
  | finalize m => exact b.appStep_beginTeardown _ m k
  | startGraphics m a width height options => exact b.appStep_startGraphics m a width height options k
  | showWindow m => exact b.appStep_showWindow m k
  | beginFront m place =>
    rw [step, beginFront]
    split
    · exact .of_eq rfl
    · split
      · exact .of_eq rfl
      · exact b.appStep_inquire env _ _ _ place k
  | finishFront i =>
    rw [step]
    split
    · unfold finishFront
      split
      · exact b.appStep_dispatch _ _ (by simp) (by simp) (by simp) k
      · exact .of_eq rfl
      · exact .of_eq rfl
    · exact .of_eq rfl
  | beginHasWindow m place =>
    rw [step, beginHasWindow]
    split
    · exact .of_eq rfl
    · exact b.appStep_inquire env _ _ _ place k
  | userClosed a id => exact b.appStep_userClosed a id k
  | receive e => exact .of_eq (b.applications_receive e)
  | addApplication => exact b.appStep_addApplication _ k
  | quit a => exact b.appStep_quit a k
  | postJob a =>
    have step := b.appStep_dispatch (.postJob a) a (t := .host b.jobs.length) (by simp) (by simp)
      (by simp) k
    rw [Bridge.step, postJob]
    split
    · next h => rw [h] at step; exact .between (.refl b) rfl step ⟨rfl, rfl, rfl⟩ rfl
    · next h => rw [h] at step; exact step
  | leaveJob a => exact .of_idleAt (b.idleAt_leaveJob a _ k)
  | mainTurn a => exact b.appStep_mainTurn env a k
  | watch w => exact b.appStep_watch w k
  | stop s => exact b.appStep_stop env s k
  | _ => exact absurd rfl apart

end Bridge

end MachineBridge
