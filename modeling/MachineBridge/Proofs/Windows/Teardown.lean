import MachineBridge.Proofs.History
import MachineBridge.Proofs.Windows.Queue

/-!
# MachineBridge.Proofs.Windows.Teardown

Windows after the teardown of their machine.  Teardown reaches one application, the one
that the latest accepted request named: a task to forget the window is queued behind all
others there, and no later task presents it again.  `leftOpen` says whether the queue of an
application, once it has run, leaves a window open; from teardown on it does not.

In any other application the teardown changes nothing, and no task to forget the window is
ever queued there: a window that was opened there and that neither the user nor a watcher
closes stays (`window_left_iff`).
-/

namespace MachineBridge

/-- Whether a window is there after a task, given whether it was there before. -/
def MainTask.leaves (id : Handle) (held : Bool) : MainTask → Bool
  | .present k _ _ _ => held || k = id
  | .forget k => held && k ≠ id
  | _ => held

/-- Whether tasks leave a window open that is there at first or not. -/
def leftOpen (id : Handle) : Bool → List MainTask → Bool := List.foldl (MainTask.leaves id)

/-- Later tasks go on from what the first ones leave open. -/
theorem leftOpen_append (id : Handle) (held : Bool) (first second : List MainTask) :
    leftOpen id held (first ++ second) = leftOpen id (leftOpen id held first) second :=
  List.foldl_append

/-- A window that was not there at first is left open only if it would have been anyway. -/
theorem leftOpen_mono {id : Handle} {held held' : Bool} (h : held = true → held' = true)
    (tasks : List MainTask) : leftOpen id held tasks = true → leftOpen id held' tasks = true := by
  induction tasks generalizing held held' with
  | nil => exact h
  | cons t rest ih =>
    refine ih ?_
    cases t <;> simp only [MainTask.leaves, Bool.or_eq_true, Bool.and_eq_true] <;> grind

/-- A task leaves a window open at most if `leaves` says so; it may find it closed. -/
theorem Application.Runs.leaves_eq_true {x x' : Application} {t : MainTask} (h : x.Runs t x') {id : Handle}
    (held : x'.holds id = true) : t.leaves id (x.holds id) = true := by
  unfold Application.holds at *
  cases h with
  | @opens k spec m i _ h =>
    by_cases same : k = id
    · simp [MainTask.leaves, same]
    · rw [(h.others id (Ne.symm same)).1] at held
      simp [MainTask.leaves, held]
  | @forgets k _ h =>
    by_cases same : k = id
    · subst same
      rw [h.absent] at held
      contradiction
    · rw [(h.others id (Ne.symm same)).1] at held
      simp [MainTask.leaves, held, same]
  | @stops k w _ _ h =>
    by_cases same : k = id
    · subst same
      rw [h.absent] at held
      contradiction
    · rw [(h.others id (Ne.symm same)).1] at held
      exact held
  | leaves skips h =>
    rw [h.watchers] at held
    cases t with
    | forget k =>
      have other : k ≠ id := by
        rintro rfl
        rw [show x.watcher? k = none from skips] at held
        contradiction
      simp [MainTask.leaves, held, other]
    | _ => simp [MainTask.leaves, held]

/-- Whatever is queued, a window will not be open in the end. -/
def Application.Forgets (x : Application) (id : Handle) : Prop :=
  leftOpen id (x.holds id) x.queue.tasks = false

namespace Bridge

variable {b b' : Bridge} {act : Action} {a : Nat} {x x' : Application} {id : Handle}

/-- A window that will be forgotten stays so, as long as it is not presented anew and the
main loop does not end. -/
theorem AppChange.forgets (h : AppChange b act a b' x x') (alive : Alive x)
    (retired : b'.Retired id) (hx : x.Forgets id) : x'.Forgets id := by
  unfold Application.Forgets at *
  cases h with
  | idle h => rw [Application.holds, h.windows.watchers, h.queue]; exact hx
  | @posted t posts =>
    rw [Application.tasks_post, leftOpen_append]
    show leftOpen id (leftOpen id (x.holds id) x.queue.tasks) [t] = false
    rw [hx]
    cases t with
    | present k spec m i =>
      have other : k ≠ id := by
        rintro rfl
        exact retired.unowned m posts.token?
      simp [leftOpen, MainTask.leaves, other]
    | _ => rfl
  | quit _ => rw [Application.tasks_quit]; exact hx
  | @userClosed k _ _ queue closes =>
    rw [queue]
    have fewer : x'.holds id = true → x.holds id = true := by
      unfold Application.holds
      by_cases same : id = k
      · subst same; rw [closes.absent]; simp
      · rw [(closes.others id same).1]; exact fun h => h
    cases left : leftOpen id (x'.holds id) x.queue.tasks with
    | false => rfl
    | true => rw [leftOpen_mono fewer _ left] at hx; contradiction
  | @ran t rest _ _ task queue runs =>
    rw [Application.tasks_of_messages task] at hx
    rw [queue]
    cases left : leftOpen id (x'.holds id)
        ({ x.queue with messages := rest } : MainQueue MainTask).tasks with
    | false => rfl
    | true =>
      rw [show leftOpen id (x.holds id) (t :: _) = leftOpen id (t.leaves id (x.holds id)) _ from rfl,
        leftOpen_mono runs.leaves_eq_true _ left] at hx
      contradiction
  | ended _ ends =>
    obtain none | asked := ends
    · exact absurd none alive.handled
    · exact absurd asked alive.unasked

/-! ## the step that tears a machine down -/

/-- A machine that is live before a step and not afterwards was torn down by it. -/
theorem tearsDown_of_released {m : Nat} {s s' : MachineSkeleton} {env : Environment}
    (found : b.skeleton? m = some s) (found' : (b.step env act).skeleton? m = some s')
    (live : s.phase = .live) (ended : s'.phase ≠ .live) : TearsDown b m (b.step env act) := by
  have kept : (b.step env act).skeleton? m ≠ b.skeleton? m := by
    intro same
    rw [found, found'] at same
    cases same
    exact ended live
  have cause : act = .finalize m ∨ act = .dropReference m ∨ ∃ s, act = .stop s := by
    have step := b.skeletonStep_step env act m
    rw [found'] at step
    generalize after : some s' = o at step
    cases step with
    | same => exact absurd (found'.trans after) kept
    | begun fresh => rw [found] at fresh; contradiction
    | created found₀ creating _ =>
      cases found.symm.trans found₀
      rw [live] at creating
      contradiction
    | released _ _ cause => exact cause
    | finished found₀ releasing =>
      cases found.symm.trans found₀
      rw [live] at releasing
      contradiction
    | opened found₀ | refused found₀ | closed found₀ =>
      cases found.symm.trans found₀
      cases after
      exact absurd live ended
  obtain rfl | rfl | ⟨k, rfl⟩ := cause
  · exact ⟨b, .refl b, rfl, rfl⟩
  · obtain ⟨quiet, -⟩ | tears := b.dropReference_cases m
    · exact absurd (congrFun quiet.skeletons m) kept
    · exact tears
  · have stopped := b.stopStep_stop env k
    rw [step] at kept ⊢
    generalize b.stop env k = b' at kept stopped ⊢
    cases stopped with
    | quiet quiet _ => exact absurd (congrFun quiet.skeletons m) kept
    | @tearsDown _ j tears =>
      by_cases e : j = m
      · subst e; exact tears
      · refine absurd ?_ kept
        obtain ⟨c, quiet, -, rfl⟩ := tears
        rw [← quiet.skeletons]
        obtain h | ⟨s, -, -, -, -, skeletons⟩ := c.beginTeardown_cases j
        · rw [h]
        · rw [skeletons, Function.update_of_ne (Ne.symm e)]
    | begun _ _ =>
      exact absurd (congrFun (b.skeleton?_beginControl _ .stop) m) kept

/-- Teardown reaches the application of the window, and no other one. -/
theorem TearsDown.applications {m : Nat} {s : MachineSkeleton} (h : TearsDown b m b')
    (found : b.skeleton? m = some s) (live : s.phase = .live) (token : s.window.token = some id)
    (application : s.window.application = some a) :
    (∀ k, k ≠ a → b'.applications[k]? = b.applications[k]?) ∧
      (b'.applications[a]? = none ∨ ∃ x, b.applications[a]? = some x ∧
        (x.queue.isOpen = true → b'.applications[a]? = some (x.post (.forget id)))) := by
  obtain ⟨c, quiet, same, rfl⟩ := h
  rw [← quiet.skeletons, skeleton?, Option.map_eq_some_iff] at found
  obtain ⟨machine, found, rfl⟩ := found
  rw [applications_beginTeardown found live token application, ← same]
  obtain ⟨x, foundX, -, dispatched⟩ | ⟨refuses, e, dispatched⟩ := c.dispatch_cases a (.forget id)
  · rw [dispatched]
    refine ⟨fun k hk => ?_, .inr ⟨x, foundX, fun _ => ?_⟩⟩
    · rw [getElem?_modifyApplication, if_neg (Ne.symm hk)]
    · rw [getElem?_modifyApplication, if_pos rfl, foundX]
      rfl
  · rw [dispatched]
    refine ⟨fun _ _ => rfl, ?_⟩
    cases foundX : c.applications[a]? with
    | none => exact .inl rfl
    | some x => exact .inr ⟨x, rfl, fun open' => absurd open' (by simp [refuses x foundX])⟩

/-! ## every run -/

/-- A property of an application that holds when the token of a window is retired, of a new
application, and is kept by every later step, holds ever after. -/
theorem application_run_of_retired {P : Application → Prop} (allowed : Action → Prop)
    (added : P {})
    (changed : ∀ b env act x x', b.Retired id → (b.step env act).Retired id → allowed act →
      AppChange b act a (b.step env act) x x' → P x → P x')
    {first after : List (Environment × Action)} (retired : (({} : Bridge).run first).Retired id)
    (start : ∀ x, (({} : Bridge).run first).applications[a]? = some x → P x)
    (all : ∀ s ∈ after, allowed s.2)
    (found : (({} : Bridge).run (first ++ after)).applications[a]? = some x) : P x := by
  induction after using List.reverseRecOn generalizing x with
  | nil => rw [List.append_nil] at found; exact start x found
  | append_singleton after s ih =>
    have earlier := fun y => ih (fun t ht => all t (List.mem_append_left [s] ht)) (x := y)
    have here := retired_append retired after
    rw [← List.append_assoc, run_append] at found
    obtain ⟨-, absent⟩ | ⟨-, fresh⟩ | ⟨found₀, found', change⟩ :=
      (({} : Bridge).run (first ++ after)).appStep_step s.1 s.2 a
    · cases found.symm.trans absent
    · cases found.symm.trans fresh
      exact added
    · cases found.symm.trans found'
      exact changed _ s.1 s.2 _ x here (here.step (records_run _) s.1 s.2) (all s (by simp)) change
        (earlier _ found₀)

/-- A window that will be forgotten is forgotten, whatever else happens. -/
theorem forgets_run {first after : List (Environment × Action)}
    (retired : (({} : Bridge).run first).Retired id)
    (forgets : ∀ x, (({} : Bridge).run first).applications[a]? = some x → Alive x ∧ x.Forgets id)
    (unasked : ∀ s ∈ after, s.2 ≠ .quit a)
    (found : (({} : Bridge).run (first ++ after)).applications[a]? = some x) : x.Forgets id := by
  refine (application_run_of_retired (P := fun x => Alive x ∧ x.Forgets id) (· ≠ .quit a) ?_ ?_
    retired forgets unasked found).2
  · exact ⟨⟨rfl, by decide, by simp⟩, rfl⟩
  · rintro b env act x x' - retired' unasked change ⟨alive, forgets⟩
    exact ⟨change.alive unasked alive, change.forgets alive retired' forgets⟩

/-- Nobody asks for a window to be forgotten when its token is retired. -/
theorem unqueued_run {first after : List (Environment × Action)}
    (retired : (({} : Bridge).run first).Retired id)
    (unqueued : ∀ x, (({} : Bridge).run first).applications[a]? = some x →
      .forget id ∉ x.queue.tasks)
    (found : (({} : Bridge).run (first ++ after)).applications[a]? = some x) :
    .forget id ∉ x.queue.tasks := by
  refine application_run_of_retired (P := fun x => .forget id ∉ x.queue.tasks) (fun _ => True)
    (by simp [MainQueue.tasks]) ?_ retired unqueued (fun _ _ => trivial) found
  rintro b env act x x' retired - - change unqueued queued
  obtain earlier | posts := change.mem_tasks queued
  · exact unqueued earlier
  · cases posts with
    | @forget m _ _ found token _ =>
      exact retired.unowned m (by rw [Bridge.token?, found]; exact token)
    | other _ forget => exact forget id rfl

/-- As long as a machine has its window token, nobody asks for the window to be forgotten. -/
theorem unqueued_of_owned {m : Nat} {part whole : List (Environment × Action)}
    (within : part <+: whole) (owned : (({} : Bridge).run whole).token? (.windowBinding m) = some id)
    (found : (({} : Bridge).run part).applications[a]? = some x) : .forget id ∉ x.queue.tasks := by
  obtain ⟨rest, rfl⟩ := within
  exact fun queued => (retired_append (retired_run found queued) rest).unowned m owned

/-- An application with an empty queue that will not have a window does not have it. -/
theorem holds_of_forgets (h : x.Forgets id) (idle : x.queue.messages = []) :
    x.holds id = false := by
  rw [Application.Forgets, MainQueue.tasks, idle] at h
  exact h

/-- A window that is forgotten behind all that is queued will not be open in the end. -/
theorem forgets_post (x : Application) (id : Handle) : (x.post (.forget id)).Forgets id := by
  rw [Application.Forgets, Application.tasks_post, leftOpen_append]
  simp [leftOpen, MainTask.leaves]

/-- A machine that is not live has no window. -/
theorem window_of_idle {actions : List (Environment × Action)} {m : Nat} {machine : Machine}
    (found : (({} : Bridge).run actions).machines[m]? = some machine)
    (idle : machine.phase ≠ .live) : machine.window = {} := by
  have recorded := windowRecorded_run actions m
  rw [WindowRecorded, skeleton?, found] at recorded
  exact WindowHistory.idle recorded idle

/-- A machine that was presented is live until it is torn down, and then nobody has its
window token. -/
theorem tearsDown_of_presented {before : List (Environment × Action)} {env : Environment}
    {m : Nat} {machine machine' : Machine} {spec : WindowSpec}
    (found : (({} : Bridge).run before).machines[m]? = some machine)
    (token : machine.window.token = some id) (latest : latestStart? m before = some (a, spec))
    (found' : ((({} : Bridge).run before).step env act).machines[m]? = some machine')
    (released : machine'.phase = .releasing) :
    machine.phase = .live ∧ machine.window.application = some a ∧
      TearsDown (({} : Bridge).run before) m ((({} : Bridge).run before).step env act) ∧
      (({} : Bridge).run (before ++ [(env, act)])).Retired id := by
  have skeleton : (({} : Bridge).run before).skeleton? m = some machine.skeleton := by
    rw [skeleton?, found]; rfl
  have skeleton' : ((({} : Bridge).run before).step env act).skeleton? m =
      some machine'.skeleton := by
    rw [skeleton?, found']; rfl
  have live : machine.phase = .live := by
    by_contra idle
    rw [window_of_idle found idle] at token
    contradiction
  have recorded := windowRecorded_run before m
  rw [WindowRecorded, skeleton, latest] at recorded
  refine ⟨live, recorded.application live,
    tearsDown_of_released skeleton skeleton' live (by rw [Machine.skeleton, released]; simp), ?_⟩
  have gone : machine'.window = {} := by
    have found'' : (({} : Bridge).run (before ++ [(env, act)])).machines[m]? = some machine' := by
      rw [run_append]; exact found'
    exact window_of_idle found'' (by simp [released])
  rw [run_append]
  refine retired_of_lost (m := m) ⟨before, rfl⟩ (by rw [token?, skeleton]; exact token) ?_
  rw [token?, skeleton', Option.bind_some, Machine.skeleton, gone]

/-- A machine that was presented is torn down.  Once the tasks of an application have run,
it has closed every window that it created for the machine, each once, exactly if it is the
application that the latest accepted request named, or its last window was closed all the
same.  In any other application only the user and a watcher can do that: the teardown does
not change the application, and no task to forget the window is ever queued there. -/
theorem window_left_iff {before after : List (Environment × Action)} {env : Environment}
    {m k : Nat} {machine machine' : Machine} {spec : WindowSpec}
    (found : (({} : Bridge).run before).machines[m]? = some machine)
    (token : machine.window.token = some id) (latest : latestStart? m before = some (a, spec))
    (found' : ((({} : Bridge).run before).step env act).machines[m]? = some machine')
    (released : machine'.phase = .releasing)
    (unasked : ∀ s ∈ before ++ (env, act) :: after, s.2 ≠ .quit a)
    (application : (({} : Bridge).run (before ++ (env, act) :: after)).applications[k]? = some x)
    (idle : x.queue.messages = []) :
    ((x.watcher? id = none ∧ ∃ n, x.marks id = (List.replicate n [Mark.opened, .closed]).flatten) ↔
        k = a ∨ (x.marks id).getLast? ≠ some .opened) ∧
      (k ≠ a → ((({} : Bridge).run before).step env act).applications[k]? =
          (({} : Bridge).run before).applications[k]? ∧
        ∀ part y, part <+: before ++ (env, act) :: after →
          (({} : Bridge).run part).applications[k]? = some y → .forget id ∉ y.queue.tasks) := by
  obtain ⟨live, named, tears, retired⟩ := tearsDown_of_presented found token latest found' released
  have skeleton : (({} : Bridge).run before).skeleton? m = some machine.skeleton := by
    rw [skeleton?, found]; rfl
  obtain ⟨others, reached⟩ := tears.applications skeleton live token named
  constructor
  · obtain ⟨n, marks⟩ := alternates_run application id
    have last := getLast?_marks_run application id
    constructor
    · rintro ⟨absent, -⟩
      refine .inr fun opened => ?_
      have held := last.1 opened
      rw [Application.holds, absent] at held
      contradiction
    · intro closed
      have absent : x.holds id = false := by
        obtain rfl | closed := closed
        · rw [List.append_cons] at unasked application
          refine holds_of_forgets (forgets_run retired ?_ ?_ application) idle
          · intro y foundY
            rw [run_append] at foundY
            obtain absent | ⟨y', foundY', posted⟩ := reached
            · cases foundY.symm.trans absent
            · have alive : Alive y' := alive_run (fun s hs => unasked s (by simp [hs])) foundY'
              cases foundY.symm.trans (posted alive.isOpen)
              exact ⟨⟨alive.running, alive.handled, by simpa [Application.post] using alive.unasked⟩,
                forgets_post y' id⟩
          · exact fun s hs => unasked s (by simp [hs])
        · exact Bool.eq_false_iff.2 fun held => closed (last.2 held)
      refine ⟨Option.isSome_eq_false_iff.1 absent |> Option.isNone_iff_eq_none.1, n, ?_⟩
      rw [marks, show (x.watcher? id).isSome = false from absent]
      exact List.append_nil _
  · intro other
    refine ⟨others k other, fun part y within there => ?_⟩
    have owned : (({} : Bridge).run before).token? (.windowBinding m) = some id := by
      rw [token?, skeleton]; exact token
    obtain early | ⟨later, rfl⟩ := List.prefix_or_prefix_of_prefix within ⟨(env, act) :: after, rfl⟩
    · exact unqueued_of_owned early owned there
    · cases later with
      | nil =>
        rw [List.append_nil] at there
        exact unqueued_of_owned List.prefix_rfl owned there
      | cons s later =>
        obtain rfl : s = (env, act) :=
          (List.cons_prefix_cons.1 ((List.prefix_append_right_inj before).1 within)).1
        rw [List.append_cons] at there
        refine unqueued_run retired (fun y₀ there₀ => ?_) there
        rw [run_append] at there₀
        exact unqueued_of_owned List.prefix_rfl owned ((others k other).symm.trans there₀)

/-- A run that presents one machine in two applications. -/
def presentations : List (Environment × Action) :=
  creation ++ [(.idle, .addApplication), (.idle, .addApplication),
    (.idle, .startGraphics 0 0 800 600 {}), (.idle, .mainTurn 0),
    (.idle, .startGraphics 0 1 800 600 {}), (.idle, .mainTurn 1)]

/-- What is left to do after the teardown of that machine has begun. -/
def farewell : List (Environment × Action) := [(.idle, .finishTeardown 0), (.idle, .mainTurn 1)]

/-- The application that was named last closes its window. -/
theorem window_left_iff_named_last :
    ∃ x, (({} : Bridge).run (presentations ++ (.idle, .finalize 0) :: farewell)).applications[1]? =
        some x ∧
      x.watcher? ⟨3⟩ = none ∧
      ∃ n, x.marks ⟨3⟩ = (List.replicate n [Mark.opened, .closed]).flatten := by
  obtain ⟨machine, found, token⟩ : ∃ machine,
      (({} : Bridge).run presentations).machines[0]? = some machine ∧
        machine.window.token = some ⟨3⟩ := ⟨_, rfl, rfl⟩
  obtain ⟨machine', found', released⟩ : ∃ machine',
      ((({} : Bridge).run presentations).step .idle (.finalize 0)).machines[0]? = some machine' ∧
        machine'.phase = .releasing := ⟨_, rfl, rfl⟩
  obtain ⟨x, application, idle⟩ : ∃ x,
      (({} : Bridge).run (presentations ++ (.idle, .finalize 0) :: farewell)).applications[1]? =
        some x ∧ x.queue.messages = [] := ⟨_, rfl, rfl⟩
  have latest : latestStart? 0 presentations = some (1, .ofOptions 800 600 {}) := rfl
  have unasked : ∀ s ∈ presentations ++ (.idle, .finalize 0) :: farewell, s.2 ≠ .quit 1 := by
    simp [presentations, creation, farewell]
  have left :=
    window_left_iff found token latest found' released unasked application idle
  exact ⟨x, application, left.1.2 (.inl rfl)⟩

/-- The application that was named first keeps its window for good. -/
theorem window_left_in_first_application :
    (({} : Bridge).run (presentations ++ (.idle, .finalize 0) :: farewell)).machines.map (·.phase) =
        [.finalized] ∧
      (({} : Bridge).run (presentations ++ (.idle, .finalize 0) :: farewell)).applications.map
        (fun x => (x.queue.messages.isEmpty, x.holds ⟨3⟩, x.marks ⟨3⟩)) =
        [(true, true, [.opened]), (true, false, [.opened, .closed])] := by
  decide

end Bridge

end MachineBridge
