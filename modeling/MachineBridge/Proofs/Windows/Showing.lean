import MachineBridge.Proofs.Windows.Descriptions
import MachineBridge.Proofs.Windows.Failure

/-!
# MachineBridge.Proofs.Windows.Showing

How often the window of a machine is created when it is asked for again and again.  A request
leads to a task, and only when the task runs it turns out whether there is a window to show or
one to create.  A request that is served leaves the application with a window unless something
closes it (`createdUnder_of_request`); if the application had none, and no other request was
before it, the window is created for this very request (`createdUnder_of_first`).
-/

namespace MachineBridge

/-- A window that is presented is there. -/
theorem Application.Runs.holds_of_present {x x' : Application} {id : Handle} {spec : WindowSpec}
    {m i : Nat} (runs : x.Runs (.present id spec m i) x') : x'.holds id = true := by
  cases runs with
  | opens opens => exact opens.held
  | leaves skips same =>
    rw [Application.holds, same.watchers]
    exact skips

namespace Bridge

variable {b : Bridge} {env : Environment} {act : Action} {a m i w : Nat} {id : Handle}
  {spec : WindowSpec} {y : Application} {before mid more rest actions : List (Environment × Action)}

/-! ## requests that are handed over -/

theorem mem_tasks_present (there : b.applications[a]? = some y) (alive : Alive y) (m : Nat)
    (id : Handle) (spec : WindowSpec) :
    .present id spec m (b.taken m) ∈ (b.present m a id spec).1.tasks a := by
  have there' : (b.subscribeStates m).1.applications[a]? = some y := by
    rw [applications_subscribeStates]
    exact there
  have handed := mem_tasks_dispatch there' alive (.present id spec m (b.subscribeStates m).2)
  rw [← b.subscribeStates_snd m]
  unfold present
  dsimp only
  split <;> next h =>
    rw [h] at handed
    exact handed

/-- A request that is accepted puts its task behind all others. -/
theorem tasks_of_request (reachable : b.Reachable) (env : Environment)
    (accepted : b.acceptedRequest? m act = some a) (there : b.applications[a]? = some y)
    (alive : Alive y) : ∃ id spec,
      (b.step env act).tasks a = b.tasks a ++ [.present id spec m (b.taken m)] := by
  obtain ⟨machine, id, spec, admitted, presents⟩ := step_of_acceptedRequest env accepted
  have taken := taken_congr ((b.edits_openWindow m machine.window a spec).states? rfl) m
  have apps := b.applications_openWindow m machine.window a spec
  have opened : (b.openWindow m machine.window a spec).tasks a = b.tasks a :=
    tasks_congr (by rw [apps])
  have handed := mem_tasks_present (b := b.openWindow m machine.window a spec)
    (by rw [apps]; exact there) alive m id spec
  rw [presents]
  obtain ⟨same, -⟩ | ⟨more, -⟩ :=
    (b.openWindow m machine.window a spec).tasks_present m a id spec
  · rw [same, opened, taken] at handed
    exact absurd (reachable.refers_lt (refers_of_task handed)) (Nat.lt_irrefl _)
  · exact ⟨id, spec, by rw [more, if_pos rfl, opened, taken]⟩

/-- The task of a request is about the token that the machine has then. -/
theorem RequestedAt.tasks (requested : RequestedAt m a i before act)
    (there : ((({} : Bridge).run before).applications[a]?).isSome = true)
    (unasked : ∀ s ∈ before, s.2 ≠ .quit a)
    (token : (({} : Bridge).run (before ++ [(env, act)])).token? (.windowBinding m) = some id) :
    ∃ spec, (({} : Bridge).run (before ++ [(env, act)])).tasks a =
      (({} : Bridge).run before).tasks a ++ [.present id spec m i] := by
  obtain ⟨y, found⟩ := Option.isSome_iff_exists.1 there
  obtain ⟨id', spec, tasks⟩ := tasks_of_request ⟨before, rfl⟩ env requested.accepted found
    (alive_run unasked found)
  have tasks : (({} : Bridge).run (before ++ [(env, act)])).tasks a =
      (({} : Bridge).run before).tasks a ++ [.present id' spec m i] := by
    rw [run_append, ← requested.taken]
    exact tasks
  have queued : .present id' spec m i ∈ (({} : Bridge).run (before ++ [(env, act)])).tasks a :=
    tasks ▸ List.mem_append_right _ List.mem_cons_self
  obtain rfl := KeepsToken.eq_of_token? (asked_of_task queued).keepsToken token
  exact ⟨spec, tasks⟩

/-! ## requests that are served -/

/-- Once its task has run, an application has the window that it presents, unless something
closes it. -/
theorem held_of_gone (unasked : ∀ s ∈ before ++ more, s.2 ≠ .quit a)
    (queued : .present id spec m i ∈ (({} : Bridge).run before).tasks a)
    (stays : (({} : Bridge).run before).Along (LeavesOpen a id) more)
    (gone : .present id spec m i ∉ (({} : Bridge).run (before ++ more)).tasks a) :
    ∃ w, (({} : Bridge).run (before ++ more)).watcherOf? a id = some w := by
  induction more generalizing before with
  | nil =>
    rw [List.append_nil] at gone
    exact absurd queued gone
  | cons s rest ih =>
    have alive {y : Application}
        (there : (({} : Bridge).run before).applications[a]? = some y) : Alive y :=
      alive_run (fun t mem => unasked t (List.mem_append_left _ mem)) there
    rw [List.append_cons] at unasked gone ⊢
    have last : ({} : Bridge).run (before ++ [s]) =
        (({} : Bridge).run before).step s.1 s.2 := run_append ..
    obtain still | ⟨-, -, y, y', -, there', runs⟩ := task_kept (fun _ => alive) queued
    · exact ih unasked (last ▸ still) (last ▸ stays.2) gone
    · obtain ⟨w, held⟩ := Option.isSome_iff_exists.1 runs.holds_of_present
      rw [← watcherOf?_of_found there'] at held
      rw [run_append, last]
      exact ⟨w, (createdUnder_of_held held stays.2).2⟩

/-- If an application has no window, one is created by the time that a request for it is served,
however many requests there are, and no other one unless it is closed again. -/
theorem createdUnder_of_request
    (unasked : ∀ s ∈ before ++ (mid ++ (env, act) :: rest), s.2 ≠ .quit a)
    (absent : (({} : Bridge).run before).watcherOf? a id = none)
    (stays : (({} : Bridge).run before).Along (LeavesOpen a id) (mid ++ (env, act) :: rest))
    (requested : RequestedAt m a i (before ++ mid) act)
    (there : ((({} : Bridge).run (before ++ mid)).applications[a]?).isSome = true)
    (token : (({} : Bridge).run (before ++ mid ++ [(env, act)])).token? (.windowBinding m) =
      some id)
    (served : (m, i) ∉ (({} : Bridge).run (before ++ (mid ++ (env, act) :: rest))).brought a) :
    ∃ c, createdUnder a id (({} : Bridge).run before) (mid ++ (env, act) :: rest) = [c] ∧
      (({} : Bridge).run (before ++ (mid ++ (env, act) :: rest))).watcherOf? a id =
        some c.watcher := by
  have split : before ++ (mid ++ (env, act) :: rest) = before ++ mid ++ [(env, act)] ++ rest := by
    simp
  obtain ⟨-, none⟩ | created := createdUnder_of_absent absent stays
  · rw [← run_append, split] at none
    rw [split] at unasked served
    rw [List.append_cons, along_append, ← run_append, ← List.append_assoc] at stays
    obtain ⟨spec, tasks⟩ := requested.tasks there (fun s mem => unasked s
      (List.mem_append_left _ (List.mem_append_left _ mem))) token
    have queued : .present id spec m i ∈
        (({} : Bridge).run (before ++ mid ++ [(env, act)])).tasks a :=
      tasks ▸ List.mem_append_right _ List.mem_cons_self
    obtain ⟨w, held⟩ := held_of_gone unasked queued stays.2 fun still =>
      served (mem_brought.2 ⟨id, spec, still⟩)
    rw [none] at held
    cases held
  · rw [run_append]
    exact created

/-! ## the request that a window is created for -/

/-- The first task of an application that presents a window is the one of a request. -/
def PresentsFirst (b : Bridge) (a : Nat) (id : Handle) (m i : Nat) : Prop :=
  ∃ spec ahead behind, b.tasks a = ahead ++ .present id spec m i :: behind ∧
    ∀ t ∈ ahead, t.presents id = false

/-- The first request for a window that is not there stays the first until the window is created
for it. -/
theorem PresentsFirst.step (first : b.PresentsFirst a id m i)
    (absent : b.watcherOf? a id = none) (alive : ∀ y, b.applications[a]? = some y → Alive y)
    (env : Environment) (act : Action) :
    (b.step env act).PresentsFirst a id m i ∧ (b.step env act).watcherOf? a id = none ∧
        (createdBy a b env act).filter (·.id = id) = [] ∨
      ∃ c, (createdBy a b env act).filter (·.id = id) = [c] ∧
        (b.step env act).CreatedFor m i c := by
  obtain ⟨spec, ahead, behind, tasks, unpresented⟩ := first
  cases creationStep_step a b env act with
  | rests quiet _ kept _ =>
    left
    rw [quiet]
    refine ⟨?_, kept id absent, rfl⟩
    obtain ⟨new, more⟩ | ⟨-, t, y, y', task, -, there', runs⟩ := tasks_step alive env act
    · exact ⟨spec, ahead, behind ++ new, by rw [more, tasks, List.append_assoc]; rfl, unpresented⟩
    · rw [tasks] at task
      cases ahead with
      | nil =>
        obtain rfl := (List.cons.inj task).1
        have held := runs.holds_of_present
        rw [Application.holds, ← watcherOf?_of_found there', kept id absent] at held
        cases held
      | cons u ahead =>
        exact ⟨spec, ahead, behind, (List.cons.inj task).2.symm, fun v mem =>
          unpresented v (List.mem_cons_of_mem u mem)⟩
  | @creates n j id' spec' _ task creates made _ =>
    rw [tasks] at task
    rw [made]
    cases ahead with
    | nil =>
      cases (List.cons.inj task).1
      exact .inr ⟨_, List.filter_cons_of_pos (by simp), creates.createdFor rfl⟩
    | cons u ahead =>
      obtain ⟨rfl, behind'⟩ := List.cons.inj task
      have other : id' ≠ id := by
        simpa [MainTask.presents] using unpresented _ List.mem_cons_self
      refine .inl ⟨⟨spec, ahead, behind, behind'.symm, fun v mem =>
        unpresented v (List.mem_cons_of_mem _ mem)⟩, ?_,
        List.filter_cons_of_neg (by simpa using other)⟩
      rw [creates.held, if_neg fun both => other both.2.symm]
      exact absent

/-- The task that is first to present a window creates it. -/
theorem PresentsFirst.run (first : (({} : Bridge).run before).PresentsFirst a id m i)
    (absent : (({} : Bridge).run before).watcherOf? a id = none)
    (unasked : ∀ s ∈ before ++ more, s.2 ≠ .quit a)
    (served : (m, i) ∉ (({} : Bridge).run (before ++ more)).brought a) :
    ∃ c later, createdUnder a id (({} : Bridge).run before) more = c :: later ∧
      (({} : Bridge).run (before ++ more)).CreatedFor m i c := by
  induction more generalizing before with
  | nil =>
    obtain ⟨spec, ahead, behind, tasks, -⟩ := first
    rw [List.append_nil] at served
    exact absurd (mem_brought.2 ⟨id, spec, tasks ▸ by simp⟩) served
  | cons s rest ih =>
    have alive {y : Application}
        (there : (({} : Bridge).run before).applications[a]? = some y) : Alive y :=
      alive_run (fun t mem => unasked t (List.mem_append_left _ mem)) there
    rw [List.append_cons] at unasked served ⊢
    have last : ({} : Bridge).run (before ++ [s]) =
        (({} : Bridge).run before).step s.1 s.2 := run_append ..
    rw [createdUnder_cons]
    obtain ⟨still, absent', none⟩ | ⟨c, made, createdFor⟩ :=
      first.step absent (fun _ => alive) s.1 s.2
    · rw [none, List.nil_append, ← last]
      exact ih (last ▸ still) (last ▸ absent') unasked served
    · rw [made, run_append, last]
      exact ⟨c, _, rfl, createdFor.run rest⟩

/-- If an application has no window, and no request for it is queued, it is created for the next
request, whatever becomes of it. -/
theorem createdUnder_of_first (unasked : ∀ s ∈ before ++ (env, act) :: rest, s.2 ≠ .quit a)
    (absent : (({} : Bridge).run before).watcherOf? a id = none)
    (alone : ∀ t ∈ (({} : Bridge).run before).tasks a, t.presents id = false)
    (requested : RequestedAt m a i before act)
    (there : ((({} : Bridge).run before).applications[a]?).isSome = true)
    (token : (({} : Bridge).run (before ++ [(env, act)])).token? (.windowBinding m) = some id)
    (served : (m, i) ∉ (({} : Bridge).run (before ++ (env, act) :: rest)).brought a) :
    ∃ c later, createdUnder a id (({} : Bridge).run before) ((env, act) :: rest) = c :: later ∧
      (({} : Bridge).run (before ++ (env, act) :: rest)).CreatedFor m i c := by
  obtain ⟨spec, tasks⟩ := requested.tasks there
    (fun s mem => unasked s (List.mem_append_left _ mem)) token
  have last : ({} : Bridge).run (before ++ [(env, act)]) =
      (({} : Bridge).run before).step env act := run_append ..
  have first : (({} : Bridge).run (before ++ [(env, act)])).PresentsFirst a id m i :=
    ⟨spec, _, [], tasks, alone⟩
  rw [List.append_cons] at unasked served ⊢
  rw [createdUnder_cons]
  cases creationStep_step a (({} : Bridge).run before) env act with
  | rests quiet _ kept _ =>
    rw [quiet, ← last]
    exact first.run (last ▸ kept id absent) unasked served
  | creates cause _ _ _ _ =>
    subst cause
    cases requested.accepted

/-! ## answers -/

/-- An application that nobody asks to quit accepts tasks. -/
theorem accepting_of_unasked (unasked : ∀ s ∈ actions, s.2 ≠ .quit a)
    (there : ((({} : Bridge).run actions).applications[a]?).isSome = true) :
    (({} : Bridge).run actions).Accepting a := by
  obtain ⟨y, found⟩ := Option.isSome_iff_exists.1 there
  exact ⟨y, found, (alive_run unasked found).isOpen⟩

/-- A request to open a window that passes the checks is answered with success. -/
theorem startGraphics_ok_iff (accepting : b.Accepting a) (m : Nat) (width height : Float)
    (options : GraphicsOptions) :
    (b.startGraphics m a width height options).2 = .ok () ↔
      b.acceptedStart? m (.startGraphics m a width height options) =
        some (a, .ofOptions width height options) := by
  rw [startGraphics, acceptedStart?]
  cases admitted : b.admitted m PlatformVersion.forStopAndGraphics with
  | error e => simp
  | ok machine =>
    dsimp only
    by_cases positive : WindowSpec.isPositiveSize width height = true
    · rw [if_pos positive, if_pos ⟨rfl, positive⟩]
      refine iff_of_true (present_of_accepting ?_ _ _) rfl
      obtain ⟨y, found, isOpen⟩ := accepting
      refine ⟨y, ?_, isOpen⟩
      rw [← found, ← b.applications_openWindow m machine.window a
        (.ofOptions width height options)]
      rfl
    · rw [if_neg positive, if_neg fun both => positive both.2]
      simp

/-- A live machine can show its window again as it was opened last. -/
theorem reopening?_run {machine : Machine}
    (found : (({} : Bridge).run actions).machines[m]? = some machine)
    (live : machine.phase = .live) :
    machine.window.reopening?.map (fun known => (known.1, known.2.2)) =
      latestStart? m actions := by
  have recorded := windowRecorded_run actions m
  rw [WindowRecorded, skeleton?, found] at recorded
  have application := recorded.application live
  have description := recorded.spec live
  have token := recorded.token live
  cases latest : latestStart? m actions with
  | none =>
    rw [latest] at token
    cases again : machine.window.reopening? with
    | none => rfl
    | some known =>
      rw [show machine.skeleton.window.token = some known.2.1 from
        (WindowState.reopening?_eq_some_iff.1 again).2.1] at token
      cases token
  | some start =>
    rw [latest] at application description token
    obtain ⟨id, known⟩ := Option.isSome_iff_exists.1 token
    have again : machine.window.reopening? = some (start.1, id, start.2) :=
      WindowState.reopening?_eq_some_iff.2 ⟨application, known, description⟩
    rw [again]
    rfl

variable {machine : Machine}

/-- A window that was never opened cannot be shown, and no other condition fails. -/
theorem showWindow_precondition_iff
    (admitted : (({} : Bridge).run actions).admitted m PlatformVersion.forStopAndGraphics =
      .ok machine) :
    (∃ cause, ((({} : Bridge).run actions).showWindow m).2 = .error (.precondition cause)) ↔
      latestStart? m actions = none := by
  obtain ⟨found, live, -⟩ := admitted_eq_ok_iff.1 admitted
  have latest := reopening?_run found live
  rw [showWindow, admitted]
  dsimp only
  cases again : machine.window.reopening? with
  | none =>
    rw [again] at latest
    exact iff_of_true ⟨_, rfl⟩ latest.symm
  | some known =>
    rw [again] at latest
    refine iff_of_false ?_ (by simp [← latest])
    rintro ⟨cause, refused⟩
    have passed := no_refusal_of_present (congrArg BridgeError.of? refused)
    cases passed

/-- A window that was opened is shown again as long as its application accepts tasks. -/
theorem showWindow_ok {k : Nat}
    (admitted : (({} : Bridge).run actions).admitted m PlatformVersion.forStopAndGraphics =
      .ok machine)
    (latest : latestStart? m actions = some (k, spec))
    (accepting : (({} : Bridge).run actions).Accepting k) :
    ((({} : Bridge).run actions).showWindow m).2 = .ok () := by
  obtain ⟨found, live, -⟩ := admitted_eq_ok_iff.1 admitted
  have same := reopening?_run found live
  rw [latest] at same
  obtain ⟨⟨k', id, spec'⟩, again, known⟩ := Option.map_eq_some_iff.1 same
  cases known
  rw [showWindow, admitted]
  dsimp only
  rw [again]
  let opened := (({} : Bridge).run actions).modifyMachine m fun x =>
    { x with window := x.window.opened id k' spec' }
  exact present_of_accepting (b := opened) (a := k') accepting id spec'

/-! ## the windows of a machine that are shown -/

/-- How the windows of a machine are shown in an application, in a run that leads to `b`.  Each
window is known by the number of its watcher, and each request by the subscription that it
takes. -/
structure ShowsOnce (m a : Nat) (actions : List (Environment × Action)) (b : Bridge) : Prop where
  /-- The windows that are created behind a moment are those that the toolkit is called for from
  then on, in order. -/
  recorded : ∀ before more, actions = before ++ more →
    b.creations a = (({} : Bridge).run before).creations a ++
      (created a (({} : Bridge).run before) more).map fun c => (c.id, c.spec)
  /-- Each window of the application was created by one call. -/
  once : ((created a {} actions).map (·.watcher)).Nodup ∧
    ∀ (w : Nat) (x : Watcher), b.watchers[w]? = some x → x.application = a →
      ∃ c ∈ created a {} actions, c.watcher = w
  /-- Each was created for a request, and for each request of the machine there is one at
  most. -/
  requested : (∀ c ∈ created a {} actions, ∃ n i, b.CreatedFor n i c) ∧
    ∀ c d i, c ∈ created a {} actions → d ∈ created a {} actions → b.CreatedFor m i c →
      b.CreatedFor m i d → c = d
  /-- The request asked for it under the token of the machine, with the description of the start
  that was accepted last at the moment of the request. -/
  asked : ∀ c i, c ∈ created a {} actions → b.CreatedFor m i c →
    Asked m a i c.id c.spec actions
  /-- All windows of the machine have one token, in every application. -/
  token : ∀ c d k i j, c ∈ created a {} actions → d ∈ created k {} actions →
    b.CreatedFor m i c → b.CreatedFor m j d → c.id = d.id
  /-- While a window is open and stays open, no other one is created, whatever is asked for. -/
  idle : ∀ before more id w, actions = before ++ more →
    (({} : Bridge).run before).watcherOf? a id = some w →
    (({} : Bridge).run before).Along (LeavesOpen a id) more →
    createdUnder a id (({} : Bridge).run before) more = [] ∧ b.watcherOf? a id = some w
  /-- After a window was closed, and before it is closed again, one window is created by the time
  that the task of a request has run, however many requests there are. -/
  reopens : ∀ before mid env act rest id i, actions = before ++ (mid ++ (env, act) :: rest) →
    (∀ s ∈ actions, s.2 ≠ .quit a) →
    (({} : Bridge).run before).watcherOf? a id = none →
    (({} : Bridge).run before).Along (LeavesOpen a id) (mid ++ (env, act) :: rest) →
    RequestedAt m a i (before ++ mid) act →
    ((({} : Bridge).run (before ++ mid)).applications[a]?).isSome = true →
    (({} : Bridge).run (before ++ mid ++ [(env, act)])).token? (.windowBinding m) = some id →
    (m, i) ∉ b.brought a →
    ∃ c, createdUnder a id (({} : Bridge).run before) (mid ++ (env, act) :: rest) = [c] ∧
      b.watcherOf? a id = some c.watcher
  /-- It is created for the first request after the window was closed, unless one from before is
  still queued then. -/
  first : ∀ before env act rest id i, actions = before ++ (env, act) :: rest →
    (∀ s ∈ actions, s.2 ≠ .quit a) →
    (({} : Bridge).run before).watcherOf? a id = none →
    (∀ t ∈ (({} : Bridge).run before).tasks a, t.presents id = false) →
    RequestedAt m a i before act →
    ((({} : Bridge).run before).applications[a]?).isSome = true →
    (({} : Bridge).run (before ++ [(env, act)])).token? (.windowBinding m) = some id →
    (m, i) ∉ b.brought a →
    ∃ c later, createdUnder a id (({} : Bridge).run before) ((env, act) :: rest) = c :: later ∧
      b.CreatedFor m i c
  /-- The starts that are accepted are those that are answered with success. -/
  accepted : ∀ k width height options, (∀ s ∈ actions, s.2 ≠ .quit k) →
    (b.applications[k]?).isSome = true →
    ((b.startGraphics m k width height options).2 = .ok () ↔
      b.acceptedStart? m (.startGraphics m k width height options) =
        some (k, .ofOptions width height options))
  /-- To show the window fails on a condition exactly until a start is accepted. -/
  refused : ∀ machine, b.admitted m PlatformVersion.forStopAndGraphics = .ok machine →
    ((∃ cause, (b.showWindow m).2 = .error (.precondition cause)) ↔
      latestStart? m actions = none)
  /-- From then on it succeeds. -/
  shown : ∀ machine k spec, b.admitted m PlatformVersion.forStopAndGraphics = .ok machine →
    latestStart? m actions = some (k, spec) → (∀ s ∈ actions, s.2 ≠ .quit k) →
    (b.applications[k]?).isSome = true → (b.showWindow m).2 = .ok ()
  /-- Left to itself, the application takes no more turns than it has work. -/
  turns : ∀ more, (∀ s ∈ actions, s.2 ≠ .quit a) → b.Along (Turns a) more →
    more.length ≤ b.backlog a
  /-- When there is no turn left, the task of every request has run. -/
  rests : ∀ more, (∀ s ∈ actions, s.2 ≠ .quit a) → b.Along (Turns a) more →
    (∀ env act, ¬Turns a (b.run more) env act) → (b.run more).brought a = []

/-- Windows are shown again, and created where there is none, over every run. -/
theorem shows_once (m a : Nat) (actions : List (Environment × Action)) :
    ShowsOnce m a actions (({} : Bridge).run actions) where
  recorded := by
    rintro before more rfl
    rw [← (createdOnce_run a (before ++ more)).recorded, created_append, List.map_append,
      (createdOnce_run a before).recorded]
  once := ⟨(createdOnce_run a actions).once, (createdOnce_run a actions).all⟩
  requested := by
    refine ⟨fun c mem => ?_, fun c d i => createdFor_unique⟩
    obtain ⟨n, i, createdFor, -⟩ := asked_of_created mem
    exact ⟨n, i, createdFor⟩
  asked := fun c i => asked_of_createdFor
  token := fun c d k i j first second for₁ for₂ =>
    (asked_of_createdFor first for₁).token_eq (asked_of_createdFor second for₂)
  idle := by
    rintro before more id w rfl held stays
    rw [run_append]
    exact createdUnder_of_held held stays
  reopens := by
    rintro before mid env act rest id i rfl unasked absent stays requested there token served
    exact createdUnder_of_request unasked absent stays requested there token served
  first := by
    rintro before env act rest id i rfl unasked absent alone requested there token served
    exact createdUnder_of_first unasked absent alone requested there token served
  accepted := fun k width height options unasked there =>
    startGraphics_ok_iff (accepting_of_unasked unasked there) m width height options
  refused := fun machine => showWindow_precondition_iff
  shown := fun machine k spec admitted latest unasked there =>
    showWindow_ok admitted latest (accepting_of_unasked unasked there)
  turns := fun more unasked turns => length_le_backlog unasked turns
  rests := by
    intro more unasked turns idle
    have rest := atRest_of_turns unasked turns idle
    rw [brought, rest.tasks]
    rfl

/-- A window that is open is shown again, and then the user closes it. -/
def reclosing : List (Environment × Action) :=
  creation ++ [(.idle, .addApplication), (.idle, .startGraphics 0 0 640 480 {}),
    (.idle, .mainTurn 0), (.idle, .showWindow 0), (.idle, .mainTurn 0), (.idle, .userClosed 0 ⟨3⟩)]

/-- The next request has a window created, and one more request does not. -/
theorem shows_once_reclosing :
    ∃ c later, createdUnder 0 ⟨3⟩ (({} : Bridge).run reclosing) [(.idle, .showWindow 0),
        (.idle, .startGraphics 0 0 800 600 {}), (.idle, .mainTurn 0), (.idle, .mainTurn 0)] =
          c :: later ∧
      (({} : Bridge).run (reclosing ++ [(.idle, .showWindow 0),
        (.idle, .startGraphics 0 0 800 600 {}), (.idle, .mainTurn 0),
        (.idle, .mainTurn 0)])).CreatedFor 0 2 c := by
  have absent : (({} : Bridge).run reclosing).watcherOf? 0 ⟨3⟩ = none := by decide +kernel
  have alone : ∀ t ∈ (({} : Bridge).run reclosing).tasks 0, t.presents ⟨3⟩ = false := by
    decide +kernel
  have requested : RequestedAt 0 0 2 reclosing (.showWindow 0) :=
    ⟨by decide +kernel, by decide +kernel⟩
  exact (shows_once 0 0 _).first reclosing .idle (.showWindow 0) _ ⟨3⟩ 2 rfl
    (by simp [reclosing, creation]) absent alone requested (by decide +kernel) (by decide +kernel)
    (by decide +kernel)

/-- The window is opened with one description, and while it is open with another one.  It is not
created again for that, but when it is shown after the user closed it. -/
example :
    let actions := creation ++ [(.idle, .addApplication), (.idle, .startGraphics 0 0 640 480 {}),
      (.idle, .showWindow 0), (.idle, .mainTurn 0), (.idle, .startGraphics 0 0 800 600 {}),
      (.idle, .mainTurn 0), (.idle, .mainTurn 0), (.idle, .userClosed 0 ⟨3⟩),
      (.idle, .showWindow 0), (.idle, .showWindow 0), (.idle, .mainTurn 0), (.idle, .mainTurn 0)]
    (({} : Bridge).run actions).creations 0 =
      [(⟨3⟩, .ofOptions 640 480 {}), (⟨3⟩, .ofOptions 800 600 {})] := by
  decide +kernel

end Bridge

end MachineBridge
