import MachineBridge.Proofs.Callbacks
import MachineBridge.Proofs.Windows.BackgroundStop
import MachineBridge.Proofs.Windows.Watchers

/-!
# MachineBridge.Proofs.Windows.UserClosing

The report that the user closed a window.  It may come for a window that is open or one that was
closed already, for a machine that goes on or that was finalized, and for an id that nobody knows.

It is effective once (`closes_for_user`).  The application loses the window, the machine that is
bound to it is told, and a background stop of the machine begins, which tells the runtime at most
once.  Until a task presents the window again, every further report changes nothing at all.
-/

namespace MachineBridge

namespace Bridge

variable {b : Bridge} {a m w : Nat} {id : Handle}

/-- The bridge once an application has lost a window to the user. -/
def lostToUser (b : Bridge) (a : Nat) (id : Handle) (w : Nat) : Bridge :=
  { b with
    applications := b.applications.modify a fun x =>
      { x.eraseController id with history := x.history ++ [.closedByUser id] }
    watchers := b.watchers.modify w fun x => { x with isOpen := false } }

/-- A step runs a task that presents a window in an application. -/
def RunsPresent (b : Bridge) (a : Nat) (id : Handle) (act : Action) : Prop :=
  act = .mainTurn a ∧ b.canTurn a = true ∧ ∃ x spec m i rest, b.applications[a]? = some x ∧
    x.queue.messages = .run (.present id spec m i) :: rest

/-! ## the report -/

/-- An application loses a window with its controller and its watcher. -/
theorem lostToUser_eq (b : Bridge) (a : Nat) (id : Handle) (w : Nat) :
    ((b.removeController a id w).modifyApplication a fun x =>
      { x with history := x.history ++ [.closedByUser id] }) = b.lostToUser a id w := by
  have twice : (b.applications.modify a (·.eraseController id)).modify a (fun x =>
      { x with history := x.history ++ [.closedByUser id] }) = b.applications.modify a fun x =>
        { x.eraseController id with history := x.history ++ [.closedByUser id] } := by
    rw [List.modify_modify_eq]
    rfl
  exact congrArg (fun applications => { b with
    applications, watchers := b.watchers.modify w fun x => { x with isOpen := false } }) twice

/-- A machine that a window token names is live. -/
theorem live_of_named (reachable : b.Reachable)
    (named : b.registry.get? id = some (.windowBinding m)) :
    ∃ x, b.machines[m]? = some x ∧ x.window.token = some id ∧ x.phase = .live ∧
      x.references ≠ 0 := by
  obtain ⟨x, found, token⟩ := window_of_named reachable named
  obtain ⟨actions, rfl⟩ := reachable
  have live := live_of_token found token
  have held := (life_run actions (life?_of_found found)).held live
  exact ⟨x, found, token, live, Nat.pos_iff_ne_zero.1 held⟩

/-- The user closes a window whose machine is bound to its token. -/
theorem userClosed_of_bound (reachable : b.Reachable) (held : b.watcherOf? a id = some w)
    (named : b.registry.get? id = some (.windowBinding m)) {x : Machine}
    (found : b.machines[m]? = some x) (counted : x.references ≠ 0) :
    b.userClosed a id = { b.lostToUser a id w with
      machines := b.machines.set m
        { x with window := x.window.closed, references := x.references + 1 }
      stops := b.stops ++ [{ machine := m }] } := by
  have valid : id ≠ .invalid := by
    obtain ⟨actions, rfl⟩ := reachable
    rintro rfl
    rw [unreserved_run] at named
    cases named
  have resolved : (b.lostToUser a id w).registry.resolve .windowBinding id =
      .ok (.windowBinding m) := Registry.resolve_eq_ok_iff.2 ⟨named, rfl⟩
  let counting : Bridge := { b.lostToUser a id w with
    machines := b.machines.set m { x with references := x.references + 1 }
    stops := b.stops ++ [{ machine := m }] }
  have begun : (b.lostToUser a id w).beginStop m = counting := by
    let begun : Bridge :=
      { b.lostToUser a id w with stops := b.stops ++ [{ machine := m }] }
    show begun.addReference m = counting
    rw [addReference, modifyMachine_of_found (b := begun) found, if_neg counted]
    rfl
  have told : counting.registry.resolve .windowBinding id = .ok (.windowBinding m) := resolved
  have here : counting.machines[m]? = some { x with references := x.references + 1 } :=
    List.getElem?_set_self (List.getElem?_eq_some_iff.1 found).1
  rw [userClosed, show (b.applications[a]?).bind (·.watcher? id) = some w from held]
  dsimp only
  rw [lostToUser_eq, resolved]
  dsimp only
  rw [Value.owner, begun, receive, if_neg (by simpa using valid)]
  simp only [Callback.kind, Callback.token, told, Value.owner, deliver]
  rw [modifyMachine_of_found here]
  show { counting with machines := (b.machines.set m _).set m _ } = _
  rw [List.set_set]

/-- The user closes a window that no machine is bound to. -/
theorem userClosed_of_unbound (held : b.watcherOf? a id = some w)
    (unnamed : ∀ m, b.registry.get? id ≠ some (.windowBinding m)) :
    b.userClosed a id = b.lostToUser a id w := by
  have unresolved : ∃ e, (b.lostToUser a id w).registry.resolve .windowBinding id = .error e := by
    cases resolved : (b.lostToUser a id w).registry.resolve .windowBinding id with
    | error e => exact ⟨e, rfl⟩
    | ok v =>
      obtain ⟨named, kind⟩ := Registry.resolve_eq_ok_iff.1 resolved
      cases v <;> cases kind
      exact absurd named (unnamed _)
  obtain ⟨e, unresolved⟩ := unresolved
  rw [userClosed, show (b.applications[a]?).bind (·.watcher? id) = some w from held]
  dsimp only
  rw [lostToUser_eq, unresolved]
  dsimp only
  rw [receive]
  split
  · rfl
  · simp only [Callback.kind, Callback.token, unresolved]

/-- A report for a window that the application does not have changes nothing. -/
theorem userClosed_of_absent (absent : b.watcherOf? a id = none) : b.userClosed a id = b := by
  rw [userClosed, show (b.applications[a]?).bind (·.watcher? id) = none from absent]

/-- The window is lost, and no other. -/
theorem watcherOf?_lostToUser (held : b.watcherOf? a id = some w) (k : Nat) (j : Handle) :
    (b.lostToUser a id w).watcherOf? k j =
      if k = a ∧ j = id then none else b.watcherOf? k j := by
  have after : (b.lostToUser a id w).watcherOf? k j =
      (b.modifyApplication a fun x =>
        { x.eraseController id with history := x.history ++ [.closedByUser id] }).watcherOf? k j :=
    rfl
  rw [after, watcherOf?_modifyApplication]
  by_cases same : a = k
  · subst same
    obtain ⟨x, there, -⟩ := there_of_watcherOf? held
    rw [if_pos rfl, there, Option.bind_some, watcherOf?_of_found there]
    show (x.eraseController id).watcher? j = _
    rw [Application.watcher?_eraseController]
    by_cases own : j = id
    · rw [if_pos own, if_pos ⟨rfl, own⟩]
    · rw [if_neg own, if_neg fun both => own both.2]
  · rw [if_neg same, if_neg fun both => same both.1.symm]

theorem applications_userClosed (held : b.watcherOf? a id = some w) :
    (b.userClosed a id).applications = (b.lostToUser a id w).applications := by
  rw [userClosed, show (b.applications[a]?).bind (·.watcher? id) = some w from held]
  dsimp only
  rw [applications_receive, lostToUser_eq]
  split <;> rfl

/-! ## further reports -/

/-- After the report the application does not have the window. -/
theorem absent_userClosed (b : Bridge) (a : Nat) (id : Handle) :
    (b.userClosed a id).watcherOf? a id = none := by
  cases held : b.watcherOf? a id with
  | none => rw [userClosed_of_absent held, held]
  | some w =>
    have lost := watcherOf?_lostToUser held a id
    rw [if_pos ⟨rfl, rfl⟩] at lost
    rw [watcherOf?, applications_userClosed held]
    exact lost

/-- An application gets a window by a task that presents it. -/
theorem absent_step {env : Environment} {act : Action} (absent : b.watcherOf? a id = none)
    (presents : ¬b.RunsPresent a id act) : (b.step env act).watcherOf? a id = none := by
  cases b.watcherStep_step env act with
  | undisturbed same => rw [same.held, absent]
  | ended _ same => exact (same.held a id).trans absent
  | closed _ shuts =>
    rw [shuts.lost]
    split
    · rfl
    · exact absent
  | @created k m i j spec cause task _ creates =>
    subst cause
    rw [creates.held]
    split
    · next both =>
      obtain ⟨rfl, rfl⟩ := both
      have more := creates.watchers
      have turned := b.turnStep_mainTurn env a
      have tasks : b.tasks a = .present id spec m i :: (b.mainTurn env a).tasks a := task
      have watchers : (b.mainTurn env a).watchers = _ := more
      generalize b.mainTurn env a = b' at turned tasks watchers
      cases turned with
      | waits _ => exact absurd (congrArg List.length watchers) (by simp)
      | @runs x t rest ready there first =>
        rw [tasks_of_found there, Application.tasks_of_messages first] at tasks
        obtain rfl := (List.cons.inj tasks).1
        exact absurd ⟨rfl, ready, x, spec, m, i, rest, there, first⟩ presents
      | ends _ _ _ _ =>
        rw [(undisturbed_discardTasks (b.dequeue a) _).watchers] at watchers
        exact absurd (congrArg List.length watchers) (by simp [dequeue, modifyApplication])
    · exact absent

/-- A window that is lost is absent until a task presents it. -/
theorem absent_run {rest : List (Environment × Action)} (absent : b.watcherOf? a id = none)
    (presents : b.Along (fun c _ act => ¬c.RunsPresent a id act) rest) :
    (b.run rest).watcherOf? a id = none := by
  induction rest generalizing b with
  | nil => exact absent
  | cons s rest ih => exact ih (absent_step absent presents.1) presents.2

/-! ## turns of a background stop -/

/-- A live machine that nobody finalizes is released because its last reference is dropped. -/
theorem LifeStep.unreferenced {act : Action} {l l' : Life} (step : LifeStep act m (some l) (some l'))
    (live : l.phase = .live) (releasing : l'.phase = .releasing) (other : act ≠ .finalize m) :
    l'.references = 0 := by
  cases step with
  | released _ cause => exact cause.resolve_left fun finalizes => other finalizes.1
  | same | shared _ | dropped _ => cases live.symm.trans releasing
  | created | failed | finished => cases releasing

/-- A turn of a background stop leaves the window of every machine as it is, unless it drops the
last reference to a live machine, which is then torn down. -/
theorem window_stop (env : Environment) (b : Bridge) (s : Nat) {k : Nat} {x : Machine}
    (found : b.machines[k]? = some x) :
    ∃ y, (b.stop env s).machines[k]? = some y ∧ (y.window = x.window ∨
      x.phase = .live ∧ y.phase = .releasing ∧ y.references = 0) := by
  have skeletons := b.skeletonStep_step env (.stop s) k
  have lives := b.lifeStep_step env (.stop s) k
  rw [step] at skeletons lives
  rw [life?_of_found found] at lives
  have known := skeleton?_of_found found
  have kept {t : MachineSkeleton} (after : (b.stop env s).skeleton? k = some t)
      (same : t.window = x.window) : ∃ y, (b.stop env s).machines[k]? = some y ∧
        (y.window = x.window ∨ x.phase = .live ∧ y.phase = .releasing ∧ y.references = 0) := by
    obtain ⟨y, found', rfl⟩ := Option.map_eq_some_iff.1 after
    exact ⟨y, found', .inl same⟩
  generalize after : (b.stop env s).skeleton? k = t at skeletons
  cases skeletons with
  | same => exact kept (after.trans known) rfl
  | begun fresh =>
    rw [known] at fresh
    cases fresh
  | created same _ _ | finished same _ =>
    cases known.symm.trans same
    exact kept after rfl
  | released same live _ =>
    cases known.symm.trans same
    obtain ⟨y, found', skeleton⟩ := Option.map_eq_some_iff.1 after
    have releasing : y.phase = .releasing := congrArg MachineSkeleton.phase skeleton
    refine ⟨y, found', .inr ⟨live, releasing, ?_⟩⟩
    rw [life?_of_found found'] at lives
    exact lives.unreferenced live releasing (by simp)
  | opened _ _ requests _ | refused _ _ requests _ => cases requests
  | closed _ _ closes => cases closes

/-! ## every report in every reachable state -/

/-- What the report that the user closed a window of an application comes to. -/
structure ClosesForUser (b : Bridge) (a : Nat) (id : Handle) : Prop where
  /-- An application that has the window loses it, and no other window. -/
  removes : ∀ w, b.watcherOf? a id = some w → ∀ k j,
    (b.userClosed a id).watcherOf? k j = if k = a ∧ j = id then none else b.watcherOf? k j
  /-- If the token of the window is bound to a machine, that is a live one.  It is marked as having
  no window, a background stop with a reference to it begins, and nothing else happens; the toolkit
  is not called. -/
  bound : ∀ w m, b.watcherOf? a id = some w → b.registry.get? id = some (.windowBinding m) →
    ∃ x, b.machines[m]? = some x ∧ x.window.token = some id ∧ x.phase = .live ∧
      b.userClosed a id = { b.lostToUser a id w with
        machines := b.machines.set m
          { x with window := x.window.closed, references := x.references + 1 }
        stops := b.stops ++ [{ machine := m }] }
  /-- If it is bound to none, the application loses the window and no machine is concerned. -/
  unbound : ∀ w, b.watcherOf? a id = some w →
    (∀ m, b.registry.get? id ≠ some (.windowBinding m)) → b.userClosed a id = b.lostToUser a id w
  /-- A machine is bound to the token of its window as long as callers release their own tokens
  only. -/
  named : b.registry.Holds b.token? → ∀ (m : Nat) x, b.machines[m]? = some x →
    x.window.token = some id → b.registry.get? id = some (.windowBinding m)
  /-- A report for a window that the application does not have changes nothing. -/
  unknown : b.watcherOf? a id = none → b.userClosed a id = b
  /-- Neither does a further report, until a task presents the window again. -/
  again : ∀ rest, (b.userClosed a id).Along (fun c _ act => ¬c.RunsPresent a id act) rest →
    ((b.userClosed a id).run rest).userClosed a id = (b.userClosed a id).run rest
  /-- The background stop tells the runtime of this machine once in all its turns, if the machine
  passes the checks, and otherwise it tells none.  A machine that is finalized between the two
  checks is not bothered. -/
  stops : ∀ w m, b.watcherOf? a id = some w → b.registry.get? id = some (.windowBinding m) →
    ∀ rest k, OneIf ((b.userClosed a id).collect (stopRequests b.stops.length k) rest)
      (k = m ∧ Checks m ((b.userClosed a id).collect (stopTurns b.stops.length) rest))
  /-- Whatever comes of a background stop, its turns leave windows, watchers and flags as they are,
  unless it was the last to hold a live machine, which is then torn down. -/
  undisturbed : ∀ env s, Undisturbed b (b.step env (.stop s)) ∧
    ∀ (k : Nat) x, b.machines[k]? = some x → ∃ y, (b.step env (.stop s)).machines[k]? = some y ∧
      (y.window = x.window ∨ x.phase = .live ∧ y.phase = .releasing ∧ y.references = 0)
  /-- A background stop ends when its call returns, with a failure as with success. -/
  swallowed : ∀ env s m call, b.StopAt s m (.waiting call) → (b.callResult? call).isSome = true →
    b.step env (.stop s) = b.endStop s m

/-- The report that the user closed a window is effective once, in every bridge that some run
leads to. -/
theorem closes_for_user (actions : List (Environment × Action)) (a : Nat) (id : Handle) :
    (({} : Bridge).run actions).ClosesForUser a id := by
  have reachable : (({} : Bridge).run actions).Reachable := ⟨actions, rfl⟩
  generalize ({} : Bridge).run actions = b at reachable
  refine
    { removes := fun w held k j => ?_, bound := fun w m held named => ?_
      unbound := fun w held unnamed => userClosed_of_unbound held unnamed
      named := fun holds m x found token => holds _ _ ?_
      unknown := userClosed_of_absent
      again := fun rest presents =>
        userClosed_of_absent (absent_run (b.absent_userClosed a id) presents)
      stops := fun w m held named rest k => stopRequests_checking ?_ rest
      undisturbed := fun env s =>
        ⟨(b.edits_stop env s).undisturbed rfl, fun k x => b.window_stop env s⟩
      swallowed := fun env s m call waits returned => ?_ }
  · rw [watcherOf?, applications_userClosed held]
    exact watcherOf?_lostToUser held k j
  · obtain ⟨x, found, token, live, counted⟩ := live_of_named reachable named
    exact ⟨x, found, token, live, userClosed_of_bound reachable held named found counted⟩
  · rw [token?, skeleton?_of_found found]
    exact token
  · obtain ⟨x, found, -, -, counted⟩ := live_of_named reachable named
    rw [StopAt, userClosed_of_bound reachable held named found counted]
    exact List.getElem?_concat_length
  · rw [step, stop, show b.stops[s]? = _ from waits]
    exact if_pos returned

/-- An application has the window of a machine. -/
def presented : List (Environment × Action) :=
  creation ++ [(.idle, .addApplication), (.idle, .startGraphics 0 0 800 600 {}),
    (.idle, .mainTurn 0)]

/-- The user closes the window, which is reported twice.  The machine can be stopped, and its
runtime is told once; one more report changes nothing. -/
theorem closes_for_user_reported_twice :
    let stoppable : Environment := { Environment.idle with can := fun _ _ => true }
    let turns := [(.idle, .userClosed 0 ⟨3⟩), (stoppable, .stop 0), (.idle, .stop 0),
      (stoppable, .stop 0)]
    let closed := (({} : Bridge).run presented).userClosed 0 ⟨3⟩
    (closed.collect (stopRequests 0 0) turns).length = 1 ∧
      (closed.run turns).userClosed 0 ⟨3⟩ = closed.run turns := by
  intro stoppable turns closed
  have held : (({} : Bridge).run presented).watcherOf? 0 ⟨3⟩ = some 0 := by decide +kernel
  have named : (({} : Bridge).run presented).registry.get? ⟨3⟩ = some (.windowBinding 0) := by
    decide +kernel
  have checks : Checks 0 (closed.collect (stopTurns 0) turns) := by decide +kernel
  have idle : closed.Along (fun c _ _ => c.canTurn 0 = false) turns := by decide +kernel
  have presents : closed.Along (fun c _ act => ¬c.RunsPresent 0 ⟨3⟩ act) turns := by
    refine idle.mono fun c _ _ idle ⟨_, ready, _⟩ => ?_
    rw [idle] at ready
    cases ready
  have closes := closes_for_user presented 0 ⟨3⟩
  exact ⟨(closes.stops 0 0 held named turns 0).1 ⟨rfl, checks⟩, closes.again turns presents⟩

end Bridge

end MachineBridge
