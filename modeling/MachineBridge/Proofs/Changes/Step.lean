import MachineBridge.Proofs.Changes

/-!
# MachineBridge.Proofs.Changes.Step

What each operation of the bridge does to machines and applications, as the changes that are
listed in the module above, and from these what each step does (`leads_step`).

What an operation does to streams of states, references and queues needs no reason
(`Edits.leads`).  Those that hand over a task or look at a window need the window to be in the
set `N`; where it comes from says why it is: from a machine, from a queue, or from whoever
watches it or asked about it.
-/

namespace MachineBridge

open DisconnectPipeline (Use)
open Relation (ReflTransGen)

namespace Bridge

variable {N : Handle → Prop} {b b' : Bridge} {a m : Nat} {id : Handle}

/-! ## streams -/

/-- The pipeline of a machine is used, but not for a subscription. -/
theorem leads_use (b : Bridge) (m : Nat) {u : Use} (ongoing : u ≠ .shutdown)
    (listening : u ≠ .subscribe) : Leads N b (b.modifyMachine m fun x =>
      { x with disconnect := x.disconnect.use x.configuration u }) :=
  b.leads_modifyMachine m fun _ _ => .uses ongoing fun starts => absurd starts listening

theorem leads_subscribeDisconnects (b : Bridge) (m : Nat) :
    Leads N b (b.subscribeDisconnects m).1 := by
  unfold subscribeDisconnects
  split
  · exact .refl b
  · next machine admitted =>
    obtain ⟨found, admits⟩ := admitted_eq_ok_iff.1 admitted
    exact leads_of_found found (.uses (u := .subscribe) (by simp) fun _ => admits)

/-! ## calls into the runtime -/

/-- A call into the runtime of a machine that lets it pass. -/
theorem leads_recordCall {machine : Machine} {c : RuntimeCall}
    (admitted : b.admitted m c.requiredRelease = .ok machine) (other : c ≠ .release) :
    Leads N b (b.recordCall m c) := by
  obtain ⟨found, admits⟩ := admitted_eq_ok_iff.1 admitted
  exact leads_of_found found (.calls admits other)

/-- A control call is noted with the machine, and nothing else. -/
theorem leads_beginControl (b : Bridge) (m : Nat) (op : Operation) :
    Leads N b (b.beginControl m op).1 := by
  unfold beginControl
  split
  · exact .refl b
  · next machine admitted =>
    let waiting : Bridge := { b with
      registry := (b.registry.register (.completion b.calls.length)).1
      calls := b.calls ++ [{ machine := m, operation := op, token := ⟨b.registry.next⟩ }] }
    have begun : Leads N b waiting := .of_same rfl rfl rfl rfl
    exact begun.trans (leads_recordCall (b := waiting) (c := .perform op ⟨b.registry.next⟩)
      admitted (by simp))

theorem leads_requestStop (env : Environment) (b : Bridge) (m : Nat) :
    Leads N b (b.requestStop env m).1 := by
  unfold requestStop
  split
  · exact .refl b
  · next machine admitted => exact leads_recordCall (c := .requestStop) admitted (by simp)

theorem leads_ask (env : Environment) (b : Bridge) (m : Nat) (q : Query) :
    Leads N b (b.ask env m q).1 := by
  unfold ask
  split
  · exact .refl b
  · next machine found =>
    split
    · next can =>
      have admitted : b.admitted m q.requiredRelease = .ok machine := by
        rw [Machine.canAsk, Bool.and_eq_true, Machine.isLive, beq_iff_eq] at can
        exact admitted_eq_ok_iff.2 ⟨found, can⟩
      exact leads_recordCall (c := .query q) admitted (by simp)
    · exact .refl b

/-! ## reports of the runtime -/

/-- A report of the runtime is taken by one machine. -/
theorem leads_receive (b : Bridge) (e : Callback) : Leads N b (b.receive e).1 := by
  unfold receive
  split
  · exact .refl b
  · split
    · exact .refl b
    · next v _ =>
      cases e with
      | completion token error =>
        simp only [deliver]
        split
        · exact .refl b
        · exact .of_same rfl rfl rfl rfl
      | stateChanged token code =>
        simp only [deliver]
        split
        · exact .refl b
        · exact b.leads_modifyMachine _ fun _ _ => .streams
      | disconnected token index error =>
        exact b.leads_use _ (u := .report { index, cause := error.getD .unspecified }) (by simp)
          (by simp)
      | disconnectsEnded token => exact b.leads_use _ (u := .endReports) (by simp) (by simp)
      | windowClosed token => exact b.leads_modifyMachine _ fun _ _ => .shuts

/-! ## tasks -/

/-- A task that is handed over names a window of the set, if it names one. -/
theorem leads_dispatch (b : Bridge) (a : Nat) {t : MainTask}
    (named : ∀ id, t.window? = some id → N id) : Leads N b (b.dispatch a t).1 := by
  obtain ⟨x, found, -, h⟩ | ⟨-, e, h⟩ := b.dispatch_cases a t
  · rw [h]
    refine b.leads_modifyApplication a fun y known => .single ?_
    cases found.symm.trans known
    exact .posts named
  · rw [h]
    exact .refl b

/-- Tasks that are discarded leave machines and applications as they are. -/
theorem leads_discardTasks (b : Bridge) (ts : List MainTask) :
    Leads N b (ts.foldl discardTask b) := by
  induction ts generalizing b with
  | nil => exact .refl b
  | cons t ts ih =>
    refine .trans ?_ (ih _)
    cases t with
    | present id spec m i => exact (b.edits_dropStates m i).leads rfl
    | inquire i => exact b.leads_answerInquiry i _
    | bringToFront | forget | closeForStop | host => exact .of_same rfl rfl rfl rfl

theorem leads_postJob (b : Bridge) (a : Nat) : Leads N b (b.postJob a).1 := by
  have posted : Leads N b (b.dispatch a (.host b.jobs.length)).1 :=
    b.leads_dispatch a fun _ none => by cases none
  unfold postJob
  split <;> next h =>
    rw [h] at posted
    exact posted.trans (.of_same rfl rfl rfl rfl)

/-! ## looking at windows -/

/-- A window that somebody asked about is looked at. -/
theorem leads_look (env : Environment) (b : Bridge) (i : Nat)
    (named : ∀ q ∈ b.inquiries, N q.id) : Leads N b (b.look env i) := by
  unfold look
  split
  · exact .refl b
  · next q found =>
    have looks (x : Application) : ∀ c ∈ [ToolkitCall.isVisible q.id], x.Allows N c := by
      simpa [Application.Allows] using named q (List.mem_of_getElem? found)
    have looked : Leads N b (b.callToolkit env q.application [.isVisible q.id]) :=
      b.leads_modifyApplication _ fun x _ => x.changed_recordUpToPanic _ (looks x)
    exact looked.trans (leads_answerInquiry _ i _)

/-- An inquiry on the main thread itself asks the toolkit about its own window. -/
theorem leads_lookInPlace (env : Environment) (b : Bridge) (a i : Nat) (id : Handle)
    (named : ∀ q ∈ b.inquiries, N q.id) : Leads N b (b.lookInPlace env a i id) := by
  unfold lookInPlace
  split
  · exact (b.leads_look env i named).trans ((edits_leaveJob _ a _).leads rfl)
  · exact b.leads_look env i named

/-- An inquiry after a window of the set, on the main thread or from another one. -/
theorem leads_inquire (env : Environment) (within : b.Within N) (a : Nat) (named : N id)
    (place : Option Nat) : Leads N b (b.inquire env a id place).1 := by
  let asked : Bridge := { b with inquiries := b.inquiries ++ [{ application := a, id }] }
  have known : ∀ q ∈ asked.inquiries, N q.id := by
    intro q mem
    obtain earlier | new := List.mem_append.1 mem
    · exact within.concerned _ (.inr ⟨q, earlier, rfl⟩)
    · rw [List.mem_singleton.1 new]
      exact named
  have begun : Leads N b asked :=
    { machines := fun _ x' found => ⟨x', found, .refl⟩
      applications := fun _ => .refl
      concerned := fun k concerns => by
        obtain watched | ⟨q, mem, rfl⟩ := concerns
        · exact .inl (.inl watched)
        · exact .inr (known q mem) }
  have posted : Leads N asked (asked.dispatch a (.inquire b.inquiries.length)).1 :=
    asked.leads_dispatch a fun _ none => by cases none
  unfold inquire
  dsimp only
  split
  · exact begun.trans (asked.leads_lookInPlace env a _ id known)
  · split
    · next h => rw [h] at posted; exact begun.trans posted
    · next h => rw [h] at posted; exact (begun.trans posted).trans (leads_answerInquiry _ _ _)

/-- The window of a machine is in the set. -/
theorem named_of_owned {machine : Machine} (owned : b.Owned N)
    (found : b.machines[m]? = some machine) (token : machine.window.token = some id) : N id :=
  owned m machine.skeleton id (skeleton?_of_found found) token

/-- The window of a machine that is open. -/
theorem named_of_openIn {machine : Machine} (owned : b.Owned N)
    (found : b.machines[m]? = some machine) (opened : machine.window.openIn? = some (a, id)) :
    N id := by
  refine named_of_owned owned found ?_
  unfold WindowState.openIn? at opened
  split at opened
  · next token =>
    cases opened
    exact token
  · cases opened

theorem leads_beginFront (env : Environment) (within : b.Within N) (owned : b.Owned N) (m : Nat)
    (place : Option Nat) : Leads N b (b.beginFront env m place).1 := by
  unfold beginFront
  split
  · exact .refl b
  · next machine admitted =>
    split
    · exact .refl b
    · next a id opened =>
      have named := named_of_openIn owned (admitted_eq_ok_iff.1 admitted).1 opened
      exact leads_inquire env within a named place

theorem leads_finishFront (within : b.Within N) (i : Nat) (v : Visibility) :
    Leads N b (b.finishFront i v).1 := by
  unfold finishFront
  split
  · next q found =>
    refine b.leads_dispatch _ fun id same => ?_
    cases same
    exact within.concerned _ (.inr ⟨q, List.mem_of_getElem? found, rfl⟩)
  · exact .refl b
  · exact .refl b

theorem leads_beginHasWindow (env : Environment) (within : b.Within N) (owned : b.Owned N)
    (m : Nat) (place : Option Nat) : Leads N b (b.beginHasWindow env m place).1 := by
  unfold beginHasWindow
  split
  · exact .refl b
  · next a id opened =>
    obtain ⟨machine, found, opened⟩ := Option.bind_eq_some_iff.1 opened
    exact leads_inquire env within a (named_of_openIn owned found opened) place

/-! ## requests -/

/-- A task that presents a window brings along a subscription to its machine. -/
theorem leads_present (b : Bridge) (m a : Nat) (named : N id) (spec : WindowSpec) :
    Leads N b (b.present m a id spec).1 := by
  have posted : Leads N b ((b.subscribeStates m).1.dispatch a
      (.present id spec m (b.subscribeStates m).2)).1 :=
    .trans ((b.edits_subscribeStates m).leads rfl) (leads_dispatch _ a fun k same => by
      cases same
      exact named)
  unfold present
  dsimp only
  split
  · next h =>
    rw [h] at posted
    exact posted
  · next c e h =>
    rw [h] at posted
    exact (posted.trans ((c.edits_dropStates m _).leads rfl)).trans
      (leads_modifyMachine _ m fun _ _ => .shuts)

/-- A request that is let pass opens the window and hands it over. -/
theorem leads_request {machine : Machine} (named : N id)
    (admitted : b.admitted m PlatformVersion.forStopAndGraphics = .ok machine) {c : Bridge}
    (machines : c.machines = b.machines) (same : Leads N b c) (a : Nat) (spec : WindowSpec) :
    Leads N b ((c.modifyMachine m fun x =>
      { x with window := x.window.opened id a spec }).present m a id spec).1 := by
  obtain ⟨found, admits⟩ := admitted_eq_ok_iff.1 admitted
  rw [← machines] at found
  exact (same.trans (leads_of_found found (.opens admits))).trans
    (leads_present _ m a named spec)

/-- A request for a window issues a token, which is in the set once the step is taken. -/
theorem leads_startGraphics (env : Environment) (m a : Nat) (width height : Float)
    (options : GraphicsOptions)
    (owned : (b.step env (.startGraphics m a width height options)).Owned N) :
    Leads N b (b.startGraphics m a width height options).1 := by
  cases admitted : b.admitted m PlatformVersion.forStopAndGraphics with
  | error e =>
    rw [startGraphics, admitted]
    exact .refl b
  | ok machine =>
    rw [step] at owned
    rw [startGraphics, admitted] at owned ⊢
    dsimp only at owned ⊢
    split at owned
    · next positive =>
      rw [if_pos positive]
      obtain ⟨isOpen, -, after⟩ := skeleton?_present admitted a (.ofOptions width height options)
      have named : N (b.windowToken m machine.window).2 := by
        rw [windowToken_eq]
        exact owned m _ _ after rfl
      have registered : (b.windowToken m machine.window).1.machines = b.machines ∧
          Leads N b (b.windowToken m machine.window).1 := by
        unfold windowToken
        split
        · exact ⟨rfl, .refl b⟩
        · exact ⟨rfl, .of_same rfl rfl rfl rfl⟩
      exact leads_request named admitted registered.1 registered.2 a _
    · next refused =>
      rw [if_neg refused]
      exact .refl b

theorem leads_showWindow (owned : b.Owned N) (m : Nat) : Leads N b (b.showWindow m).1 := by
  unfold showWindow
  split
  · exact .refl b
  · next machine admitted =>
    split
    · exact .refl b
    · next a id spec known =>
      have named := named_of_owned owned (admitted_eq_ok_iff.1 admitted).1
        (WindowState.reopening?_eq_some_iff.1 known).2.1
      exact leads_request named admitted rfl (.refl b) a spec

/-! ## machines that begin and end -/

theorem leads_finishCreate (b : Bridge) (m : Nat) (failure : Option BridgeError) :
    Leads N b (b.finishCreate m failure) := by
  unfold finishCreate
  split
  · exact .refl b
  · next machine found =>
    split
    · next creating =>
      split
      · exact leads_of_found found (.created creating)
      · let cleared : Bridge :=
          { b with registry := (b.registry.erase machine.stateToken).erase machine.disconnect.token }
        have erased : Leads N b cleared := .of_same rfl rfl rfl rfl
        exact erased.trans (leads_of_found (b := cleared) found (.failed creating))
    · exact .refl b

/-- A machine that is torn down has its window closed where it was shown last. -/
theorem leads_beginTeardown (owned : b.Owned N) (m : Nat) : Leads N b (b.beginTeardown m) := by
  unfold beginTeardown
  split
  · exact .refl b
  · next machine found =>
    split
    · next live =>
      have released : Leads N b (b.modifyMachine m fun x =>
          { x with phase := .releasing, window := {} }.record .release) :=
        leads_of_found found (.released (beq_iff_eq.1 live))
      dsimp only
      split
      · exact released
      · next id token =>
        split
        · refine (released.trans (leads_dispatch _ _ fun k same => ?_)).trans
            (.of_same rfl rfl rfl rfl)
          cases same
          exact named_of_owned owned found token
        · exact released.trans (.of_same rfl rfl rfl rfl)
    · exact .refl b

theorem leads_finishTeardown (b : Bridge) (m : Nat) : Leads N b (b.finishTeardown m) := by
  unfold finishTeardown
  split
  · exact .refl b
  · next machine found =>
    split
    · next releasing =>
      let cleared : Bridge :=
        { b with registry := (b.registry.erase machine.disconnect.token).erase machine.stateToken }
      have erased : Leads N b cleared := .of_same rfl rfl rfl rfl
      exact erased.trans (leads_of_found (b := cleared) found (.finished releasing))
    · exact .refl b

/-- The windows of machines are those of their skeletons. -/
theorem owned_of_skeletons (owned : b.Owned N) (same : b'.skeleton? = b.skeleton?) :
    b'.Owned N := fun m s id found token => owned m s id (same ▸ found) token

/-- The last reference that is dropped tears the machine down, and others do nothing. -/
theorem leads_dropReference (owned : b.Owned N) (m : Nat) : Leads N b (b.dropReference m) := by
  unfold dropReference
  split
  · exact .refl b
  · let dropped := b.modifyMachine m fun x => { x with references := x.references - 1 }
    have counted : Leads N b dropped := b.leads_modifyMachine m fun _ _ => .counted
    have quiet : Quiet b dropped := b.quiet_modifyMachine m fun _ => rfl
    dsimp only
    split
    · exact counted.trans (leads_beginTeardown (owned_of_skeletons owned quiet.skeletons) m)
    · exact counted

/-! ## the main thread -/

/-- The user closes a window that the application has, or nothing happens. -/
theorem leads_userClosed (b : Bridge) (a : Nat) (id : Handle) :
    Leads N b (b.userClosed a id) := by
  unfold userClosed
  split
  · exact .refl b
  · next w holds =>
    obtain ⟨x, found, held⟩ := Option.bind_eq_some_iff.1 holds
    let removed := (b.removeController a id w).modifyApplication a fun x =>
      { x with history := x.history ++ [.closedByUser id] }
    have left : Leads N b removed := by
      refine .of_change (a := a) rfl (watchers_modifyWatcher fun _ => rfl) rfl
        (b.getElem?_modifyApplication_twice a · (·.eraseController id) _) fun y known => ?_
      cases found.symm.trans known
      exact .single (.closedByUser held)
    have stopping (m : Nat) : Leads N removed (removed.beginStop m) :=
      (removed.edits_beginStop m).leads rfl
    dsimp only
    split
    · exact (left.trans (stopping _)).trans (leads_receive _ _)
    · exact left.trans (leads_receive _ _)

/-- A window is created, or shown again if the application has it. -/
theorem leads_runPresent (env : Environment) (b : Bridge) (a : Nat) (named : N id)
    (spec : WindowSpec) (m i : Nat) : Leads N b (b.runPresent env a id spec m i) := by
  unfold runPresent
  split
  · next w holds =>
    have shown : Leads N b (b.callToolkit env a [.show id, .bringToFront id]) := by
      refine b.leads_modifyApplication a fun x found => x.changed_recordUpToPanic _ ?_
      rw [found] at holds
      have held : x.watcher? id = some w := holds
      simp [Application.Allows, held, named]
    exact shown.trans ((edits_dropStates _ m i).leads rfl)
  · next absent =>
    refine .of_change (a := a) rfl (fun v mem => ?_) rfl
      (b.getElem?_modifyApplication_twice a · (·.insertController id b.watchers.length) _)
      fun x found => ?_
    · obtain earlier | new := List.mem_append.1 mem
      · exact .inr ⟨v, earlier, rfl⟩
      · rw [List.mem_singleton.1 new]
        exact .inl named
    · rw [found] at absent
      exact Application.changed_creates _ absent named _ spec

/-- A window is closed with its controller. -/
theorem leads_close (env : Environment) {x : Application} {w : Nat}
    (found : b.applications[a]? = some x) (held : x.watcher? id = some w) :
    Leads N b ((b.removeController a id w).callToolkit env a [.close id]) := by
  refine .of_change (a := a) rfl (watchers_modifyWatcher fun _ => rfl) rfl
    (b.getElem?_modifyApplication_twice a · (·.eraseController id) _) fun y known => ?_
  cases found.symm.trans known
  exact Application.changed_closes _ held

/-- A window is closed at teardown, if the application has it. -/
theorem leads_runForget (env : Environment) (b : Bridge) (a : Nat) (id : Handle) :
    Leads N b (b.runForget env a id) := by
  unfold runForget
  split
  · exact .refl b
  · next w holds =>
    obtain ⟨x, found, held⟩ := Option.bind_eq_some_iff.1 holds
    exact leads_close env found held

/-- A window is closed for a watcher, if it still is this watcher's. -/
theorem leads_runCloseForStop (env : Environment) (b : Bridge) (a : Nat) (id : Handle) (w : Nat) :
    Leads N b (b.runCloseForStop env a id w) := by
  unfold runCloseForStop
  split
  · next holds =>
    obtain ⟨x, found, held⟩ := Option.bind_eq_some_iff.1 holds
    dsimp only
    split
    · exact leads_close env found held
    · exact (leads_close env found held).trans (leads_receive _ _)
  · exact .refl b

/-- A task does what its kind of task does to the window it names. -/
theorem leads_runTask (env : Environment) (within : b.Within N) (a : Nat) {t : MainTask}
    (named : ∀ id, t.window? = some id → N id) : Leads N b (b.runTask env a t) := by
  cases t with
  | present id spec m i => exact b.leads_runPresent env a (named id rfl) spec m i
  | bringToFront id =>
    refine b.leads_modifyApplication a fun x _ => x.changed_recordUpToPanic _ ?_
    simpa [Application.Allows] using named id rfl
  | inquire i => exact b.leads_look env i fun q mem => within.concerned _ (.inr ⟨q, mem, rfl⟩)
  | forget id => exact b.leads_runForget env a id
  | closeForStop id w => exact b.leads_runCloseForStop env a id w
  | host j => exact (b.edits_runTask env a (.host j)).leads rfl

/-- A main loop takes a task, which names a window of the set, or ends. -/
theorem leads_mainTurn (env : Environment) (within : b.Within N) (a : Nat) :
    Leads N b (b.mainTurn env a) := by
  have taken : Leads N b (b.dequeue a) := (b.edits_dequeue a).leads rfl
  have turned := b.turnStep_mainTurn env a
  generalize b.mainTurn env a = b' at turned ⊢
  cases turned with
  | waits _ => exact .refl b
  | @runs x t rest _ there task =>
    refine taken.trans (leads_runTask env (taken.within within) a fun id same => ?_)
    have named := (within.applications a).tasks t
    rw [application_of_found there, Application.tasks_of_messages task] at named
    exact named List.mem_cons_self id same
  | ends _ _ _ _ => exact taken.trans (leads_discardTasks _ _)

/-! ## threads of the bridge -/

/-- A watcher hands over a task about its own window, or ends. -/
theorem leads_watch (within : b.Within N) (w : Nat) : Leads N b (b.watch w) := by
  have received (m i : Nat) : Leads N b (b.receiveState m i).1 :=
    (b.edits_receiveState m i).leads rfl
  have ended (c : Bridge) (watcher : Watcher) : Leads N c (c.endWatcher w watcher) :=
    (c.edits_endWatcher w watcher).leads rfl
  have turned := b.watchStep_watch w
  generalize b.watch w = b' at turned ⊢
  cases turned with
  | waits _ => exact .refl b
  | passes _ _ _ _ _ => exact received _ _
  | stops found _ _ _ _ =>
    refine ((received _ _).trans (leads_dispatch _ _ fun id same => ?_)).trans (ended _ _)
    cases same
    exact within.concerned _ (.inl ⟨_, List.mem_of_getElem? found, rfl⟩)
  | ends _ _ _ _ => exact (received _ _).trans (ended _ _)
  | closed _ _ _ => exact ended b _

theorem leads_endStop (owned : b.Owned N) (s m : Nat) : Leads N b (b.endStop s m) := by
  have kept : (b.setStage s .ended).Owned N := owned
  exact .trans ((b.edits_setStage s .ended).leads rfl) (leads_dropReference kept m)

/-- A background stop tells one runtime, and may drop the last reference to the machine. -/
theorem leads_stop (env : Environment) (owned : b.Owned N) (s : Nat) :
    Leads N b (b.stop env s) := by
  have staged (c : Bridge) (stage : StopStage) : Leads N c (c.setStage s stage) :=
    (c.edits_setStage s stage).leads rfl
  have turned := b.stopTurn_stop env s
  generalize b.stop env s = b' at turned ⊢
  cases turned with
  | waits => exact .refl b
  | asks m => exact (b.leads_ask env m .canStop).trans (staged _ _)
  | begins _ _ => exact (b.leads_beginControl _ .stop).trans (staged _ _)
  | ends m => exact leads_endStop owned s m
  | givesUp m =>
    have kept := owned_of_skeletons owned ((b.edits_ask env m .canStop).quiet rfl).skeletons
    exact (b.leads_ask env m .canStop).trans (leads_endStop kept s m)

/-! ## every step -/

/-- A step changes machines and applications only as they can change, unless it begins to
create a machine.  The set has to hold the windows of the machines before and after it. -/
theorem leads_step (env : Environment) (within : b.Within N) (owned : b.Owned N) {act : Action}
    (owned' : (b.step env act).Owned N) (create : ∀ platform c, act ≠ .beginCreate platform c) :
    Leads N b (b.step env act) := by
  by_cases apart : Part.apart act.parts Part.ofChanges = true
  · exact (b.edits_step env act).leads apart
  cases act with
  | beginCreate platform c => exact absurd rfl (create platform c)
  | finishCreate m failure => exact b.leads_finishCreate m failure
  | dropReference m => exact leads_dropReference owned m
  | finalize m => exact leads_beginTeardown owned m
  | finishTeardown m => exact b.leads_finishTeardown m
  | control m op => exact b.leads_beginControl m op
  | requestStop m => exact b.leads_requestStop env m
  | ask m q => exact b.leads_ask env m q
  | subscribeDisconnects m => exact b.leads_subscribeDisconnects m
  | receiveDisconnect m i =>
    rw [step, receiveDisconnect_eq]
    exact b.leads_use m (u := .receive i) (by simp) (by simp)
  | dropDisconnects m i => exact b.leads_use m (u := .drop i) (by simp) (by simp)
  | startGraphics m a width height options =>
    exact leads_startGraphics env m a width height options owned'
  | showWindow m => exact leads_showWindow owned m
  | beginFront m place => exact leads_beginFront env within owned m place
  | finishFront i =>
    rw [step]
    split
    · exact leads_finishFront within i _
    · exact .refl b
  | beginHasWindow m place => exact leads_beginHasWindow env within owned m place
  | userClosed a id => exact b.leads_userClosed a id
  | receive e => exact b.leads_receive e
  | postJob a => exact b.leads_postJob a
  | mainTurn a => exact leads_mainTurn env within a
  | watch w => exact leads_watch within w
  | work m => exact b.leads_use m (u := .work) (by simp) (by simp)
  | stop s => exact leads_stop env owned s
  | _ => exact absurd rfl apart

/-! ## every run -/

/-- A machine that begins to be created passed the checks. -/
theorem machine_of_beginCreate {platform : PlatformVersion} {c : MachineConfiguration}
    {x' : Machine} (found : (b.beginCreate platform c).1.machines[m]? = some x') :
    b.machines[m]? = some x' ∨
      platform.isAtLeast PlatformVersion.forMachines = true ∧ c.validate = .ok () ∧
        ∃ state disconnect, x' = .begun platform c state disconnect := by
  unfold beginCreate at found
  split at found
  · exact .inl found
  · next allowed =>
    split at found
    · exact .inl found
    · next valid =>
      refine (Nat.lt_or_ge m b.machines.length).imp (fun lt => ?_) fun ge => ?_
      · rwa [List.getElem?_append_left lt] at found
      · rw [List.getElem?_append_right ge] at found
        have new := List.mem_singleton.1 (List.mem_of_getElem? found)
        exact ⟨PlatformVersion.require_eq_ok_iff.1 allowed, valid, _, _, new⟩

/-- The creation of a machine is nothing to the others, nor to the applications. -/
theorem leads_beginCreate_rest (b : Bridge) (platform : PlatformVersion)
    (c : MachineConfiguration) :
    Leads N b { (b.beginCreate platform c).1 with machines := b.machines } := by
  unfold beginCreate
  split
  · exact .refl b
  · split
    · exact .refl b
    · exact .of_same rfl rfl rfl rfl

/-- Every step makes the listed changes, or begins to create a machine. -/
theorem leads_or_creates (env : Environment) (act : Action) (within : b.Within N)
    (owned : b.Owned N) (owned' : (b.step env act).Owned N) :
    Leads N b (b.step env act) ∨ ∃ platform c, act = .beginCreate platform c := by
  by_cases create : ∃ platform c, act = .beginCreate platform c
  · exact .inr create
  · exact .inl (leads_step env within owned owned' fun platform c same =>
      create ⟨platform, c, same⟩)

/-- What a step does to an application. -/
theorem changed_step (env : Environment) (within : b.Within N) (owned : b.Owned N) {act : Action}
    (owned' : (b.step env act).Owned N) (a : Nat) :
    ReflTransGen (Application.Change N) (b.application a) ((b.step env act).application a) := by
  obtain leads | ⟨platform, c, rfl⟩ := leads_or_creates env act within owned owned'
  · exact leads.applications a
  · exact (b.leads_beginCreate_rest platform c).applications a

/-- A bridge refers to windows of the set only if it did, and its machines' are in it. -/
theorem Within.step (within : b.Within N) (env : Environment) (owned : b.Owned N) {act : Action}
    (owned' : (b.step env act).Owned N) : (b.step env act).Within N := by
  obtain leads | ⟨platform, c, rfl⟩ := leads_or_creates env act within owned owned'
  · exact leads.within within
  · have rest := (b.leads_beginCreate_rest platform c).within within
    exact ⟨rest.applications, rest.concerned⟩

/-- The set of all windows will do for what is not about windows. -/
theorem within_all (b : Bridge) : b.Within fun _ => True where
  applications _ := ⟨fun _ _ _ _ => trivial, fun _ _ => trivial, fun _ _ => trivial⟩
  concerned _ _ := trivial

/-- Without a restriction on windows, all are in the set. -/
theorem owned_all (b : Bridge) : b.Owned fun _ => True := fun _ _ _ _ _ => trivial

/-- What a step does to a machine. -/
theorem machine_step (env : Environment) (act : Action) {x' : Machine}
    (found : (b.step env act).machines[m]? = some x') :
    (∃ x, b.machines[m]? = some x ∧ ReflTransGen Machine.Change x x') ∨
      ∃ platform c state disconnect, platform.isAtLeast PlatformVersion.forMachines = true ∧
        c.validate = .ok () ∧ x' = .begun platform c state disconnect := by
  obtain leads | ⟨platform, c, rfl⟩ :=
    leads_or_creates env act b.within_all b.owned_all (owned_all _)
  · exact .inl (leads.machines m x' found)
  · obtain known | ⟨allowed, valid, state, disconnect, new⟩ := machine_of_beginCreate found
    · exact .inl ⟨x', known, .refl⟩
    · exact .inr ⟨platform, c, state, disconnect, allowed, valid, new⟩

/-- What holds of every machine in the beginning and is kept by every change holds after
every run. -/
theorem machine_run {P : Machine → Prop}
    (begun : ∀ platform c state disconnect,
      platform.isAtLeast PlatformVersion.forMachines = true → c.validate = .ok () →
        P (.begun platform c state disconnect))
    (change : ∀ x x', Machine.Change x x' → P x → P x') {actions : List (Environment × Action)}
    {x : Machine} (found : (({} : Bridge).run actions).machines[m]? = some x) : P x := by
  induction actions using List.reverseRecOn generalizing x with
  | nil => simp [run] at found
  | append_singleton before s ih =>
    rw [run_append] at found
    obtain ⟨x₀, found₀, changed⟩ | ⟨platform, c, state, disconnect, allowed, valid, rfl⟩ :=
      machine_step s.1 s.2 found
    · have earlier := ih found₀
      clear found
      induction changed with
      | refl => exact earlier
      | tail _ last ih => exact change _ _ last ih
    · exact begun platform c state disconnect allowed valid

/-- What holds of every application in the beginning and is kept by every change holds after
every run. -/
theorem application_changed_run {P : Application → Prop} (fresh : P {})
    (change : ∀ x x', Application.Change (fun _ => True) x x' → P x → P x')
    (actions : List (Environment × Action)) (a : Nat) :
    P ((({} : Bridge).run actions).application a) := by
  induction actions using List.reverseRecOn with
  | nil => exact fresh
  | append_singleton before s ih =>
    have changed : ReflTransGen (Application.Change fun _ => True)
        ((({} : Bridge).run before).application a)
        (((({} : Bridge).run before).step s.1 s.2).application a) :=
      changed_step s.1 (within_all _) (owned_all _) (owned_all _) a
    rw [run_append]
    show P (((({} : Bridge).run before).step s.1 s.2).application a)
    generalize ((({} : Bridge).run before).step s.1 s.2).application a = x' at changed ⊢
    induction changed with
    | refl => exact ih
    | tail _ last ih => exact change _ _ last ih

/-- A run refers to no windows but those of the machines that there were. -/
theorem within_run {actions : List (Environment × Action)}
    (owned : ∀ part, part <+: actions → (({} : Bridge).run part).Owned N) :
    (({} : Bridge).run actions).Within N := by
  induction actions using List.reverseRecOn with
  | nil =>
    refine ⟨fun a => ?_, fun id concerns => ?_⟩
    · exact Application.within_empty
    · simp [run, Concerns] at concerns
  | append_singleton before s ih =>
    have earlier : ∀ part, part <+: before → part <+: before ++ [s] := fun part within =>
      within.trans (List.prefix_append before [s])
    have owned' := owned _ List.prefix_rfl
    rw [run_append] at owned' ⊢
    exact (ih fun part within => owned part (earlier part within)).step s.1
      (owned before (List.prefix_append before [s])) owned'

end Bridge

end MachineBridge
