import MachineBridge.Proofs.Frame

/-!
# MachineBridge.Proofs.Step

What one step of the bridge does to the registry, the calls and the skeletons of
the machines.  `TokenStep` lists what it can do; everything else in a step is quiet,
and `stepsTo_step` says so:

* a machine begins or ends, and its tokens with it;
* a call begins, or its completion fires;
* a window is requested, or its closing is reported;
* a caller registers or releases a token of its own.

An invariant over runs is then proved with one case for each of these, and not with
one for each action.
-/

namespace MachineBridge.Bridge

/-! ## windows -/

/-- An action asks for the window of a machine, in an application and of a
description.  Showing it again takes both from the window as it is. -/
inductive Requests (m : Nat) (w : WindowState) (a : Nat) (spec : WindowSpec) : Action → Prop
  | start {width height : Float} {options : GraphicsOptions}
      (positive : WindowSpec.isPositiveSize width height = true)
      (same : spec = .ofOptions width height options) :
      Requests m w a spec (.startGraphics m a width height options)
  | again {id : Handle} (known : w.reopening? = some (a, id, spec)) :
      Requests m w a spec (.showWindow m)

/-- An action closes a window: the runtime reports it, the user closes a window that the
application has, or the window of a stopped machine is closed on the main thread. -/
inductive ClosesWindow (b : Bridge) (id : Handle) : Action → Prop
  | reported : ClosesWindow b id (.receive (.windowClosed id))
  | byUser {a w : Nat} {x : Application} (found : b.applications[a]? = some x)
      (held : x.watcher? id = some w) : ClosesWindow b id (.userClosed a id)
  | forStop {a w : Nat} {x : Application} {rest : List (Message MainTask)}
      (turns : b.canTurn a = true) (found : b.applications[a]? = some x)
      (task : x.queue.messages = .run (.closeForStop id w) :: rest)
      (held : x.watcher? id = some w) : ClosesWindow b id (.mainTurn a)

def Accepting (b : Bridge) (a : Nat) : Prop :=
  ∃ x, b.applications[a]? = some x ∧ x.queue.isOpen = true

/-! ## the steps -/

/-- What an action that is taken in a bridge does to tokens and windows, up to quiet changes
before and after it. -/
inductive TokenStep (origin b : Bridge) : Action → Bridge → Prop
  | quiet {act : Action} : TokenStep origin b act b
  | beginCreate {platform : PlatformVersion} {configuration : MachineConfiguration} :
      TokenStep origin b (.beginCreate platform configuration)
        (b.beginCreate platform configuration).1
  | finishCreate {m : Nat} {failure : Option BridgeError} :
      TokenStep origin b (.finishCreate m failure) (b.finishCreate m failure)
  | beginTeardown {act : Action} {m : Nat}
      (cause : act = .finalize m ∨ act = .dropReference m ∨ ∃ s, act = .stop s) :
      TokenStep origin b act (b.beginTeardown m)
  | finishTeardown {m : Nat} : TokenStep origin b (.finishTeardown m) (b.finishTeardown m)
  | beginControl {act : Action} {m : Nat} {op : Operation}
      (cause : act = .control m op ∨ ∃ s, act = .stop s) :
      TokenStep origin b act (b.beginControl m op).1
  | complete {token : Handle} {error : Option ForeignError} :
      TokenStep origin b (.receive (.completion token error))
        (b.receive (.completion token error)).1
  | openWindow {act : Action} {m a : Nat} {machine : Machine} {spec : WindowSpec}
      (admitted : b.admitted m PlatformVersion.forStopAndGraphics = .ok machine)
      (requests : Requests m machine.window a spec act) (accepting : origin.Accepting a) :
      TokenStep origin b act (b.openWindow m machine.window a spec)
  | refuseWindow {act : Action} {m a : Nat} {machine : Machine} {spec : WindowSpec}
      (admitted : b.admitted m PlatformVersion.forStopAndGraphics = .ok machine)
      (requests : Requests m machine.window a spec act) (refusing : ¬origin.Accepting a) :
      TokenStep origin b act ((b.openWindow m machine.window a spec).closeWindow m)
  | closeWindow {act : Action} {id : Handle} {m : Nat}
      (named : b.registry.get? id = some (.windowBinding m)) (closes : ClosesWindow origin id act) :
      TokenStep origin b act (b.closeWindow m)
  | registerNumber {n : Int32} : TokenStep origin b (.registerNumber n) (b.registerNumber n).1
  | releaseToken {h : Handle} : TokenStep origin b (.releaseToken h) (b.releaseToken h).1

/-- `b'` comes from `b` by a `TokenStep` between quiet changes. -/
def StepsTo (origin b : Bridge) (act : Action) (b' : Bridge) : Prop :=
  ∃ before after, Quiet b before ∧ TokenStep origin before act after ∧ Quiet after b'

variable {origin : Bridge}

/-- A quiet change. -/
theorem StepsTo.of_quiet {b b' : Bridge} {act : Action} (h : Quiet b b') :
    StepsTo origin b act b' :=
  ⟨b, b, .refl b, .quiet, h⟩

/-- A single `TokenStep`. -/
theorem StepsTo.of_step {b b' : Bridge} {act : Action} (h : TokenStep origin b act b') :
    StepsTo origin b act b' :=
  ⟨b, b', .refl b, h, .refl b'⟩

/-- Quiet changes before and after do not matter. -/
theorem StepsTo.between {b₁ b₂ b₃ b₄ : Bridge} {act : Action} (before : Quiet b₁ b₂)
    (step : StepsTo origin b₂ act b₃) (after : Quiet b₃ b₄) : StepsTo origin b₁ act b₄ := by
  obtain ⟨c, c', hc, h, hc'⟩ := step
  exact ⟨c, c', before.trans hc, h, hc'.trans after⟩

/-! ## reports of the runtime -/

/-- The report of a closed window closes the window its token names, if any. -/
theorem receive_windowClosed (b : Bridge) (id : Handle) :
    (b.receive (.windowClosed id)).1 = b ∨
      ∃ m, b.registry.get? id = some (.windowBinding m) ∧
        (b.receive (.windowClosed id)).1 = b.closeWindow m := by
  unfold receive
  split
  · exact .inl rfl
  · split
    · exact .inl rfl
    · next v resolved =>
      obtain ⟨named, kind⟩ := Registry.resolve_eq_ok_iff.1 resolved
      cases v <;> simp only [Value.kind, Callback.kind, reduceCtorEq] at kind
      exact .inr ⟨_, named, rfl⟩

/-- The first completion of a call that waits is delivered, and any other is refused. -/
theorem receive_completion_cases (b : Bridge) (token : Handle) (error : Option ForeignError) :
    ((b.receive (.completion token error)).1 = b ∧
        ∃ e, (b.receive (.completion token error)).2 = .error e) ∨
      ∃ n, b.registry.get? token = some (.completion n) ∧
        b.receive (.completion token error) =
          ({ b with registry := b.registry.erase token }.decideCall n (.fired error), .ok ()) := by
  unfold receive
  rw [if_neg (by simp)]
  split
  · exact .inl ⟨rfl, _, rfl⟩
  · next v resolved =>
    obtain ⟨named, kind⟩ := Registry.resolve_eq_ok_iff.1 resolved
    cases v <;> simp only [Value.kind, Callback.kind, reduceCtorEq] at kind
    simp only [deliver, Value.owner]
    split
    · exact .inl ⟨rfl, _, rfl⟩
    · exact .inr ⟨_, named, rfl⟩

/-- A report that a window was closed marks the window of one machine. -/
theorem stepsTo_receive_windowClosed (b : Bridge) {act : Action} {id : Handle}
    (closes : ClosesWindow origin id act) :
    StepsTo origin b act (b.receive (.windowClosed id)).1 := by
  obtain h | ⟨m, named, h⟩ := b.receive_windowClosed id
  · rw [h]; exact .of_quiet (.refl b)
  · rw [h]; exact .of_step (.closeWindow named closes)

/-- A report steps as its kind does. -/
theorem stepsTo_receive (b : Bridge) (e : Callback) :
    StepsTo b b (.receive e) (b.receive e).1 := by
  have edited := b.edits_receive e
  cases e with
  | completion token error => exact .of_step .complete
  | windowClosed id => exact stepsTo_receive_windowClosed b .reported
  | stateChanged token code => exact .of_quiet (edited.quiet rfl)
  | disconnected token index error => exact .of_quiet (edited.quiet rfl)
  | disconnectsEnded token => exact .of_quiet (edited.quiet rfl)

/-! ## window requests -/

/-- A request is handed over to an application that accepts it, and to no other; then the
window is marked closed again. -/
theorem quiet_present (b : Bridge) (m a : Nat) (id : Handle) (spec : WindowSpec) :
    b.Accepting a ∧ Quiet b (b.present m a id spec).1 ∨
      ¬b.Accepting a ∧ Quiet (b.closeWindow m) (b.present m a id spec).1 := by
  have subscribed := (b.edits_subscribeStates m).quiet rfl
  have same : (b.subscribeStates m).1.Accepting a ↔ b.Accepting a := by
    rw [Accepting, applications_subscribeStates]
    rfl
  have posted := ((b.subscribeStates m).1.edits_dispatch a
    (.present id spec m (b.subscribeStates m).2)).quiet rfl
  unfold present
  dsimp only
  obtain ⟨x, found, accepts, h⟩ | ⟨refuses, e, h⟩ :=
    (b.subscribeStates m).1.dispatch_cases a (.present id spec m (b.subscribeStates m).2)
  · rw [h] at posted ⊢
    exact .inl ⟨same.1 ⟨x, found, accepts⟩, subscribed.trans posted⟩
  · rw [h]
    refine .inr ⟨fun ⟨x, found, accepts⟩ => ?_, ?_⟩
    · rw [← applications_subscribeStates b m] at found
      rw [refuses x found] at accepts
      contradiction
    · exact (subscribed.trans ((edits_dropStates _ m _).quiet rfl)).modifyMachine m
        (g := fun s => { s with window := s.window.closed }) fun _ => rfl

/-- A request that is let pass opens the window, and closes it again when it cannot be
handed over. -/
theorem stepsTo_present {b : Bridge} {act : Action} {m a : Nat} {machine : Machine}
    {spec : WindowSpec} (admitted : b.admitted m PlatformVersion.forStopAndGraphics = .ok machine)
    (requests : Requests m machine.window a spec act) (id : Handle) :
    StepsTo b b act ((b.openWindow m machine.window a spec).present m a id spec).1 := by
  have same : (b.openWindow m machine.window a spec).Accepting a ↔ b.Accepting a := by
    rw [Accepting, applications_openWindow]
    rfl
  obtain ⟨accepting, h⟩ | ⟨refusing, h⟩ :=
    quiet_present (b.openWindow m machine.window a spec) m a id spec
  · exact .between (.refl b) (.of_step (.openWindow admitted requests (same.1 accepting))) h
  · exact .between (.refl b)
      (.of_step (.refuseWindow admitted requests fun accepting => refusing (same.2 accepting))) h

/-- A start opens a window, or is refused, or finds no main loop. -/
theorem stepsTo_startGraphics (b : Bridge) (m a : Nat) (width height : Float)
    (options : GraphicsOptions) :
    StepsTo b b (.startGraphics m a width height options)
      (b.startGraphics m a width height options).1 := by
  unfold startGraphics
  split
  · exact .of_quiet (.refl b)
  · next machine admitted =>
    split
    · next positive => exact stepsTo_present admitted (.start positive rfl) _
    · exact .of_quiet (.refl b)

/-- A window that can be shown again has its token. -/
theorem windowToken_of_reopening {b : Bridge} {w : WindowState} {a : Nat} {id : Handle}
    {spec : WindowSpec} (m : Nat) (h : w.reopening? = some (a, id, spec)) :
    b.windowToken m w = (b, id) := by
  rw [windowToken, (WindowState.reopening?_eq_some_iff.1 h).2.1]

/-- A window is opened again, or that is refused. -/
theorem stepsTo_showWindow (b : Bridge) (m : Nat) :
    StepsTo b b (.showWindow m) (b.showWindow m).1 := by
  unfold showWindow
  split
  · exact .of_quiet (.refl b)
  · next machine admitted =>
    split
    · exact .of_quiet (.refl b)
    · next a id spec known =>
      have steps := stepsTo_present admitted (.again known) id
      rw [openWindow, windowToken_of_reopening m known] at steps
      exact steps

/-! ## closing on the main thread -/

theorem stepsTo_userClosed (b : Bridge) (a : Nat) (id : Handle) :
    StepsTo b b (.userClosed a id) (b.userClosed a id) := by
  unfold userClosed
  split
  · exact .of_quiet (.refl b)
  · next w holds =>
    obtain ⟨x, found, held⟩ := Option.bind_eq_some_iff.1 holds
    dsimp only
    let removed := (b.removeController a id w).modifyApplication a fun x =>
      { x with history := x.history ++ [.closedByUser id] }
    have quiet : Quiet b removed :=
      ((b.edits_removeController a id w).quiet rfl).trans (quiet_modifyApplication _ a _)
    split
    · exact .between (quiet.trans ((removed.edits_beginStop _).quiet rfl))
        (stepsTo_receive_windowClosed _ (.byUser found held)) (.refl _)
    · exact .between quiet (stepsTo_receive_windowClosed _ (.byUser found held)) (.refl _)

/-- A task of the main thread closes a window only if it is the task for a stopped machine. -/
theorem stepsTo_runTask (env : Environment) (b : Bridge) {act : Action} {a : Nat} {t : MainTask}
    (closes : ∀ id w, t = .closeForStop id w →
      (b.applications[a]?).bind (·.watcher? id) = some w → ClosesWindow origin id act) :
    StepsTo origin b act (b.runTask env a t) := by
  have edited := b.edits_runTask env a t
  cases t with
  | closeForStop id w =>
    rw [runTask, runCloseForStop]
    split
    · next held =>
      have quiet := (b.edits_close env a id w).quiet rfl
      dsimp only
      split
      · exact .of_quiet quiet
      · exact .between quiet (stepsTo_receive_windowClosed _ (closes id w rfl held)) (.refl _)
    · exact .of_quiet (.refl b)
  | _ => exact .of_quiet (edited.quiet rfl)

/-- A task of the main thread may report that a window was closed. -/
theorem stepsTo_mainTurn (env : Environment) (b : Bridge) (a : Nat) :
    StepsTo b b (.mainTurn a) (b.mainTurn env a) := by
  have taken := (b.edits_dequeue a).quiet rfl
  have turned := b.turnStep_mainTurn env a
  generalize b.mainTurn env a = b' at turned ⊢
  cases turned with
  | waits _ => exact .of_quiet (.refl b)
  | runs ready there task =>
    refine .between taken (stepsTo_runTask env _ fun id w closing held => ?_) (.refl _)
    rw [dequeue, getElem?_modifyApplication, if_pos rfl, there] at held
    rw [closing] at task
    exact .forStop ready there task held
  | ends _ _ _ _ => exact .of_quiet (taken.trans ((edits_discardTasks _ _).quiet rfl))

/-! ## references and background stops -/

/-- `b'` comes from `b` by the teardown of a machine, after changes that are quiet and leave
the applications alone. -/
def TearsDown (b : Bridge) (m : Nat) (b' : Bridge) : Prop :=
  ∃ c, Quiet b c ∧ c.applications = b.applications ∧ b' = c.beginTeardown m

/-- A teardown is a step of the tokens, whatever caused it. -/
theorem TearsDown.stepsTo {b b' : Bridge} {act : Action} {m : Nat} (h : TearsDown b m b')
    (cause : act = .finalize m ∨ act = .dropReference m ∨ ∃ s, act = .stop s) :
    StepsTo origin b act b' := by
  obtain ⟨c, quiet, -, rfl⟩ := h
  exact .between quiet (.of_step (.beginTeardown cause)) (.refl _)

/-- Dropping the last reference tears the machine down. -/
theorem dropReference_cases (b : Bridge) (m : Nat) :
    (Quiet b (b.dropReference m) ∧ (b.dropReference m).applications = b.applications) ∨
      TearsDown b m (b.dropReference m) := by
  unfold dropReference
  split
  · exact .inl ⟨.refl b, rfl⟩
  · have quiet : Quiet b (b.modifyMachine m fun x => { x with references := x.references - 1 }) :=
      b.quiet_modifyMachine m fun _ => rfl
    dsimp only
    split
    · exact .inr ⟨_, quiet, rfl, rfl⟩
    · exact .inl ⟨quiet, rfl⟩

/-- What a step of a background stop does: it asks or waits, it ends, which can tear its
machine down, or it begins a call and waits for it. -/
inductive StopStep (b : Bridge) (s : Nat) : Bridge → Prop
  | quiet {b' : Bridge} (quiet : Quiet b b') (same : b'.applications = b.applications) :
      StopStep b s b'
  | tearsDown {b' : Bridge} {m : Nat} (h : TearsDown b m b') : StopStep b s b'
  | begun {m call : Nat} (begun : (b.beginControl m .stop).2 = .ok call)
      (waits : ((b.beginControl m .stop).1.setStage s (.waiting call)).stops[s]? =
        some { machine := m, stage := .waiting call }) :
      StopStep b s ((b.beginControl m .stop).1.setStage s (.waiting call))

theorem stopStep_endStop {b c : Bridge} (quiet : Quiet b c)
    (same : c.applications = b.applications) (s m : Nat) : StopStep b s (c.endStop s m) := by
  have staged := quiet.trans ((c.edits_setStage s .ended).quiet rfl)
  obtain ⟨dropped, same'⟩ | ⟨d, dropped, same', after⟩ :=
    (c.setStage s .ended).dropReference_cases m
  · exact .quiet (staged.trans dropped) (same'.trans same)
  · exact .tearsDown ⟨d, staged.trans dropped, same'.trans same, after⟩

/-- A turn of a background stop makes a call, drops a reference or waits. -/
theorem stopStep_stop (env : Environment) (b : Bridge) (s : Nat) :
    StopStep b s (b.stop env s) := by
  have asked (m : Nat) := b.edits_ask env m .canStop
  have turned := b.stopTurn_stop env s
  generalize b.stop env s = b' at turned ⊢
  cases turned with
  | waits => exact .quiet (.refl b) rfl
  | asks m =>
    exact .quiet (((asked m).quiet rfl).trans ((edits_setStage _ s _).quiet rfl))
      ((asked m).applications_eq rfl)
  | @begins m call found begun =>
    refine .begun begun ?_
    have stops : (b.beginControl m .stop).1.stops = b.stops := by
      rw [beginControl]
      split <;> rfl
    rw [setStage, stops, List.getElem?_modify_eq, found]
    rfl
  | ends m => exact stopStep_endStop (.refl b) rfl s m
  | givesUp m =>
    exact stopStep_endStop ((asked m).quiet rfl) ((asked m).applications_eq rfl) s m

theorem stepsTo_dropReference (b : Bridge) (m : Nat) :
    StepsTo origin b (.dropReference m) (b.dropReference m) := by
  obtain ⟨quiet, -⟩ | tears := b.dropReference_cases m
  · exact .of_quiet quiet
  · exact tears.stepsTo (.inr (.inl rfl))

theorem stepsTo_stop (env : Environment) (b : Bridge) (s : Nat) :
    StepsTo b b (.stop s) (b.stop env s) := by
  have stopped := b.stopStep_stop env s
  generalize b.stop env s = b' at stopped ⊢
  cases stopped with
  | quiet quiet _ => exact .of_quiet quiet
  | tearsDown tears => exact tears.stepsTo (.inr (.inr ⟨s, rfl⟩))
  | begun _ _ =>
    exact .between (.refl b) (.of_step (.beginControl (.inr ⟨s, rfl⟩)))
      ((edits_setStage _ s _).quiet rfl)

/-- Each action takes one `TokenStep` and is quiet otherwise. -/
theorem stepsTo_step (env : Environment) (b : Bridge) (act : Action) :
    StepsTo b b act (b.step env act) := by
  by_cases apart : Part.apart act.parts Part.ofSkeletons = true
  · exact .of_quiet ((b.edits_step env act).quiet apart)
  cases act with
  | beginCreate platform c => exact .of_step .beginCreate
  | finishCreate m failure => exact .of_step .finishCreate
  | dropReference m => exact stepsTo_dropReference b m
  | finalize m => exact .of_step (.beginTeardown (.inl rfl))
  | finishTeardown m => exact .of_step .finishTeardown
  | control m op => exact .of_step (.beginControl (.inl rfl))
  | startGraphics m a width height options => exact b.stepsTo_startGraphics m a width height options
  | showWindow m => exact b.stepsTo_showWindow m
  | userClosed a id => exact b.stepsTo_userClosed a id
  | receive e => exact b.stepsTo_receive e
  | registerNumber n => exact .of_step .registerNumber
  | releaseToken h => exact .of_step .releaseToken
  | mainTurn a => exact b.stepsTo_mainTurn env a
  | stop s => exact b.stepsTo_stop env s
  | _ => exact absurd rfl apart

end MachineBridge.Bridge
