import MachineBridge.Proofs.Completion
import MachineBridge.Proofs.Lifecycle.Ending
import MachineBridge.Proofs.Lifecycle.Release

/-!
# MachineBridge.Proofs.Lifecycle.Teardown

The end of a machine.  While the runtime releases it, its reports still arrive; afterwards
nothing of the machine can be reached.  All that it can be asked for is refused before it
comes to the runtime or to the toolkit (`Refuses`), its tokens name nothing, its streams end,
and to finalize it again or to drop more references changes nothing but a count.  A call that
waits belongs to its completion and not to the machine, so it returns all the same
(`tears_down_once`).
-/

namespace MachineBridge

namespace Bridge

variable {b : Bridge} {m : Nat} {machine : Machine}

/-! ## refusals -/

/-- All that a machine can be asked for is refused, and nothing else happens: neither the
runtime nor the toolkit is called. -/
structure Refuses (b : Bridge) (m : Nat) : Prop where
  control : ∀ op, b.beginControl m op = (b, .error .finalized)
  requestStop : ∀ env, b.requestStop env m = (b, .error .finalized)
  query : ∀ env q, b.ask env m q = (b, false)
  startGraphics : ∀ a width height options,
    b.startGraphics m a width height options = (b, .error .finalized)
  showWindow : b.showWindow m = (b, .error .finalized)
  bringToFront : ∀ env place, b.beginFront env m place = (b, .error .finalized)
  hasWindow : ∀ env place, b.beginHasWindow env m place = (b, none)
  disconnects : b.subscribeDisconnects m = (b, .error .finalized)

/-- A machine that is not live admits nothing. -/
theorem admitted_of_not_live (found : b.machines[m]? = some machine) (ended : machine.phase ≠ .live)
    (required : UInt32) : b.admitted m required = .error .finalized := by
  rw [admitted, found]
  dsimp only
  rw [Machine.gate, Machine.isLive, if_neg (by simpa using ended)]
  rfl

/-- A machine whose life is over refuses every operation. -/
theorem refuses_of_not_live (reachable : b.Reachable) (found : b.machines[m]? = some machine)
    (ended : machine.phase ≠ .live) : b.Refuses m := by
  have refused := admitted_of_not_live found ended
  have windowless : machine.window = {} := by
    obtain ⟨actions, rfl⟩ := reachable
    have recorded := windowRecorded_run actions m
    rw [WindowRecorded, skeleton?_of_found found] at recorded
    exact recorded.idle ended
  exact
    { control := fun op => beginControl_of_refused (refused _)
      requestStop := fun env => by rw [Bridge.requestStop, refused]
      query := fun env q => by
        have dead : machine.canAsk q = false := by
          rw [Machine.canAsk, Machine.isLive, beq_eq_false_iff_ne.2 ended, Bool.false_and]
        rw [ask, found]
        dsimp only
        rw [dead, if_neg Bool.false_ne_true]
      startGraphics := fun a width height options => by rw [Bridge.startGraphics, refused]
      showWindow := by rw [Bridge.showWindow, refused]
      bringToFront := fun env place => by rw [beginFront, refused]
      hasWindow := fun env place => by
        rw [beginHasWindow, found, Option.bind_some, windowless]
        rfl
      disconnects := by rw [subscribeDisconnects, refused] }

/-! ## tokens -/

/-- A report whose token names nothing is refused. -/
theorem receive_of_unnamed {e : Callback} (unnamed : b.registry.get? e.token = none)
    (valid : e.token ≠ .invalid) : b.receive e = (b, .error (.handle (.notFound e.token))) := by
  have other : e ≠ .windowClosed .invalid := by
    rintro rfl
    exact valid rfl
  rw [receive, if_neg other, Registry.resolve, unnamed]

/-- The reports for a finalized machine are refused. -/
theorem receive_of_finalized (reachable : b.Reachable) (found : b.machines[m]? = some machine)
    (finalized : machine.phase = .finalized) {e : Callback}
    (own : e.token = machine.stateToken ∨ e.token = machine.disconnect.token) :
    b.receive e = (b, .error (.handle (.notFound e.token))) := by
  have skeleton := skeleton?_of_found found
  have spent : machine.skeleton.phase.holdsTokens = false := congrArg _ finalized
  have refused (p : Persistent) (same : e.token = p.token machine.skeleton) :
      b.receive e = (b, .error (.handle (.notFound e.token))) := by
    refine receive_of_unnamed ?_ ?_
    · rw [same]
      exact reachable.unnamed_of_spent skeleton spent p
    · rw [same]
      obtain ⟨actions, rfl⟩ := reachable
      exact valid_run p actions skeleton
  obtain state | disconnect := own
  · exact refused .state state
  · exact refused .disconnect disconnect

/-- The reports for a window are refused once the teardown of its machine has begun. -/
theorem receive_of_lost_window (reachable : b.Reachable) (found : b.machines[m]? = some machine)
    {e : Callback} (token : machine.window.token = some e.token)
    {actions : List (Environment × Action)} {machine' : Machine}
    (found' : (b.run actions).machines[m]? = some machine')
    (ended : machine'.phase ≠ .live) :
    (b.run actions).receive e = (b.run actions, .error (.handle (.notFound e.token))) := by
  have held : b.token? (.windowBinding m) = some e.token := by
    rw [token?, skeleton?_of_found found]
    exact token
  have windowless : machine'.window = {} := by
    obtain ⟨before, rfl⟩ := reachable
    have recorded := windowRecorded_run (before ++ actions) m
    rw [run_append, WindowRecorded, skeleton?_of_found found'] at recorded
    exact recorded.idle ended
  have lost : (b.run actions).token? (.windowBinding m) ≠ some e.token := by
    rw [token?, skeleton?_of_found found']
    show machine'.window.token ≠ _
    rw [windowless]
    simp
  refine receive_of_unnamed (get?_run_of_lost reachable held actions lost) ?_
  intro reserved
  have positive := (reachable.records.issued _ _ held).1
  rw [reserved] at positive
  exact Nat.lt_irrefl 0 positive

/-- The reports for a machine that the runtime releases arrive, as long as callers release
only what they registered. -/
structure Accepts (b : Bridge) (m : Nat) (machine : Machine) : Prop where
  state : ∀ code x, ExecutionState.ofCode? code = some x →
    b.receive (.stateChanged machine.stateToken code) =
      (b.modifyMachine m fun y => { y with state := y.state.apply x }, .ok ())
  disconnect : ∀ index error,
    b.receive (.disconnected machine.disconnect.token index error) =
      (b.modifyMachine m fun y => { y with
        disconnect := y.disconnect.push { index, cause := error.getD .unspecified } }, .ok ())
  disconnectsEnded : b.receive (.disconnectsEnded machine.disconnect.token) =
    (b.modifyMachine m fun y => { y with disconnect := y.disconnect.closeInbox }, .ok ())

/-- A machine that has its tokens takes reports under them. -/
theorem accepts_of_holds {actions : List (Environment × Action)}
    (own : ({} : Bridge).Along ReleasesOwn actions)
    (found : (({} : Bridge).run actions).machines[m]? = some machine)
    (holds : machine.phase.holdsTokens = true) :
    (({} : Bridge).run actions).Accepts m machine := by
  have skeleton := skeleton?_of_found found
  have state := holds_run own _ _ (token?_of_holds .state skeleton holds)
  have disconnect := holds_run own _ _ (token?_of_holds .disconnect skeleton holds)
  have reported {e : Callback} {u : DisconnectPipeline.Use} (used : e.use? = some u)
      (named : e.token = machine.disconnect.token) :
      (({} : Bridge).run actions).receive e = ((({} : Bridge).run actions).modifyMachine m
        fun x => { x with disconnect := x.disconnect.use x.configuration u }, .ok ()) := by
    obtain ⟨n, known, accepted⟩ | ⟨unnamed, -⟩ :=
      receive_cases_of_use used (({} : Bridge).run actions)
    · rw [named] at known
      cases disconnect.symm.trans known
      exact accepted
    · rw [named] at unnamed
      exact absurd disconnect (unnamed m)
  exact
    { state := fun code x known => by
        obtain ⟨n, y, named, known', accepted⟩ | ⟨n, -, unknown, -⟩ | ⟨unnamed, -⟩ :=
          receive_stateChanged_cases (({} : Bridge).run actions) machine.stateToken code
        · cases state.symm.trans named
          cases known.symm.trans known'
          exact accepted
        · cases unknown.symm.trans known
        · exact absurd state (unnamed m)
      disconnect := fun index error =>
        reported (e := .disconnected machine.disconnect.token index error) rfl rfl
      disconnectsEnded :=
        reported (e := .disconnectsEnded machine.disconnect.token) rfl rfl }

/-! ## further ends -/

/-- Dropping a reference to a machine whose teardown has begun just counts. -/
theorem dropReference_of_not_live (found : b.machines[m]? = some machine)
    (ended : machine.phase ≠ .live) :
    b.dropReference m = b.modifyMachine m fun x => { x with references := x.references - 1 } := by
  have after : (b.modifyMachine m fun x =>
      { x with references := x.references - 1 }).machines[m]? =
        some { machine with references := machine.references - 1 } := by
    rw [getElem?_modifyMachine, if_pos rfl, found]
    rfl
  rw [dropReference, found]
  dsimp only
  split
  · refine beginTeardown_of_not_live fun other found' => ?_
    cases after.symm.trans found'
    exact ended
  · rfl

/-- A teardown ends once. -/
theorem finishTeardown_of_not_releasing (found : b.machines[m]? = some machine)
    (past : machine.phase ≠ .releasing) : b.finishTeardown m = b := by
  rw [finishTeardown, found]
  exact if_neg past

/-- Ending is not living. -/
theorem ne_live_of_isEnding {phase : MachinePhase} (ending : phase.isEnding = true) :
    phase ≠ .live := by
  rintro rfl
  cases ending

/-! ## calls that wait -/

inductive Ends (m : Nat) : Action → Prop
  | finalize : Ends m (.finalize m)
  | dropReference : Ends m (.dropReference m)
  | finishTeardown : Ends m (.finishTeardown m)

/-- The end of a machine leaves a waiting call waiting. -/
theorem Waits.ends {n : Nat} {call : ControlCall} (waits : b.Waits n call)
    (reachable : b.Reachable) (env : Environment) {act : Action} (ends : Ends m act) :
    (b.step env act).Waits n call := by
  cases ends with
  | finalize | dropReference | finishTeardown =>
    exact waits.step reachable.records env rfl (by simp)

/-! ## the end of a machine -/

/-- What becomes of a machine that is finalized, or whose last reference is dropped, in a run
that leads to `b`. -/
structure TearsDownOnce (m : Nat) (actions : List (Environment × Action)) (b : Bridge) :
    Prop where
  /-- The runtime releases the machine when its teardown begins, and at no other time. -/
  released : ∀ machine, b.machines[m]? = some machine →
    machine.calls.count .release = if machine.phase.isEnding then 1 else 0
  /-- A machine that was created is torn down if it is ever finalized. -/
  finalized : ∀ before env after machine, actions = before ++ (env, .finalize m) :: after →
    (({} : Bridge).run before).machines[m]? = some machine →
    machine.phase ≠ .creating ∧ machine.phase ≠ .abandoned →
    ∃ machine', b.machines[m]? = some machine' ∧ machine'.phase.isEnding = true
  /-- It is torn down if there are no references to it. -/
  dropped : ∀ machine, b.machines[m]? = some machine →
    machine.phase ≠ .creating ∧ machine.phase ≠ .abandoned → machine.references = 0 →
    machine.phase.isEnding = true
  /-- There is no other cause of a teardown. -/
  cause : ∀ machine, b.machines[m]? = some machine → machine.phase.isEnding = true →
    Finalizes m actions ∨ machine.references = 0
  /-- A teardown that has begun is never taken back. -/
  begun : ∀ before after machine, actions = before ++ after →
    (({} : Bridge).run before).machines[m]? = some machine → machine.phase.isEnding = true →
    ∃ machine', b.machines[m]? = some machine' ∧ machine'.phase.isEnding = true
  /-- While the runtime releases the machine, its reports arrive. -/
  accepts : ∀ machine, b.machines[m]? = some machine → machine.phase = .releasing →
    ({} : Bridge).Along ReleasesOwn actions → b.Accepts m machine
  /-- When the runtime has released it, the machine is finalized. -/
  finishes : ∀ machine, b.machines[m]? = some machine → machine.phase = .releasing →
    (b.finishTeardown m).Finalized m
  /-- A finalized machine stays so, in the state in which it is. -/
  stays : ∀ before after machine, actions = before ++ after →
    (({} : Bridge).run before).machines[m]? = some machine → machine.phase = .finalized →
    ∃ machine', b.machines[m]? = some machine' ∧ machine'.phase = .finalized ∧
      b.state? m = some machine.state.current
  /-- Once the teardown has begun, all operations and queries are refused. -/
  refuses : ∀ machine, b.machines[m]? = some machine → machine.phase.isEnding = true →
    b.Refuses m
  /-- From then on, reports with a token that the window of the machine ever had are refused. -/
  windowReports : ∀ before after machine machine' e, actions = before ++ after →
    (({} : Bridge).run before).machines[m]? = some machine →
    machine.window.token = some e.token → b.machines[m]? = some machine' →
    machine'.phase.isEnding = true → b.receive e = (b, .error (.handle (.notFound e.token)))
  /-- To finalize the machine once more has no effect, and to drop a reference just counts. -/
  inert : ∀ machine env, b.machines[m]? = some machine → machine.phase.isEnding = true →
    b.step env (.finalize m) = b ∧
      b.step env (.dropReference m) =
        b.modifyMachine m fun x => { x with references := x.references - 1 }
  /-- The teardown of a finalized machine is over. -/
  completed : ∀ machine env, b.machines[m]? = some machine → machine.phase = .finalized →
    b.step env (.finishTeardown m) = b
  /-- Reports with one of the two tokens of a finalized machine are refused. -/
  reports : ∀ machine e, b.machines[m]? = some machine → machine.phase = .finalized →
    e.token = machine.stateToken ∨ e.token = machine.disconnect.token →
    b.receive e = (b, .error (.handle (.notFound e.token)))
  /-- The streams of its states end behind what is queued, and a new one ends at once. -/
  states : ∀ machine, b.machines[m]? = some machine → machine.phase = .finalized →
    (∀ i, (b.drainStates m i).2.2 = true) ∧
      ((b.subscribeStates m).1.drainStates m (b.subscribeStates m).2).2 = ([], true)
  /-- The streams of its lost attachments end when its worker has nothing to do. -/
  disconnects : ∀ machine i, b.machines[m]? = some machine → machine.phase = .finalized →
    b.canWork m = false → (b.drainDisconnects m i).2.2 = true
  /-- The worker gets there with a turn for each event in its inbox, and one more. -/
  turns : ∀ before after machine i, actions = before ++ after →
    (({} : Bridge).run before).machines[m]? = some machine → machine.phase = .finalized →
    machine.disconnect.inbox.length <
      (pipelineUses m (({} : Bridge).run before) after).count .work →
    (b.drainDisconnects m i).2.2 = true
  /-- The end of a machine leaves every waiting call waiting. -/
  untouched : ∀ env act n call, Ends m act → b.Waits n call → (b.step env act).Waits n call
  /-- A call that waits returns what the first completion of its own token reports, whatever
  becomes of its machine. -/
  waiting : ∀ before after n call, actions = before ++ after →
    (({} : Bridge).run before).Waits n call →
    (∀ s ∈ after, s.2 ≠ .releaseToken call.token) →
    b.callResult? n = (firstCompletion? call.token after).map call.operation.result

/-- A machine is torn down once, and for good, over every run. -/
theorem tears_down_once (m : Nat) (actions : List (Environment × Action)) :
    TearsDownOnce m actions (({} : Bridge).run actions) where
  released := fun machine found => (life_run actions (life?_of_found found)).releases
  finalized := by
    rintro before env after machine rfl found created
    obtain ⟨l, known, ending⟩ := ending_finalize (life?_of_found found) created
    obtain ⟨l', known', ending'⟩ := ending_run known ending after
    rw [run_append]
    obtain ⟨machine', found', rfl⟩ := Option.map_eq_some_iff.1 known'
    exact ⟨machine', found', ending'⟩
  dropped := by
    intro machine found created none
    have held := (life_run actions (life?_of_found found)).held
    cases phase : machine.phase with
    | creating => exact absurd phase created.1
    | abandoned => exact absurd phase created.2
    | live => exact absurd none (Nat.ne_of_gt (held phase))
    | releasing | finalized => rfl
  cause := fun machine found ending => (life_run actions (life?_of_found found)).cause ending
  begun := by
    rintro before after machine rfl found ending
    obtain ⟨l, known, ending'⟩ := ending_run (life?_of_found found) ending after
    rw [run_append]
    obtain ⟨machine', found', rfl⟩ := Option.map_eq_some_iff.1 known
    exact ⟨machine', found', ending'⟩
  accepts := fun machine found releasing own =>
    accepts_of_holds own found (by rw [releasing]; rfl)
  finishes := fun machine found releasing => finalized_finishTeardown <| by
    rw [skeleton?_of_found found]
    exact congrArg some releasing
  stays := by
    rintro before after machine rfl found finalized
    obtain ⟨machine', found', finalized', current⟩ := current_of_finalized found finalized after
    refine ⟨machine', found', finalized', ?_⟩
    rw [state?, found', Option.map_some, current]
  refuses := fun machine found ending =>
    refuses_of_not_live ⟨actions, rfl⟩ found (ne_live_of_isEnding ending)
  windowReports := by
    rintro before after machine machine' e rfl found token found' ending
    rw [run_append] at found' ⊢
    exact receive_of_lost_window ⟨before, rfl⟩ found token found' (ne_live_of_isEnding ending)
  inert := by
    intro machine env found ending
    have ended := ne_live_of_isEnding ending
    refine ⟨beginTeardown_of_not_live fun other found' => ?_, dropReference_of_not_live found ended⟩
    cases found.symm.trans found'
    exact ended
  completed := fun machine env found finalized =>
    finishTeardown_of_not_releasing found (by rw [finalized]; simp)
  reports := fun machine e found finalized own =>
    receive_of_finalized ⟨actions, rfl⟩ found finalized own
  states := by
    intro machine found finalized
    have reachable : (({} : Bridge).run actions).Reachable := ⟨actions, rfl⟩
    have ended := (finalized_iff found).2 finalized
    exact ⟨ended.drained_states reachable, ended.drained_new reachable⟩
  disconnects := by
    intro machine i found finalized idle
    have known := pipeline?_of_found found
    rw [canWork, found] at idle
    exact drained_disconnects known
      (closed_of_idle known ((finalized_iff found).2 finalized) idle) i
  turns := by
    rintro before after machine i rfl found finalized turns
    have known := pipeline?_of_found found
    obtain ⟨isClosed, started⟩ := shutdown_run before known ((finalized_iff found).2 finalized)
    obtain ⟨q, known', closed⟩ := closed_of_turns_of_started known started isClosed turns
    exact drained_disconnects known' closed i
  untouched := fun env act n call ends waits => waits.ends ⟨actions, rfl⟩ env ends
  waiting := by
    rintro before after n call rfl waits kept
    rw [run_append]
    exact (Follows.run ⟨before, rfl⟩ waits after kept).1.callResult

/-- A machine that is finalized twice while it pauses is released once.  A report from inside
the release arrives, a later one does not, and the call returns all the same. -/
example :
    let report (code : Int32) : Environment × Action := (.idle, .receive (.stateChanged ⟨1⟩ code))
    let ends := [(.idle, .control 0 .pause), (.idle, .finalize 0), report 1, (.idle, .finalize 0),
      (.idle, .finishTeardown 0), (.idle, .dropReference 0), report 0,
      (.idle, .receive (.completion ⟨3⟩ none))]
    let b := ({} : Bridge).run (creation ++ ends)
    (b.machines[0]?).map (·.calls.count .release) = some 1 ∧ b.state? 0 = some .running ∧
      b.callResult? 0 = some (.ok ()) := by
  decide +kernel

end Bridge

end MachineBridge
