import MachineBridge.Proofs.History
import MachineBridge.Proofs.Streams.Listening
import MachineBridge.Proofs.Tokens.Account
import MachineBridge.Proofs.Tokens.Persistent

/-!
# MachineBridge.Proofs.Streams.States

The states of a machine, as its runtime reports them.  A report is accepted if its token is
the state token of the machine and its code is known; `acceptedStates` lists the states that
were accepted in a run, and `receivedStates` those that a subscriber got.

The current state is the one that was accepted last, and a subscriber gets exactly the
states that are accepted after it subscribed, until the machine is finalized
(`Subscribed.run`).
-/

namespace MachineBridge

namespace Bridge

/-! ## reports of the runtime -/

/-- The state that an action reports under the state token of a machine, if it is accepted. -/
def acceptedState (b : Bridge) (m : Nat) : Action → List ExecutionState
  | .receive (.stateChanged token code) =>
    match b.machines[m]?, (b.receive (.stateChanged token code)).2 with
    | some machine, .ok () =>
      if machine.stateToken = token then (ExecutionState.ofCode? code).toList else []
    | _, _ => []
  | _ => []

/-- The states that the runtime reports in a run under the state token of a machine, as far
as they are accepted, in order. -/
def acceptedStates (m : Nat) (b : Bridge) (actions : List (Environment × Action)) :
    List ExecutionState :=
  b.collect (fun b _ act => b.acceptedState m act) actions

/-- A report is accepted for the machine that its token names, if the code is known, and
otherwise it changes nothing. -/
theorem receive_stateChanged_cases (b : Bridge) (token : Handle) (code : Int32) :
    (∃ n x, b.registry.get? token = some (.stateStream n) ∧
        ExecutionState.ofCode? code = some x ∧
        b.receive (.stateChanged token code) =
          (b.modifyMachine n fun y => { y with state := y.state.apply x }, .ok ())) ∨
      (∃ n, b.registry.get? token = some (.stateStream n) ∧ ExecutionState.ofCode? code = none ∧
        b.receive (.stateChanged token code) = (b, .error (.unknownState code))) ∨
      (∀ n, b.registry.get? token ≠ some (.stateStream n)) ∧
        ∃ cause, b.receive (.stateChanged token code) = (b, .error (.handle cause)) := by
  unfold receive
  rw [if_neg (by simp)]
  cases resolved : b.registry.resolve (Callback.stateChanged token code).kind
      (Callback.stateChanged token code).token with
  | error cause =>
    refine .inr (.inr ⟨fun n named => ?_, cause, rfl⟩)
    have known := Registry.resolve_eq_ok_iff.2 ⟨named, rfl⟩
    cases resolved.symm.trans known
  | ok v =>
    obtain ⟨named, kind⟩ := Registry.resolve_eq_ok_iff.1 resolved
    cases v <;> simp only [Value.kind, Callback.kind, reduceCtorEq] at kind
    next n =>
    cases known : ExecutionState.ofCode? code with
    | none => exact .inr (.inl ⟨n, named, rfl, by simp only [deliver, known]⟩)
    | some x => exact .inl ⟨n, x, named, rfl, by simp only [deliver, known]; rfl⟩

/-- A machine that got the token of a report is the one that the token names. -/
theorem Reachable.owner_of_state {b : Bridge} (reachable : b.Reachable) {m n : Nat}
    {machine : Machine} (found : b.machines[m]? = some machine)
    (named : b.registry.get? machine.stateToken = some (.stateStream n)) :
    n = m ∧ machine.phase.holdsTokens = true := by
  exact reachable.owner (p := .state) (skeleton?_of_found found) named

/-- A machine that the token of a report names got it when it was created. -/
theorem Reachable.machine_of_state {b : Bridge} (reachable : b.Reachable) {n : Nat}
    {token : Handle} (named : b.registry.get? token = some (.stateStream n)) :
    ∃ machine, b.machines[n]? = some machine ∧ machine.stateToken = token := by
  obtain ⟨s, skeleton, held⟩ := reachable.holder (p := .state) named
  obtain ⟨machine, found, rfl⟩ := Option.map_eq_some_iff.1 skeleton
  exact ⟨machine, found, held⟩

/-! ## one step -/

/-- What a step does to the stream of the states of a machine. -/
inductive StateChange (b b' : Bridge) (act : Action) (m : Nat) (s : StateStream) :
    StateStream → Prop
  | applied {x : ExecutionState} (accepted : b.acceptedState m act = [x])
      (unfinished : ¬b.Finalized m) (unfinished' : ¬b'.Finalized m) :
      StateChange b b' act m s (s.apply x)
  | closed (silent : b.acceptedState m act = []) (finalized : b'.Finalized m) :
      StateChange b b' act m s s.close
  | listened {s' : StateStream} (silent : b.acceptedState m act = [])
      (same : b'.Finalized m ↔ b.Finalized m) (listens : Listens (b.Uses act m) s s') :
      StateChange b b' act m s s'

variable {b : Bridge} {m i : Nat} {s : StateStream}

/-- Only reports of states are accepted as states. -/
theorem acceptedState_of_unreported {act : Action}
    (other : ∀ token code, act ≠ .receive (.stateChanged token code)) :
    b.acceptedState m act = [] := by
  unfold acceptedState
  split
  · next token code => exact absurd rfl (other token code)
  · rfl

/-- A report that is refused is not accepted. -/
theorem acceptedState_of_refused {token : Handle} {code : Int32} {e : CallbackError}
    (refused : b.receive (.stateChanged token code) = (b, .error e)) :
    b.acceptedState m (.receive (.stateChanged token code)) = [] := by
  rw [acceptedState, refused]
  cases b.machines[m]? <;> rfl

/-- A machine whose state token names its stream is not finalized. -/
theorem Reachable.not_finalized_of_state (reachable : b.Reachable) {n : Nat} {token : Handle}
    (named : b.registry.get? token = some (.stateStream n)) : ¬b.Finalized n := by
  obtain ⟨machine, found, rfl⟩ := reachable.machine_of_state named
  have holds := (reachable.owner_of_state found named).2
  rw [finalized_iff found]
  intro finalized
  rw [finalized] at holds
  contradiction

/-- The state of an accepted report is accepted for the machine that the token names, and for
no other. -/
theorem acceptedState_of_named (reachable : b.Reachable) {n : Nat} {token : Handle}
    {code : Int32} {x : ExecutionState}
    (named : b.registry.get? token = some (.stateStream n))
    (known : ExecutionState.ofCode? code = some x)
    (accepted : (b.receive (.stateChanged token code)).2 = .ok ()) :
    b.acceptedState m (.receive (.stateChanged token code)) = if n = m then [x] else [] := by
  obtain ⟨owner, foundOwner, own⟩ := reachable.machine_of_state named
  rw [acceptedState, accepted]
  by_cases mine : n = m
  · subst mine
    rw [foundOwner, if_pos rfl]
    simp [own, known]
  · rw [if_neg mine]
    cases found : b.machines[m]? with
    | none => rfl
    | some machine =>
      -- the token belongs to one machine only
      have differs : machine.stateToken ≠ token := fun same =>
        mine (reachable.owner_of_state found (same.symm ▸ named)).1
      exact if_neg differs

/-- What a report of a state does to the stream of the states of a machine. -/
theorem stateChange_receive (reachable : b.Reachable) (env : Environment)
    (found : b.states? m = some s) (token : Handle) (code : Int32) :
    ∃ s', (b.step env (.receive (.stateChanged token code))).states? m = some s' ∧
      StateChange b (b.step env (.receive (.stateChanged token code)))
        (.receive (.stateChanged token code)) m s s' := by
  have ignored {e : CallbackError} (refused : b.receive (.stateChanged token code) = (b, .error e)) :
      ∃ s', (b.receive (.stateChanged token code)).1.states? m = some s' ∧
        StateChange b (b.receive (.stateChanged token code)).1
          (.receive (.stateChanged token code)) m s s' := by
    have silent := acceptedState_of_refused (m := m) refused
    rw [refused]
    exact ⟨s, found, .listened silent Iff.rfl .refl⟩
  obtain ⟨n, x, named, known, accepted⟩ | ⟨n, -, -, refused⟩ | ⟨-, cause, refused⟩ :=
    b.receive_stateChanged_cases token code
  · have reported := acceptedState_of_named (m := m) reachable named known (by rw [accepted])
    have phases : (b.receive (.stateChanged token code)).1.Finalized m ↔ b.Finalized m := by
      rw [accepted, Finalized, Finalized,
        (b.quiet_modifyMachine n (f := fun y => { y with state := y.state.apply x })
          fun _ => rfl).skeletons]
    have after : (b.receive (.stateChanged token code)).1.states? m =
        if n = m then some (s.apply x) else some s := by
      rw [accepted, states?_modifyMachine b n m (g := fun s => s.apply x) fun _ => rfl, found]
      rfl
    by_cases mine : n = m
    · subst mine
      have live := reachable.not_finalized_of_state named
      rw [if_pos rfl] at after reported
      exact ⟨_, after, .applied reported live fun finalized => live (phases.1 finalized)⟩
    · rw [if_neg mine] at after reported
      exact ⟨s, after, .listened reported phases .refl⟩
  · exact ignored refused
  · exact ignored refused

/-- The end of a teardown closes the stream of the states of its machine. -/
theorem stateChange_finishTeardown (env : Environment) (found : b.states? m = some s) (k : Nat) :
    ∃ s', (b.step env (.finishTeardown k)).states? m = some s' ∧
      StateChange b (b.step env (.finishTeardown k)) (.finishTeardown k) m s s' := by
  have silent : b.acceptedState m (.finishTeardown k) = [] := rfl
  rw [step]
  unfold finishTeardown
  split
  · exact ⟨s, found, .listened silent Iff.rfl .refl⟩
  · next machine known =>
    split
    · next releasing =>
      let erased : Bridge := { b with
        registry := (b.registry.erase machine.disconnect.token).erase machine.stateToken }
      let finish (x : Machine) : Machine := { x with
        phase := .finalized
        disconnect := x.disconnect.shutdown
        state := x.state.close }
      have after : (erased.modifyMachine k finish).states? m =
          if k = m then some s.close else some s := by
        rw [states?_modifyMachine erased k m (g := StateStream.close) fun _ => rfl,
          show erased.states? m = some s from found]
        rfl
      have there : (erased.modifyMachine k finish).machines[m]? =
          if k = m then (b.machines[m]?).map finish else b.machines[m]? :=
        getElem?_modifyMachine erased k m finish
      by_cases mine : k = m
      · subst mine
        rw [if_pos rfl] at after
        have finalized : (b.finishTeardown k).Finalized k := by
          refine finalized_finishTeardown ?_
          rw [skeleton?_of_found known]
          exact congrArg some releasing
        rw [finishTeardown, known] at finalized
        dsimp only at finalized
        rw [if_pos releasing] at finalized
        exact ⟨_, after, .closed silent finalized⟩
      · rw [if_neg mine] at after there
        have phases : (erased.modifyMachine k finish).Finalized m ↔ b.Finalized m := by
          rw [Finalized, Finalized, skeleton?, skeleton?, there]
        exact ⟨_, after, .listened silent phases .refl⟩
    · exact ⟨s, found, .listened silent Iff.rfl .refl⟩

theorem states?_beginCreate (b : Bridge) (platform : PlatformVersion) (c : MachineConfiguration)
    (m : Nat) : (b.beginCreate platform c).1.states? m = b.states? m ∨
      b.states? m = none ∧ (b.beginCreate platform c).1.states? m = some {} := by
  obtain same | ⟨absent, machine, found, fresh, -⟩ := b.getElem?_beginCreate platform c m
  · exact .inl (states?_congr same)
  · exact .inr ⟨Option.map_eq_none_iff.2 absent, fresh ▸ states?_of_found found⟩

/-- Each step does one of these things to the stream of the states of a machine. -/
theorem stateChange_step (reachable : b.Reachable) (env : Environment) (act : Action)
    (found : b.states? m = some s) :
    ∃ s', (b.step env act).states? m = some s' ∧ StateChange b (b.step env act) act m s s' := by
  have phases (unfinished : ∀ k, act ≠ .finishTeardown k) :
      (b.step env act).Finalized m ↔ b.Finalized m :=
    ⟨fun after => (finalized_step after).resolve_left (unfinished m),
      fun before => before.step env act⟩
  have listens (create : ∀ platform c, act ≠ .beginCreate platform c)
      (report : ∀ token code, act ≠ .receive (.stateChanged token code))
      (unfinished : ∀ k, act ≠ .finishTeardown k) :
      ∃ s', (b.step env act).states? m = some s' ∧ StateChange b (b.step env act) act m s s' := by
    obtain ⟨s', found', listens⟩ := (b.listensAt_step env create report unfinished).known found
    exact ⟨s', found',
      .listened (acceptedState_of_unreported report) (phases unfinished) listens⟩
  cases act with
  | beginCreate platform c =>
    have kept : (b.beginCreate platform c).1.states? m = some s := by
      obtain same | ⟨absent, -⟩ := b.states?_beginCreate platform c m
      · exact same.trans found
      · cases absent.symm.trans found
    exact ⟨s, kept, .listened rfl (phases fun _ => Action.noConfusion) .refl⟩
  | finishTeardown k => exact stateChange_finishTeardown env found k
  | receive e =>
    cases e with
    | stateChanged token code => exact stateChange_receive reachable env found token code
    | _ => exact listens (by simp) (by simp) (by simp)
  | _ => exact listens (by simp) (by simp) (by simp)

/-- A machine that comes into being has an empty stream of states. -/
theorem states?_fresh (env : Environment) (act : Action) (absent : b.states? m = none)
    {s' : StateStream} (found' : (b.step env act).states? m = some s') : s' = {} := by
  have impossible (absent' : (b.step env act).states? m = none) : s' = {} := by
    cases absent'.symm.trans found'
  have listened (create : ∀ platform c, act ≠ .beginCreate platform c)
      (report : ∀ token code, act ≠ .receive (.stateChanged token code))
      (unfinished : ∀ k, act ≠ .finishTeardown k) : s' = {} :=
    impossible ((b.listensAt_step env create report unfinished).unknown absent)
  have modified (c : Bridge) (k : Nat) (f : Machine → Machine) (g : StateStream → StateStream)
      (hf : ∀ x, (f x).state = g x.state) (same : c.states? m = none) :
      (c.modifyMachine k f).states? m = none := by
    rw [states?_modifyMachine c k m hf, same]
    split <;> rfl
  cases act with
  | beginCreate platform c =>
    obtain same | ⟨-, fresh⟩ := b.states?_beginCreate platform c m
    · exact impossible (same.trans absent)
    · exact Option.some.inj (found'.symm.trans fresh)
  | finishTeardown k =>
    refine impossible ?_
    rw [step, finishTeardown]
    split
    · exact absent
    · split
      · exact modified _ k _ StateStream.close (fun _ => rfl) absent
      · exact absent
  | receive e =>
    cases e with
    | stateChanged token code =>
      refine impossible ?_
      rw [step]
      obtain ⟨n, x, -, -, accepted⟩ | ⟨n, -, -, refused⟩ | ⟨-, cause, refused⟩ :=
        b.receive_stateChanged_cases token code
      · rw [accepted]
        exact modified b n _ (fun s => s.apply x) (fun _ => rfl) absent
      · rw [refused]
        exact absent
      · rw [refused]
        exact absent
    | _ => exact listened (by simp) (by simp) (by simp)
  | _ => exact listened (by simp) (by simp) (by simp)

/-! ## the current state -/

/-- What a run made of the stream of the states of a machine: the current state is the one
accepted last, and the stream is closed once the machine is finalized. -/
structure Recorded (b : Bridge) (m : Nat) (accepted : List ExecutionState) : Prop where
  absent : b.states? m = none → accepted = []
  current : ∀ s, b.states? m = some s → s.current = accepted.getLast?.getD .stopped
  closed : ∀ s, b.states? m = some s → (s.channel.closed = true ↔ b.Finalized m)

theorem states?_of_finalized (h : b.Finalized m) : b.states? m ≠ none := by
  obtain ⟨k, found, -⟩ := h
  obtain ⟨machine, known, rfl⟩ := Option.map_eq_some_iff.1 found
  rw [states?, known]
  exact Option.some_ne_none _

theorem acceptedState_of_absent (absent : b.states? m = none) (act : Action) :
    b.acceptedState m act = [] := by
  have none : b.machines[m]? = none := Option.map_eq_none_iff.1 absent
  unfold acceptedState
  split
  · rw [none]
  · rfl

/-- The current state is the last that was accepted, one step later. -/
theorem Recorded.step {accepted : List ExecutionState} (h : b.Recorded m accepted)
    (reachable : b.Reachable) (env : Environment) (act : Action) :
    (b.step env act).Recorded m (accepted ++ b.acceptedState m act) := by
  cases found : b.states? m with
  | none =>
    rw [acceptedState_of_absent found, List.append_nil, h.absent found]
    refine ⟨fun _ => rfl, fun s' found' => ?_, fun s' found' => ?_⟩
    · rw [states?_fresh env act found found']
      rfl
    · rw [states?_fresh env act found found']
      refine ⟨fun closed => absurd closed (by simp), fun finalized => ?_⟩
      obtain rfl | earlier := finalized_step finalized
      · -- the end of a teardown creates no machine
        have none : b.machines[m]? = none := Option.map_eq_none_iff.1 found
        rw [Bridge.step, finishTeardown, none] at found'
        cases found.symm.trans found'
      · exact absurd found (states?_of_finalized earlier)
  | some s =>
    obtain ⟨s', found', change⟩ := stateChange_step reachable env act found
    have current := h.current s found
    have closed := h.closed s found
    have known : ∀ t, (b.step env act).states? m = some t → t = s' := fun t ht =>
      Option.some.inj (ht.symm.trans found')
    refine ⟨fun absent' => absurd (absent'.symm.trans found') (by simp), fun t ht => ?_,
      fun t ht => ?_⟩
    · rw [known t ht]
      cases change with
      | applied accepted _ _ => simp [accepted]
      | closed silent _ => rw [silent, List.append_nil, StateStream.current_close, current]
      | listened silent _ listens => rw [silent, List.append_nil, listens.current, current]
    · rw [known t ht]
      cases change with
      | applied _ unfinished unfinished' =>
        exact ⟨fun c => absurd (closed.1 c) unfinished, fun f => absurd f unfinished'⟩
      | closed _ finalized => exact ⟨fun _ => finalized, fun _ => rfl⟩
      | listened _ same listens => rw [listens.closed, closed, same]

/-- After every run the current state is the one accepted last. -/
theorem recorded_run (actions : List (Environment × Action)) (m : Nat) :
    (({} : Bridge).run actions).Recorded m (acceptedStates m {} actions) := by
  induction actions using List.reverseRecOn with
  | nil => exact ⟨fun _ => rfl, by simp [run, states?], by simp [run, states?]⟩
  | append_singleton before last ih =>
    rw [run_append, acceptedStates, collect_append_singleton]
    exact ih.step ⟨before, rfl⟩ last.1 last.2

/-- The stream of a machine is closed if and only if the machine is finalized. -/
theorem Reachable.closed_iff (reachable : b.Reachable) (found : b.states? m = some s) :
    s.channel.closed = true ↔ b.Finalized m := by
  obtain ⟨actions, rfl⟩ := reachable
  exact (recorded_run actions m).closed s found

/-- Nothing is accepted for a finalized machine. -/
theorem acceptedStates_of_finalized (reachable : b.Reachable) (finalized : b.Finalized m)
    (actions : List (Environment × Action)) : acceptedStates m b actions = [] := by
  induction actions generalizing b with
  | nil => rfl
  | cons last rest ih =>
    have silent : b.acceptedState m last.2 = [] := by
      obtain ⟨s, found⟩ := Option.ne_none_iff_exists'.1 (states?_of_finalized finalized)
      obtain ⟨s', -, change⟩ := stateChange_step reachable last.1 last.2 found
      cases change with
      | applied _ unfinished _ => exact absurd finalized unfinished
      | closed silent _ => exact silent
      | listened silent _ _ => exact silent
    show b.acceptedState m last.2 ++ acceptedStates m (b.step last.1 last.2) rest = []
    rw [silent, ih (reachable.step last.1 last.2) (finalized.step last.1 last.2)]
    rfl

/-! ## subscribers -/

def receivedState (b : Bridge) (m i : Nat) : Action → List ExecutionState
  | .receiveState k j => if k = m ∧ j = i then (b.receiveState m i).2.toList else []
  | _ => []

/-- The states that are received from a subscription in a run, in order. -/
def receivedStates (m i : Nat) (b : Bridge) (actions : List (Environment × Action)) :
    List ExecutionState :=
  b.collect (fun b _ act => b.receivedState m i act) actions

/-- No subscription is lost. -/
theorem taken_le_step (reachable : b.Reachable) (env : Environment) (act : Action) (m : Nat) :
    b.taken m ≤ (b.step env act).taken m := by
  cases found : b.states? m with
  | none =>
    rw [taken, found]
    exact Nat.zero_le _
  | some s =>
    obtain ⟨s', found', change⟩ := stateChange_step reachable env act found
    rw [taken, taken, found, found']
    show s.channel.subscriptions.length ≤ s'.channel.subscriptions.length
    cases change with
    | applied _ _ _ => exact Nat.le_of_eq (s.channel.length_publish _).symm
    | closed _ _ => exact Nat.le_of_eq (List.length_map _).symm
    | listened _ _ listens => exact listens.length_le

/-- The bridge refers to subscriptions only that were taken. -/
theorem Reachable.refers_lt (reachable : b.Reachable) (h : b.Refers m i) : i < b.taken m := by
  obtain ⟨actions, rfl⟩ := reachable
  induction actions using List.reverseRecOn with
  | nil =>
    obtain follows | ⟨id, spec, a, x, found, -⟩ := h
    · cases follows
    · cases found
  | append_singleton before last ih =>
    rw [run_append] at h ⊢
    obtain earlier | ⟨rfl, more⟩ := refers_step last.1 h
    · exact Nat.lt_of_lt_of_le (ih earlier) (taken_le_step ⟨before, rfl⟩ last.1 last.2 m)
    · exact more

/-- A caller has a subscription: the bridge does not use it, and what the caller got from it
and what it is owed is what was meant for it. -/
structure Subscribed (b : Bridge) (m i : Nat) (got meant : List ExecutionState) : Prop where
  unreferred : ¬b.Refers m i
  owed : ∃ s ahead, b.states? m = some s ∧ s.channel.Owes i ahead ∧ got ++ ahead = meant

/-- A new subscription is its caller's. -/
theorem subscribed_subscribeStates (reachable : b.Reachable) (env : Environment)
    (found : b.states? m = some s) :
    (b.step env (.subscribeStates m)).Subscribed m (b.subscribeStates m).2 [] [] := by
  rw [step, subscribeStates_snd]
  constructor
  · intro refers
    exact Nat.lt_irrefl _ (reachable.refers_lt (refers_subscribeStates refers))
  · refine ⟨_, [], states?_subscribeStates found, ?_, rfl⟩
    rw [taken, found]
    exact s.channel.owes_subscribe

/-- What a receive from a subscription answers. -/
theorem receiveState_snd (found : b.states? m = some s) (i : Nat) :
    (b.receiveState m i).2 = (s.channel.receive i).2 := by
  obtain ⟨machine, known, rfl⟩ := Option.map_eq_some_iff.1 found
  rw [receiveState, known]

theorem drainStates_snd (found : b.states? m = some s) (i : Nat) :
    (b.drainStates m i).2 = (s.channel.drain i).2 := by
  obtain ⟨machine, known, rfl⟩ := Option.map_eq_some_iff.1 found
  rw [drainStates, known]

theorem receivedState_of_other {act : Action} (other : act ≠ .receiveState m i) :
    b.receivedState m i act = [] := by
  unfold receivedState
  split
  · next k j =>
    refine if_neg ?_
    rintro ⟨rfl, rfl⟩
    exact other rfl
  · rfl

/-- A receive takes the value that is owed first. -/
theorem Subscribed.receive {got meant : List ExecutionState} (h : b.Subscribed m i got meant)
    (env : Environment) :
    ∃ s ahead, (b.step env (.receiveState m i)).states? m = some s ∧ s.channel.Owes i ahead ∧
      got ++ b.receivedState m i (.receiveState m i) ++ ahead = meant := by
  obtain ⟨s, ahead, found, owes, total⟩ := h.owed
  have after : (b.step env (.receiveState m i)).states? m =
      some { s with channel := (s.channel.receive i).1 } := by
    rw [step, receiveState_eq, states?_modifyMachine b m m
      (g := fun s => { s with channel := (s.channel.receive i).1 }) fun _ => rfl, if_pos rfl, found]
    rfl
  have received : b.receivedState m i (.receiveState m i) =
      (Received.next s.channel.closed ahead).toList := by
    rw [receivedState, if_pos ⟨rfl, rfl⟩, receiveState_snd found, owes.receive.1]
  refine ⟨_, ahead.tail, after, owes.receive.2, ?_⟩
  rw [received, List.append_assoc, Received.toList_next_append, total]

/-- A subscription that a step does not use is owed what the step accepts. -/
theorem owes_step (reachable : b.Reachable) (env : Environment) {act : Action}
    {ahead : List ExecutionState} (found : b.states? m = some s) (owes : s.channel.Owes i ahead)
    (unused : ¬b.Uses act m i) : ∃ s', (b.step env act).states? m = some s' ∧
      s'.channel.Owes i (ahead ++ b.acceptedState m act) := by
  obtain ⟨s', found', change⟩ := stateChange_step reachable env act found
  refine ⟨s', found', ?_⟩
  cases change with
  | @applied x accepted unfinished _ =>
    have isOpen : s.channel.closed = false :=
      Bool.eq_false_iff.2 fun closed => unfinished ((reachable.closed_iff found).1 closed)
    have published := owes.publish x
    rw [isOpen] at published
    rw [accepted]
    exact published
  | closed silent _ =>
    rw [silent, List.append_nil]
    exact owes.close
  | listened silent _ listens =>
    rw [silent, List.append_nil]
    exact listens.owes unused owes

/-- A subscription is owed what is accepted as long as its receiver is kept. -/
theorem Subscribed.step {got meant : List ExecutionState} (h : b.Subscribed m i got meant)
    (reachable : b.Reachable) (env : Environment) {act : Action} (kept : act ≠ .dropStates m i) :
    (b.step env act).Subscribed m i (got ++ b.receivedState m i act)
      (meant ++ b.acceptedState m act) := by
  obtain ⟨s, ahead, found, owes, total⟩ := h.owed
  have lt : i < b.taken m := by
    rw [taken, found]
    exact owes.lt_length
  constructor
  · intro refers
    obtain earlier | ⟨new, -⟩ := refers_step env refers
    · exact h.unreferred earlier
    · exact Nat.ne_of_lt lt new
  · by_cases receives : act = .receiveState m i
    · subst receives
      rw [show b.acceptedState m (.receiveState m i) = [] from rfl, List.append_nil]
      exact h.receive env
    · have untouched : ¬b.Uses act m i := by
        rintro (consumes | new | receive | drop)
        · exact h.unreferred consumes.refers
        · exact Nat.not_le_of_lt lt new
        · exact receives receive
        · exact kept drop
      obtain ⟨s', found', owes'⟩ := owes_step reachable env found owes untouched
      refine ⟨s', _, found', owes', ?_⟩
      rw [receivedState_of_other receives, List.append_nil, ← total, List.append_assoc]

/-- A subscription is owed what is accepted in a run in which its receiver is kept. -/
theorem Subscribed.run {got meant : List ExecutionState} (h : b.Subscribed m i got meant)
    (reachable : b.Reachable) {actions : List (Environment × Action)}
    (kept : ∀ s ∈ actions, s.2 ≠ .dropStates m i) :
    (b.run actions).Subscribed m i (got ++ receivedStates m i b actions)
      (meant ++ acceptedStates m b actions) := by
  induction actions using List.reverseRecOn with
  | nil =>
    rw [receivedStates, acceptedStates, collect, collect, List.append_nil, List.append_nil]
    exact h
  | append_singleton before last ih =>
    have earlier := ih fun s mem => kept s (List.mem_append_left _ mem)
    rw [run_append, receivedStates, acceptedStates, collect_append_singleton,
      collect_append_singleton, ← List.append_assoc, ← List.append_assoc]
    exact earlier.step (reachable.after before) last.1
      (kept last (List.mem_append_right _ List.mem_cons_self))

/-! ## what callers see -/

/-- What a caller got from a subscription and what it can still receive is what was accepted.
Behind that, the stream ends if the machine is finalized. -/
def Hears (b : Bridge) (m i : Nat) (got accepted : List ExecutionState) : Prop :=
  ∃ machine ahead, b.machines[m]? = some machine ∧ got ++ ahead = accepted ∧
    (b.receiveState m i).2 = .next (machine.phase == .finalized) ahead ∧
    (b.drainStates m i).2 = (ahead, machine.phase == .finalized)

/-- A subscriber hears of what was meant for it. -/
theorem Subscribed.hears {got meant : List ExecutionState} (h : b.Subscribed m i got meant)
    (reachable : b.Reachable) : b.Hears m i got meant := by
  obtain ⟨s, ahead, found, owes, total⟩ := h.owed
  obtain ⟨machine, known, -⟩ := Option.map_eq_some_iff.1 found
  have closed : s.channel.closed = (machine.phase == .finalized) := by
    rw [Bool.eq_iff_iff, reachable.closed_iff found, finalized_iff known, beq_iff_eq]
  refine ⟨machine, ahead, known, total, ?_, ?_⟩
  · rw [receiveState_snd found, owes.receive.1, closed]
  · rw [drainStates_snd found, owes.drain.1, closed]

/-- Which reports are accepted. -/
theorem receive_stateChanged_eq_ok_iff (b : Bridge) (token : Handle) (code : Int32) :
    (b.receive (.stateChanged token code)).2 = .ok () ↔
      (∃ n, b.registry.get? token = some (.stateStream n)) ∧
        (ExecutionState.ofCode? code).isSome = true := by
  obtain ⟨n, x, named, known, accepted⟩ | ⟨n, -, unknown, refused⟩ | ⟨unnamed, cause, refused⟩ :=
    b.receive_stateChanged_cases token code
  · rw [accepted, known]
    exact ⟨fun _ => ⟨⟨n, named⟩, rfl⟩, fun _ => rfl⟩
  · rw [refused, unknown]
    simp
  · rw [refused]
    simp [unnamed]

/-- A report that is not accepted changes nothing. -/
theorem receive_stateChanged_of_refused {token : Handle} {code : Int32} {e : CallbackError}
    (refused : (b.receive (.stateChanged token code)).2 = .error e) :
    (b.receive (.stateChanged token code)).1 = b := by
  obtain ⟨n, x, -, -, h⟩ | ⟨n, -, -, h⟩ | ⟨-, cause, h⟩ := b.receive_stateChanged_cases token code
  · rw [h] at refused
    cases refused
  · rw [h]
  · rw [h]

/-- What becomes of the states that the runtime reports for a machine in a run. -/
structure RelaysStates (m : Nat) (actions : List (Environment × Action)) : Prop where
  /-- The current state is the one that was accepted last. -/
  current : ∀ x, (({} : Bridge).run actions).state? m = some x →
    x = (acceptedStates m {} actions).getLast?.getD .stopped
  /-- A subscriber that keeps its receiver gets what is accepted after it subscribed. -/
  subscriber : ∀ before env after, actions = before ++ (env, .subscribeStates m) :: after →
    ((({} : Bridge).run before).state? m).isSome = true →
    ∀ i, ((({} : Bridge).run before).subscribeStates m).2 = i →
    (∀ s ∈ after, s.2 ≠ .dropStates m i) →
    (({} : Bridge).run actions).Hears m i
      (receivedStates m i ((({} : Bridge).run before).step env (.subscribeStates m)) after)
      (acceptedStates m ((({} : Bridge).run before).step env (.subscribeStates m)) after)
  /-- Nothing is accepted once the machine is finalized. -/
  finalized : ∀ before after machine, actions = before ++ after →
    (({} : Bridge).run before).machines[m]? = some machine → machine.phase = .finalized →
    acceptedStates m (({} : Bridge).run before) after = []
  /-- A report is accepted if its token names some stream of states and its code is known. -/
  accepted : ∀ token code, ((({} : Bridge).run actions).receive (.stateChanged token code)).2 =
      .ok () ↔
    (∃ n, (({} : Bridge).run actions).registry.get? token = some (.stateStream n)) ∧
      (ExecutionState.ofCode? code).isSome = true
  /-- A report that is not accepted changes nothing. -/
  refused : ∀ token code e,
    ((({} : Bridge).run actions).receive (.stateChanged token code)).2 = .error e →
    ((({} : Bridge).run actions).receive (.stateChanged token code)).1 = ({} : Bridge).run actions
  /-- A token that was released is never accepted again. -/
  released : ∀ before after token code, actions = before ++ after →
    token.raw < (({} : Bridge).run before).registry.next →
    (({} : Bridge).run before).registry.get? token = none →
    ((({} : Bridge).run actions).receive (.stateChanged token code)).2 ≠ .ok ()
  /-- The token of a machine that is finalized, or could not be created, is not accepted. -/
  ended : ∀ machine code, (({} : Bridge).run actions).machines[m]? = some machine →
    machine.phase.holdsTokens = false →
    ((({} : Bridge).run actions).receive (.stateChanged machine.stateToken code)).2 ≠ .ok ()
  /-- Until then it is, as long as callers release only what they registered. -/
  held : ∀ machine code, (({} : Bridge).run actions).machines[m]? = some machine →
    machine.phase.holdsTokens = true → ({} : Bridge).Along ReleasesOwn actions →
    (ExecutionState.ofCode? code).isSome = true →
    ((({} : Bridge).run actions).receive (.stateChanged machine.stateToken code)).2 = .ok ()

/-- The stream of the states of a machine over every run. -/
theorem relays_states (m : Nat) (actions : List (Environment × Action)) :
    RelaysStates m actions where
  current := fun x known => by
    obtain ⟨machine, found, rfl⟩ := Option.map_eq_some_iff.1 known
    exact (recorded_run actions m).current _ (states?_of_found found)
  subscriber := by
    rintro before env after rfl exists_ i rfl kept
    obtain ⟨x, known⟩ := Option.isSome_iff_exists.1 exists_
    obtain ⟨machine, found, -⟩ := Option.map_eq_some_iff.1 known
    have reachable : (({} : Bridge).run before).Reachable := ⟨before, rfl⟩
    have subscribed := subscribed_subscribeStates reachable env (states?_of_found found)
    have later := (subscribed.run (reachable.step env _) kept).hears
      ((reachable.step env _).after after)
    rw [run_append]
    exact later
  finalized := by
    rintro before after machine rfl found finalized
    exact acceptedStates_of_finalized ⟨before, rfl⟩ ((finalized_iff found).2 finalized) after
  accepted := fun token code => receive_stateChanged_eq_ok_iff _ token code
  refused := fun token code e => receive_stateChanged_of_refused
  released := by
    rintro before after token code rfl issued unnamed ok
    have later := get?_run_of_unnamed ⟨before, rfl⟩ issued unnamed after
    obtain ⟨⟨n, named⟩, -⟩ := (receive_stateChanged_eq_ok_iff _ token code).1 ok
    rw [run_append, later] at named
    cases named
  ended := fun machine code found spent ok => by
    have reachable : (({} : Bridge).run actions).Reachable := ⟨actions, rfl⟩
    obtain ⟨⟨n, named⟩, -⟩ := (receive_stateChanged_eq_ok_iff _ _ code).1 ok
    have holds := (reachable.owner_of_state found named).2
    rw [spent] at holds
    contradiction
  held := fun machine code found holds own known => by
    have named := holds_run own _ _ (token?_of_holds .state (skeleton?_of_found found) holds)
    exact (receive_stateChanged_eq_ok_iff _ _ code).2 ⟨⟨m, named⟩, known⟩

/-- States are heard that are reported while the machine is created and while it is torn
down, one twice, and then the stream ends. -/
example :
    let report (code : Int32) : Environment × Action := (.idle, .receive (.stateChanged ⟨1⟩ code))
    let before := [(.idle, .beginCreate { major := 13, minor := 0 }
        { cpuCount := 2, memorySize := 4096 }), report 4, (.idle, .finishCreate 0 none)]
    let after := [report 1, report 1, report 77, (.idle, .receiveState 0 0), (.idle, .finalize 0),
      report 0, (.idle, .finishTeardown 0), report 1]
    let b := ({} : Bridge).run (before ++ [(.idle, .subscribeStates 0)])
    (({} : Bridge).run before).state? 0 = some .starting ∧
      acceptedStates 0 b after = [.running, .running, .stopped] ∧
      receivedStates 0 0 b after = [.running] ∧
      ((b.run after).drainStates 0 0).2 = ([.running, .stopped], true) := by
  decide +kernel

end Bridge

end MachineBridge
