import MachineBridge.Proofs.Tokens.Owner

/-!
# MachineBridge.Proofs.Completion

A call returns what the first completion of its own token reports.  A call *waits* while
its token names it, and has *returned* once it is decided and its token names nothing.
A step takes a waiting call to a returned one exactly when it is a completion of the
call's own token; no step changes a call that has returned.
-/

namespace MachineBridge

/-- What an action reports of a completion, if it is one of the given token. -/
def Action.completes? (token : Handle) : Action → Option (Option ForeignError)
  | .receive (.completion k error) => if k = token then some error else none
  | _ => none

/-- What the first completion of a token in a run reports. -/
def firstCompletion? (token : Handle) (actions : List (Environment × Action)) :
    Option (Option ForeignError) :=
  actions.findSome? fun s => s.2.completes? token

/-- A completion counts if there was none before it. -/
theorem firstCompletion?_append_singleton (token : Handle)
    (actions : List (Environment × Action)) (s : Environment × Action) :
    firstCompletion? token (actions ++ [s]) =
      (firstCompletion? token actions).or (s.2.completes? token) := by
  simp [firstCompletion?, List.findSome?_append]

/-- An action that completes a token is the report of that completion. -/
theorem Action.eq_of_completes {token : Handle} {act : Action} {error : Option ForeignError}
    (h : act.completes? token = some error) : act = .receive (.completion token error) := by
  unfold Action.completes? at h
  split at h
  · split at h
    · next e => rw [e, Option.some.inj h]
    · contradiction
  · contradiction

/-- What an operation returns when its completion reports an error or none. -/
def Operation.result (op : Operation) : Option ForeignError → Except BridgeError Unit
  | none => .ok ()
  | some error => .error (.foreign op.name error)

namespace Bridge

/-- A call waits: its token names it. -/
structure Waits (b : Bridge) (n : Nat) (call : ControlCall) : Prop where
  found : b.calls[n]? = some call
  undecided : call.outcome = none
  named : b.registry.get? call.token = some (.completion n)

/-- A call has returned what was reported: its token names nothing, and never will. -/
structure Returned (b : Bridge) (n : Nat) (call : ControlCall) (error : Option ForeignError) :
    Prop where
  found : b.calls[n]? = some { call with outcome := some (.fired error) }
  unnamed : b.registry.get? call.token = none
  issued : call.token.raw < b.registry.next

/-! ## what a step does to the calls -/

/-- What an action does to the calls: one begins behind all others, with a fresh token, or
one is decided by a completion of a token that names it, or by a release of it. -/
inductive CallsStep (b : Bridge) (act : Action) : List ControlCall → Prop
  | same : CallsStep b act b.calls
  | begun {m : Nat} {op : Operation} (cause : act = .control m op ∨ ∃ s, act = .stop s) :
      CallsStep b act (b.calls ++ [{ machine := m, operation := op, token := ⟨b.registry.next⟩ }])
  | decided {n : Nat} {token : Handle} {o : Outcome}
      (named : b.registry.get? token = some (.completion n))
      (cause : act.completes? token = none → act = .releaseToken token) :
      CallsStep b act (b.decideCall n o).calls

theorem callsStep_of_tokenStep {origin b b' : Bridge} {act : Action}
    (step : TokenStep origin b act b') :
    CallsStep b act b'.calls := by
  cases step with
  | quiet => exact .same
  | beginCreate =>
    next platform c =>
    obtain h | ⟨-, calls, -⟩ := b.beginCreate_cases platform c
    · rw [h]; exact .same
    · rw [calls]; exact .same
  | finishCreate => rw [(edits_finishCreate ..).calls_eq rfl]; exact .same
  | beginTeardown => rw [(edits_beginTeardown ..).calls_eq rfl]; exact .same
  | finishTeardown => rw [(edits_finishTeardown ..).calls_eq rfl]; exact .same
  | beginControl cause =>
    next m op =>
    cases admitted : b.admitted m op.requiredRelease with
    | error e => rw [beginControl_of_refused admitted]; exact .same
    | ok machine =>
      rw [(beginControl_of_admitted admitted).2.2.1]
      exact .begun cause
  | complete =>
    next token error =>
    obtain ⟨h, -⟩ | ⟨n, named, h⟩ := b.receive_completion_cases token error
    · rw [h]; exact .same
    · rw [h]
      exact .decided named (by simp [Action.completes?])
  | openWindow admitted _ _ =>
    rw [(openWindow_of_admitted admitted _ _).1]
    exact .same
  | refuseWindow admitted _ _ =>
    next m a machine spec _ _ =>
    show CallsStep b act (b.openWindow m machine.window a spec).calls
    rw [(openWindow_of_admitted admitted _ _).1]
    exact .same
  | closeWindow => exact .same
  | registerNumber => exact .same
  | releaseToken =>
    next h =>
    unfold releaseToken Registry.release
    cases hv : b.registry.get? h with
    | none => exact .same
    | some v =>
      cases v with
      | completion n => exact .decided hv fun _ => rfl
      | _ => exact .same

/-- Every action changes the calls in one of the ways of `CallsStep`. -/
theorem callsStep_step (env : Environment) (b : Bridge) (act : Action) :
    CallsStep b act (b.step env act).calls := by
  obtain ⟨before, after, quiet, step, quiet'⟩ := b.stepsTo_step env act
  have h := callsStep_of_tokenStep step
  rw [quiet'.calls]
  generalize after.calls = calls at h
  cases h with
  | same => rw [quiet.calls]; exact .same
  | begun cause => rw [quiet.calls, quiet.registry]; exact .begun cause
  | decided named cause =>
    rw [quiet.registry] at named
    simp only [decideCall, modifyCall, quiet.calls]
    exact .decided named cause

/-! ## a call that waits -/

/-- A call waits until its completion fires or its token is released. -/
theorem Waits.step {b : Bridge} {n : Nat} {call : ControlCall} (w : b.Waits n call)
    (hb : b.registry.Records b.token?) (env : Environment) {act : Action}
    (unfired : act.completes? call.token = none) (kept : act ≠ .releaseToken call.token) :
    (b.step env act).Waits n call where
  found := by
    have h := b.callsStep_step env act
    generalize (b.step env act).calls = calls at h
    cases h with
    | same => exact w.found
    | begun _ => rw [List.getElem?_append_left (List.getElem?_eq_some_iff.1 w.found).1, w.found]
    | @decided k token o named cause =>
      have ne : k ≠ n := by
        rintro rfl
        have held := (hb.named token _ named rfl).symm.trans (hb.named _ _ w.named rfl)
        obtain rfl : token = call.token := Option.some.inj held
        exact kept (cause unfired)
      simp only [decideCall, modifyCall]
      rw [List.getElem?_modify_ne _ _ ne, w.found]
  undecided := w.undecided
  named := (tokenChange_step hb env act).keeps_completion hb w.named kept fun error e => by
    rw [e, Action.completes?, if_pos rfl] at unfired
    contradiction

/-- The first completion of a call that waits is accepted and decides the call. -/
theorem Waits.receive {b : Bridge} {n : Nat} {call : ControlCall} (w : b.Waits n call)
    (error : Option ForeignError) :
    b.receive (.completion call.token error) =
      ({ b with registry := b.registry.erase call.token }.decideCall n (.fired error), .ok ()) := by
  have resolved : b.registry.resolve .completion call.token = .ok (.completion n) :=
    Registry.resolve_eq_ok_iff.2 ⟨w.named, rfl⟩
  rw [Bridge.receive, if_neg (by simp)]
  simp only [Callback.kind, Callback.token, resolved, deliver, Value.owner, w.found,
    Option.bind_some, w.undecided]

/-- The first completion of a call that waits makes it return. -/
theorem Waits.returned {b : Bridge} {n : Nat} {call : ControlCall} (w : b.Waits n call)
    (hb : b.registry.Records b.token?) (error : Option ForeignError) :
    (b.receive (.completion call.token error)).1.Returned n call error := by
  rw [w.receive error]
  constructor
  · simp only [decideCall, modifyCall]
    rw [List.getElem?_modify_eq, w.found, Option.map_eq_map, Option.map_some,
      w.undecided]
    rfl
  · show (b.registry.erase call.token).get? call.token = none
    rw [Registry.get?_erase, if_pos rfl]
  · exact hb.bounded _ _ w.named

/-! ## a call that has returned -/

/-- A call that has returned is changed by nothing. -/
theorem Returned.step {b : Bridge} {n : Nat} {call : ControlCall} {error : Option ForeignError}
    (h : b.Returned n call error) (hb : b.registry.Records b.token?) (env : Environment)
    (act : Action) : (b.step env act).Returned n call error where
  found := by
    have step := b.callsStep_step env act
    generalize (b.step env act).calls = calls at step
    cases step with
    | same => exact h.found
    | begun _ => rw [List.getElem?_append_left (List.getElem?_eq_some_iff.1 h.found).1, h.found]
    | @decided k token o _ _ =>
      simp only [decideCall, modifyCall, List.getElem?_modify, h.found, Option.map_eq_map,
        Option.map_some]
      split <;> rfl
  unnamed := (tokenChange_step hb env act).unnamed h.issued h.unnamed
  issued := Nat.lt_of_lt_of_le h.issued (tokenChange_step hb env act).next_le

/-- Every further completion of the token is refused. -/
theorem Returned.receive {b : Bridge} {n : Nat} {call : ControlCall} {error : Option ForeignError}
    (h : b.Returned n call error) (again : Option ForeignError) :
    b.receive (.completion call.token again) = (b, .error (.handle (.notFound call.token))) := by
  rw [Bridge.receive, if_neg (by simp)]
  simp only [Callback.token, Registry.resolve, h.unnamed]

/-- A call that was completed returns what the runtime reported. -/
theorem Returned.callResult {b : Bridge} {n : Nat} {call : ControlCall}
    {error : Option ForeignError} (h : b.Returned n call error) :
    b.callResult? n = some (call.operation.result error) := by
  rw [callResult?, h.found]
  cases error <;> rfl

/-- A call that waits returns nothing yet. -/
theorem Waits.callResult {b : Bridge} {n : Nat} {call : ControlCall} (w : b.Waits n call) :
    b.callResult? n = none := by
  rw [callResult?, w.found, Option.bind_some, ControlCall.result?, w.undecided]
  rfl

/-! ## how a call begins -/

/-- A step begins a call. -/
structure Begins (b : Bridge) (env : Environment) (act : Action) (n : Nat) (call : ControlCall) :
    Prop where
  fresh : b.calls[n]? = none
  begun : (b.step env act).calls[n]? = some call

/-- A call that an operation begins is its own, and the runtime has the token. -/
theorem beginControl_begins {b : Bridge} {m n : Nat} {op : Operation} {call : ControlCall}
    (fresh : b.calls[n]? = none) (begun : (b.beginControl m op).1.calls[n]? = some call) :
    call = { machine := m, operation := op, token := ⟨b.registry.next⟩ } ∧
      (b.beginControl m op).2 = .ok n ∧
      (b.beginControl m op).1.registry.get? ⟨b.registry.next⟩ = some (.completion n) ∧
      ∃ machine, (b.beginControl m op).1.machines[m]? = some machine ∧
        machine.calls.getLast? = some (.perform op ⟨b.registry.next⟩) := by
  cases admitted : b.admitted m op.requiredRelease with
  | error e =>
    rw [beginControl_of_refused admitted, fresh] at begun
    contradiction
  | ok machine =>
    obtain ⟨number, registry, calls, -⟩ := beginControl_of_admitted admitted
    have last : n = b.calls.length := by
      rw [calls] at begun
      have lt := (List.getElem?_eq_some_iff.1 begun).1
      have ge := List.getElem?_eq_none_iff.1 fresh
      rw [List.length_append, List.length_singleton] at lt
      omega
    rw [last, calls, List.getElem?_concat_length] at begun
    refine ⟨(Option.some.inj begun).symm, last ▸ number, ?_,
      machine.record (.perform op ⟨b.registry.next⟩), ?_, ?_⟩
    · rw [registry, Registry.get?_register, if_pos rfl, last]
    · rw [beginControl, admitted]
      dsimp only
      rw [recordCall, getElem?_modifyMachine, if_pos rfl, (admitted_eq_ok_iff.1 admitted).1]
      rfl
    · rw [Machine.record, List.getLast?_concat]

/-- A call begins with its token in the hands of the runtime; whoever began it holds its
number. -/
theorem Begins.cases {b : Bridge} {env : Environment} {act : Action} {n : Nat} {call : ControlCall}
    (h : b.Begins env act n call) :
    (b.step env act).registry.get? call.token = some (.completion n) ∧ call.outcome = none ∧
      ((act = .control call.machine call.operation ∧
          (b.beginControl call.machine call.operation).2 = .ok n) ∨
        (call.operation = .stop ∧ ∃ s, act = .stop s ∧
          (b.step env act).stops[s]? = some { machine := call.machine, stage := .waiting n })) ∧
      ∃ machine, (b.step env act).machines[call.machine]? = some machine ∧
        machine.calls.getLast? = some (.perform call.operation call.token) := by
  obtain ⟨fresh, begun⟩ := h
  have cause : (∃ m op, act = .control m op) ∨ ∃ s, act = .stop s := by
    have step := b.callsStep_step env act
    generalize (b.step env act).calls = calls at begun step
    cases step with
    | same => rw [fresh] at begun; contradiction
    | begun cause => exact cause.imp_left fun e => ⟨_, _, e⟩
    | decided _ _ =>
      rw [decideCall, modifyCall, List.getElem?_modify, fresh] at begun
      contradiction
  obtain ⟨m, op, rfl⟩ | ⟨s, rfl⟩ := cause
  · obtain ⟨rfl, number, named, runtime⟩ := beginControl_begins fresh begun
    exact ⟨named, rfl, .inl ⟨rfl, number⟩, runtime⟩
  · have stopped := b.stopStep_stop env s
    rw [step] at begun ⊢
    generalize b.stop env s = b' at begun stopped ⊢
    cases stopped with
    | quiet quiet _ =>
      rw [quiet.calls, fresh] at begun
      contradiction
    | tearsDown tears =>
      obtain ⟨c, quiet, -, rfl⟩ := tears
      rw [(edits_beginTeardown ..).calls_eq rfl, quiet.calls, fresh] at begun
      contradiction
    | @begun m k number waits =>
      obtain ⟨rfl, number', named, runtime⟩ := beginControl_begins fresh begun
      obtain rfl : k = n := Except.ok.inj (number.symm.trans number')
      exact ⟨named, rfl, .inr ⟨rfl, s, rfl, waits⟩, runtime⟩

/-- A call that has just begun waits. -/
theorem Begins.waits {b : Bridge} {env : Environment} {act : Action} {n : Nat} {call : ControlCall}
    (h : b.Begins env act n call) : (b.step env act).Waits n call :=
  ⟨h.begun, h.cases.2.1, h.cases.1⟩

/-! ## tokens of different calls -/

/-- All calls have tokens that were issued, and no two of them the same. -/
structure DistinctCalls (b : Bridge) : Prop where
  issued : ∀ call ∈ b.calls, call.token.raw < b.registry.next
  nodup : (b.calls.map (·.token)).Nodup

/-- A decision leaves every call its token. -/
theorem tokens_decideCall (b : Bridge) (n : Nat) (o : Outcome) :
    (b.decideCall n o).calls.map (·.token) = b.calls.map (·.token) := by
  apply List.ext_getElem?
  intro i
  simp only [decideCall, modifyCall, List.getElem?_map, List.getElem?_modify]
  cases b.calls[i]? with
  | none => rfl
  | some call => simp only [Option.map_eq_map, Option.map_some]; split <;> rfl

/-- A step gives a new call a token that no other call has. -/
theorem DistinctCalls.step {b : Bridge} (h : b.DistinctCalls) (hb : b.registry.Records b.token?)
    (env : Environment) (act : Action) : (b.step env act).DistinctCalls := by
  have change := tokenChange_step hb env act
  have step := b.callsStep_step env act
  have issued : ∀ k ∈ b.calls.map (·.token), k.raw < (b.step env act).registry.next := by
    intro k hk
    obtain ⟨call, mem, rfl⟩ := List.mem_map.1 hk
    exact Nat.lt_of_lt_of_le (h.issued call mem) change.next_le
  suffices tokens : ((b.step env act).calls.map (·.token)).Nodup ∧
      ∀ k ∈ (b.step env act).calls.map (·.token), k.raw < (b.step env act).registry.next from
    ⟨fun call mem => tokens.2 _ (List.mem_map_of_mem mem), tokens.1⟩
  generalize after : (b.step env act).calls = calls at step
  cases step with
  | same => exact ⟨h.nodup, issued⟩
  | @begun m op _ =>
    have begins : b.Begins env act b.calls.length
        { machine := m, operation := op, token := ⟨b.registry.next⟩ } :=
      ⟨List.getElem?_eq_none (Nat.le_refl _), by rw [after, List.getElem?_concat_length]⟩
    rw [List.map_append, List.map_singleton]
    constructor
    · refine List.nodup_append.2 ⟨h.nodup, by simp, fun k hk j hj => ?_⟩
      obtain ⟨call, mem, rfl⟩ := List.mem_map.1 hk
      rw [List.mem_singleton.1 hj]
      intro e
      have lt := h.issued call mem
      rw [e] at lt
      exact Nat.lt_irrefl _ lt
    · intro k hk
      obtain hk | hk := List.mem_append.1 hk
      · exact issued k hk
      · rw [List.mem_singleton.1 hk]
        exact (change.records hb).bounded _ _ begins.cases.1
  | decided _ _ =>
    rw [tokens_decideCall]
    exact ⟨h.nodup, issued⟩

theorem Reachable.distinctCalls {b : Bridge} (h : b.Reachable) : b.DistinctCalls := by
  obtain ⟨actions, rfl⟩ := h
  induction actions using List.reverseRecOn with
  | nil => exact ⟨by simp [run], by simp [run]⟩
  | append_singleton before s ih =>
    rw [run_append]
    exact ih.step (records_run before) s.1 s.2

/-! ## runs -/

/-- A call waits for the first completion of its token and has returned what that reports
ever after. -/
def Follows (b : Bridge) (n : Nat) (call : ControlCall) : Option (Option ForeignError) → Prop
  | none => b.Waits n call
  | some error => b.Returned n call error

/-- As long as nobody else releases the token, a call follows the first completion of it. -/
theorem Follows.run {b : Bridge} (reachable : b.Reachable) {n : Nat} {call : ControlCall}
    (w : b.Waits n call) (after : List (Environment × Action))
    (kept : ∀ s ∈ after, s.2 ≠ .releaseToken call.token) :
    (b.run after).Follows n call (firstCompletion? call.token after) ∧
      (b.run after).Reachable := by
  induction after using List.reverseRecOn with
  | nil => exact ⟨w, reachable⟩
  | append_singleton after s ih =>
    obtain ⟨earlier, reached⟩ := ih fun t ht => kept t (List.mem_append_left [s] ht)
    have last : s.2 ≠ .releaseToken call.token := kept s (by simp)
    rw [run_append, firstCompletion?_append_singleton]
    refine ⟨?_, reached.step s.1 s.2⟩
    cases hf : firstCompletion? call.token after with
    | some error =>
      rw [hf] at earlier
      exact Returned.step earlier reached.records s.1 s.2
    | none =>
      rw [hf] at earlier
      rw [Option.none_or]
      cases hs : s.2.completes? call.token with
      | none => exact Waits.step earlier reached.records s.1 hs last
      | some error =>
        have e := Action.eq_of_completes hs
        show ((b.run after).step s.1 s.2).Returned n call error
        rw [e]
        exact Waits.returned earlier reached.records error

/-- What a call has returned at the end of such a run. -/
theorem Follows.callResult {b : Bridge} {n : Nat} {call : ControlCall}
    {fired : Option (Option ForeignError)} (h : b.Follows n call fired) :
    b.callResult? n = fired.map call.operation.result := by
  cases fired with
  | none => exact Waits.callResult h
  | some error => exact Returned.callResult h

/-- Two calls with the same token are the same call. -/
theorem DistinctCalls.eq {b : Bridge} (h : b.DistinctCalls) {i j : Nat} {x y : ControlCall}
    (hx : b.calls[i]? = some x) (hy : b.calls[j]? = some y) (same : x.token = y.token) : i = j := by
  have lt : i < (b.calls.map (·.token)).length := by
    rw [List.length_map]; exact (List.getElem?_eq_some_iff.1 hx).1
  apply (List.getElem?_inj lt h.nodup).1
  rw [List.getElem?_map, List.getElem?_map, hx, hy, Option.map_some, Option.map_some, same]

/-- Every call returns after the first completion of its own token, whatever else happens:
to other calls, with other tokens, or to its machine.  It returns what that completion
reports, with the name of its own operation, and then its token resolves to nothing and
every further completion of it is refused.  No other call ever has its token. -/
theorem returns_first_completion {b : Bridge} (reachable : b.Reachable) {env : Environment}
    {act : Action} {n : Nat} {call : ControlCall} (begins : b.Begins env act n call)
    (after : List (Environment × Action)) (kept : ∀ s ∈ after, s.2 ≠ .releaseToken call.token) :
    (act = .control call.machine call.operation ∧
        (b.beginControl call.machine call.operation).2 = .ok n ∨
      call.operation = .stop ∧ ∃ s, act = .stop s ∧
        (b.step env act).stops[s]? = some { machine := call.machine, stage := .waiting n }) ∧
    (∃ machine, (b.step env act).machines[call.machine]? = some machine ∧
      machine.calls.getLast? = some (.perform call.operation call.token)) ∧
    ((b.step env act).run after).callResult? n =
      (firstCompletion? call.token after).map call.operation.result ∧
    (firstCompletion? call.token after = none → ∀ error,
      (((b.step env act).run after).receive (.completion call.token error)).2 = .ok ()) ∧
    (firstCompletion? call.token after ≠ none →
      (∀ kind, ((b.step env act).run after).registry.resolve kind call.token =
        .error (.notFound call.token)) ∧
      ∀ error, ((b.step env act).run after).receive (.completion call.token error) =
        ((b.step env act).run after, .error (.handle (.notFound call.token)))) ∧
    ∀ k other, ((b.step env act).run after).calls[k]? = some other →
      other.token = call.token → k = n := by
  obtain ⟨-, -, caller, runtime⟩ := begins.cases
  obtain ⟨follows, reached⟩ := Follows.run (reachable.step env act) begins.waits after kept
  generalize (b.step env act).run after = final at follows reached ⊢
  refine ⟨caller, runtime, ?_⟩
  cases fired : firstCompletion? call.token after with
  | none =>
    rw [fired] at follows
    have waiting : final.Waits n call := follows
    refine ⟨waiting.callResult, fun _ error => by rw [waiting.receive error], by simp, ?_⟩
    exact fun k other found same => reached.distinctCalls.eq found waiting.found same
  | some error =>
    rw [fired] at follows
    have returned : final.Returned n call error := follows
    refine ⟨returned.callResult, by simp, fun _ => ⟨fun kind => ?_, returned.receive⟩, ?_⟩
    · rw [Registry.resolve, returned.unnamed]
    · exact fun k other found same => reached.distinctCalls.eq found returned.found same

/-- A start is refused by the runtime, which then reports success under the same token. -/
theorem returns_first_completion_of_start :
    (({} : Bridge).run creation).Begins .idle (.control 0 (.start {})) 0
        { machine := 0, operation := .start {}, token := ⟨3⟩ } ∧
      (((({} : Bridge).run creation).step .idle (.control 0 (.start {}))).run
        [(.idle, .receive (.completion ⟨1⟩ none)), (.idle, .finalize 0),
          (.idle, .receive (.completion ⟨3⟩ (some .unspecified))),
          (.idle, .receive (.completion ⟨3⟩ none))]).callResult? 0 =
        some (.error (.foreign "start" .unspecified)) := by
  have begins : (({} : Bridge).run creation).Begins .idle (.control 0 (.start {})) 0
      { machine := 0, operation := .start {}, token := ⟨3⟩ } := ⟨by decide, by decide⟩
  exact ⟨begins, (returns_first_completion ⟨_, rfl⟩ begins _ (by simp)).2.2.1⟩

end Bridge

end MachineBridge
