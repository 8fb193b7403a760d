import MachineBridge.Proofs.Callbacks

/-!
# MachineBridge.Proofs.Lifecycle.Creation

The creation of a machine as a whole.  The checks come first; then two tokens are registered, and
the runtime is called with them.  It may raise events with its tokens from inside the call, before
it is decided whether it succeeds (`Engine`).

Creation is all or nothing (`creates_wholly`): a creation that fails leaves every token as it was,
and the two that the runtime got name nothing; one that succeeds adds these two, and the streams of
the machine have already taken note of what was raised.
-/

namespace MachineBridge

/-- A runtime that is to create a machine. It gets the two persistent tokens, raises events with
these from inside the call, through any entry point, and fails or does not. -/
structure Engine where
  raises : Handle → Handle → List Callback
  failure : Handle → Handle → Option BridgeError
  own : ∀ state disconnect, ∀ e ∈ raises state disconnect, e.token = state ∨ e.token = disconnect

/-! ## events with the persistent tokens -/

/-- What an event does to the states of the machine with a token. -/
def StateStream.told (token : Handle) (s : StateStream) : Callback → StateStream
  | .stateChanged h code =>
    if h = token then
      match ExecutionState.ofCode? code with
      | some x => s.apply x
      | none => s
    else s
  | _ => s

/-- What an event does to the reports of lost attachments of a machine. -/
def DisconnectPipeline.told (p : DisconnectPipeline) : Callback → DisconnectPipeline
  | .disconnected h index error =>
    if h = p.token then p.push { index, cause := error.getD .unspecified } else p
  | .disconnectsEnded h => if h = p.token then p.closeInbox else p
  | _ => p

/-- A machine that was told of some events in its streams. -/
def Machine.told (x : Machine) (events : List Callback) : Machine :=
  { x with
    state := events.foldl (StateStream.told x.stateToken) x.state
    disconnect := events.foldl DisconnectPipeline.told x.disconnect }

/-- The states that some events report with a token; a code that there is no state of reports
none. -/
def statesOf (token : Handle) : List Callback → List ExecutionState
  | [] => []
  | .stateChanged h code :: rest =>
    if h = token then (ExecutionState.ofCode? code).toList ++ statesOf token rest
    else statesOf token rest
  | _ :: rest => statesOf token rest

/-- The lost attachments that some events report with a token, before they announce the end of
these reports. -/
def disconnectsOf (token : Handle) : List Callback → List DisconnectEvent
  | [] => []
  | .disconnected h index error :: rest =>
    if h = token then { index, cause := error.getD .unspecified } :: disconnectsOf token rest
    else disconnectsOf token rest
  | .disconnectsEnded h :: rest => if h = token then [] else disconnectsOf token rest
  | _ :: rest => disconnectsOf token rest

/-- The current state is the one that was reported last. -/
theorem current_told (token : Handle) (events : List Callback) (s : StateStream) :
    (events.foldl (StateStream.told token) s).current =
      ((statesOf token events).getLast?).getD s.current := by
  induction events generalizing s with
  | nil => rfl
  | cons e rest ih =>
    rw [List.foldl_cons, ih]
    cases e with
    | stateChanged h code =>
      rw [StateStream.told, statesOf]
      split
      · cases ExecutionState.ofCode? code with
        | none => rfl
        | some x =>
          simp only [Option.toList_some, List.singleton_append, List.getLast?_cons,
            Option.getD_some, StateStream.current_apply]
      · rfl
    | _ => rfl

/-- A pipeline that is told of an event keeps its token. -/
theorem token_told (p : DisconnectPipeline) (e : Callback) : (p.told e).token = p.token := by
  cases e with
  | disconnected h index error =>
    rw [DisconnectPipeline.told]
    split
    · rw [DisconnectPipeline.push_eq]
    · rfl
  | disconnectsEnded h =>
    rw [DisconnectPipeline.told]
    split <;> rfl
  | _ => rfl

theorem token_foldl_told (events : List Callback) (p : DisconnectPipeline) :
    (events.foldl DisconnectPipeline.told p).token = p.token := by
  induction events generalizing p with
  | nil => rfl
  | cons e rest ih => exact (ih _).trans (token_told p e)

/-- A closed inbox takes nothing more. -/
theorem inbox_told_of_closed {p : DisconnectPipeline} (closed : p.isOpen = false)
    (events : List Callback) : (events.foldl DisconnectPipeline.told p).inbox = p.inbox := by
  induction events generalizing p with
  | nil => rfl
  | cons e rest ih =>
    have same : (p.told e).isOpen = false ∧ (p.told e).inbox = p.inbox := by
      cases e with
      | disconnected h index error =>
        rw [DisconnectPipeline.told, DisconnectPipeline.push, closed]
        split <;> exact ⟨closed, rfl⟩
      | disconnectsEnded h =>
        rw [DisconnectPipeline.told]
        split
        · exact ⟨rfl, rfl⟩
        · exact ⟨closed, rfl⟩
      | _ => exact ⟨closed, rfl⟩
    rw [List.foldl_cons, ih same.1, same.2]

/-- An open inbox takes what is reported before the end is announced. -/
theorem inbox_told {p : DisconnectPipeline} (isOpen : p.isOpen = true) (events : List Callback) :
    (events.foldl DisconnectPipeline.told p).inbox = p.inbox ++ disconnectsOf p.token events := by
  induction events generalizing p with
  | nil => exact (List.append_nil _).symm
  | cons e rest ih =>
    rw [List.foldl_cons]
    cases e with
    | disconnected h index error =>
      rw [disconnectsOf, DisconnectPipeline.told]
      split
      · rw [DisconnectPipeline.push, if_pos isOpen]
        exact (ih (p := { p with inbox := p.inbox ++ [_] }) isOpen).trans (List.append_assoc _ _ _)
      · exact ih isOpen
    | disconnectsEnded h =>
      rw [disconnectsOf, DisconnectPipeline.told]
      split
      · rw [inbox_told_of_closed rfl]
        exact (List.append_nil _).symm
      · exact ih isOpen
    | _ => exact ih isOpen

namespace Bridge

variable {b : Bridge} {platform : PlatformVersion} {c : MachineConfiguration}

/-! ## the call of the runtime -/

/-- The machine that a creation begins with: the runtime is called with the two tokens. -/
def newborn (b : Bridge) (platform : PlatformVersion) (c : MachineConfiguration) : Machine where
  platform := platform
  configuration := c
  stateToken := ⟨b.registry.next⟩
  disconnect := { token := ⟨b.registry.next + 1⟩ }
  calls := [.create ⟨b.registry.next⟩ ⟨b.registry.next + 1⟩]

/-- The bridge with one more machine, whose two tokens are registered. -/
def withMachine (b : Bridge) (x : Machine) : Bridge :=
  { b with
    registry := ((b.registry.register (.stateStream b.machines.length)).1.register
      (.disconnectInbox b.machines.length)).1
    machines := b.machines ++ [x] }

/-- What passes the checks is begun. -/
theorem beginCreate_of_valid (b : Bridge) (allowed : 11 ≤ platform.major)
    (valid : c.validate = .ok ()) :
    b.beginCreate platform c = (b.withMachine (b.newborn platform c), .ok b.machines.length) := by
  have required : platform.require PlatformVersion.forMachines = .ok () :=
    PlatformVersion.require_eq_ok_iff.2 (decide_eq_true allowed)
  rw [beginCreate, required]
  simp only [valid]
  rfl

/-- A machine that is begun is registered under its two tokens, and nothing else changes. -/
theorem get?_withMachine (b : Bridge) (x : Machine) (h : Handle) :
    (b.withMachine x).registry.get? h =
      if h = ⟨b.registry.next + 1⟩ then some (.disconnectInbox b.machines.length)
      else if h = ⟨b.registry.next⟩ then some (.stateStream b.machines.length)
      else b.registry.get? h := by
  rw [withMachine, Registry.get?_register, Registry.get?_register, Registry.next_register]

/-- The two tokens are different. -/
theorem stateToken_ne (b : Bridge) : (⟨b.registry.next⟩ : Handle) ≠ ⟨b.registry.next + 1⟩ :=
  fun same => absurd (Handle.mk.inj same) (Nat.ne_of_lt (Nat.lt_succ_self _))

/-- The machine is the last of all. -/
theorem modifyMachine_withMachine (b : Bridge) (x : Machine) (f : Machine → Machine) :
    (b.withMachine x).modifyMachine b.machines.length f = b.withMachine (f x) := by
  rw [modifyMachine_of_found (show (b.withMachine x).machines[b.machines.length]? = some x from
    List.getElem?_concat_length)]
  simp [withMachine]

/-- An event whose token is of another kind changes nothing. -/
theorem receive_of_mismatch {e : Callback} {v : Value} (named : b.registry.get? e.token = some v)
    (other : v.kind ≠ e.kind) : (b.receive e).1 = b := by
  rw [receive]
  split
  · rfl
  · rw [Registry.resolve, named]
    simp only [if_neg other]

/-- An event whose token is of the right kind is delivered. -/
theorem receive_of_match {e : Callback} {v : Value} (named : b.registry.get? e.token = some v)
    (right : v.kind = e.kind) (reported : e.kind ≠ .windowBinding) :
    b.receive e = b.deliver v.owner e := by
  have other : e ≠ .windowClosed .invalid := by
    rintro rfl
    exact reported rfl
  rw [receive, if_neg other, Registry.resolve_eq_ok_iff.2 ⟨named, right⟩]

/-- An event with one of the two tokens reaches the streams of the machine, and nothing else. -/
theorem receive_withMachine (b : Bridge) {x : Machine} {e : Callback}
    (state : x.stateToken = ⟨b.registry.next⟩)
    (disconnect : x.disconnect.token = ⟨b.registry.next + 1⟩)
    (own : e.token = ⟨b.registry.next⟩ ∨ e.token = ⟨b.registry.next + 1⟩) :
    ((b.withMachine x).receive e).1 = b.withMachine (x.told [e]) := by
  have first : (b.withMachine x).registry.get? x.stateToken =
      some (.stateStream b.machines.length) := by
    rw [get?_withMachine, state, if_neg b.stateToken_ne, if_pos rfl]
  have second : (b.withMachine x).registry.get? x.disconnect.token =
      some (.disconnectInbox b.machines.length) := by
    rw [get?_withMachine, disconnect, if_pos rfl]
  have apart : x.stateToken ≠ x.disconnect.token := by
    rw [state, disconnect]
    exact b.stateToken_ne
  rw [← state, ← disconnect] at own
  cases e with
  | completion token | windowClosed token =>
    obtain own | own := own
    · exact receive_of_mismatch (own ▸ first) (by rintro ⟨⟩)
    · exact receive_of_mismatch (own ▸ second) (by rintro ⟨⟩)
  | stateChanged token code =>
    obtain rfl | rfl := own
    · rw [receive_of_match first rfl (by rintro ⟨⟩), deliver, Machine.told]
      simp only [List.foldl_cons, List.foldl_nil, StateStream.told, if_true,
        DisconnectPipeline.told]
      cases ExecutionState.ofCode? code with
      | none => rfl
      | some y => exact b.modifyMachine_withMachine x _
    · rw [receive_of_mismatch second (by rintro ⟨⟩), Machine.told]
      simp only [List.foldl_cons, List.foldl_nil, StateStream.told, if_neg apart.symm,
        DisconnectPipeline.told]
  | disconnected token | disconnectsEnded token =>
    obtain rfl | rfl := own
    · rw [receive_of_mismatch first (by rintro ⟨⟩), Machine.told]
      simp only [List.foldl_cons, List.foldl_nil, StateStream.told, if_neg apart,
        DisconnectPipeline.told]
    · rw [receive_of_match second rfl (by rintro ⟨⟩), deliver, Machine.told]
      simp only [List.foldl_cons, List.foldl_nil, StateStream.told, if_true,
        DisconnectPipeline.told]
      exact b.modifyMachine_withMachine x _

/-- What the runtime raises from inside the call is what the machine is told of. -/
theorem raises_withMachine (b : Bridge) {x : Machine} {events : List Callback}
    (state : x.stateToken = ⟨b.registry.next⟩)
    (disconnect : x.disconnect.token = ⟨b.registry.next + 1⟩)
    (own : ∀ e ∈ events, e.token = ⟨b.registry.next⟩ ∨ e.token = ⟨b.registry.next + 1⟩) :
    events.foldl (fun b e => (b.receive e).1) (b.withMachine x) =
      b.withMachine (x.told events) := by
  induction events generalizing x with
  | nil => rfl
  | cons e rest ih =>
    obtain ⟨here, later⟩ := List.forall_mem_cons.1 own
    rw [List.foldl_cons, b.receive_withMachine state disconnect here]
    exact ih (x := x.told [e]) state ((token_told _ e).trans disconnect) later

/-- Create a machine: the checks, the call of the runtime, the events that it raises before it
returns, and what it returns. -/
def create (b : Bridge) (platform : PlatformVersion) (c : MachineConfiguration)
    (engine : Engine) : Bridge × Except BridgeError Nat :=
  match b.beginCreate platform c with
  | (refused, .error e) => (refused, .error e)
  | (called, .ok m) =>
    let state : Handle := ⟨b.registry.next⟩
    let disconnect : Handle := ⟨b.registry.next + 1⟩
    let raised := (engine.raises state disconnect).foldl (fun b e => (b.receive e).1) called
    (raised.finishCreate m (engine.failure state disconnect),
      match engine.failure state disconnect with
      | none => .ok m
      | some e => .error e)

/-! ## the whole creation -/

/-- The machine once the runtime has raised its events. -/
def raised (b : Bridge) (platform : PlatformVersion) (c : MachineConfiguration) (engine : Engine) :
    Machine :=
  (b.newborn platform c).told (engine.raises ⟨b.registry.next⟩ ⟨b.registry.next + 1⟩)

/-- Whatever the runtime raises, the pipeline has the second token. -/
theorem disconnectToken_raised (b : Bridge) (platform : PlatformVersion)
    (c : MachineConfiguration) (engine : Engine) :
    (b.raised platform c engine).disconnect.token = ⟨b.registry.next + 1⟩ :=
  token_foldl_told _ _

/-- What passes the checks comes to what the runtime says. -/
theorem create_of_valid (b : Bridge) (engine : Engine) (allowed : 11 ≤ platform.major)
    (valid : c.validate = .ok ()) :
    b.create platform c engine =
      ((b.withMachine (b.raised platform c engine)).finishCreate b.machines.length
          (engine.failure ⟨b.registry.next⟩ ⟨b.registry.next + 1⟩),
        match engine.failure ⟨b.registry.next⟩ ⟨b.registry.next + 1⟩ with
        | none => .ok b.machines.length
        | some e => .error e) := by
  rw [create, b.beginCreate_of_valid allowed valid]
  simp only
  rw [b.raises_withMachine (x := b.newborn platform c) rfl rfl (engine.own _ _)]
  rfl

/-- A creation that succeeds leaves a live machine. -/
theorem finishCreate_withMachine {x : Machine} (creating : x.phase = .creating) :
    (b.withMachine x).finishCreate b.machines.length none =
      b.withMachine { x with phase := .live, references := 1 } := by
  have found : (b.withMachine x).machines[b.machines.length]? = some x :=
    List.getElem?_concat_length
  rw [finishCreate, found]
  simp only [creating, if_true]
  exact b.modifyMachine_withMachine x _

/-- A creation that fails takes both tokens away again. -/
theorem finishCreate_withMachine_of_failure {x : Machine} (creating : x.phase = .creating)
    (e : BridgeError) :
    (b.withMachine x).finishCreate b.machines.length (some e) =
      { b.withMachine { x with phase := .abandoned } with
        registry := ((b.withMachine x).registry.erase x.stateToken).erase x.disconnect.token } := by
  have found : (b.withMachine x).machines[b.machines.length]? = some x :=
    List.getElem?_concat_length
  rw [finishCreate, found]
  simp only [creating, if_true]
  exact congrArg (fun b' : Bridge => { b' with
    registry := ((b.withMachine x).registry.erase x.stateToken).erase x.disconnect.token })
    (b.modifyMachine_withMachine x _)

/-- An old platform is refused before anything is done. -/
theorem create_of_unsupported (b : Bridge) (c : MachineConfiguration) (engine : Engine)
    (old : platform.major < 11) :
    b.create platform c engine = (b, .error (.unsupportedOnPlatform 11 platform.text)) := by
  have refused : platform.require PlatformVersion.forMachines =
      .error (.unsupportedOnPlatform 11 platform.text) :=
    if_neg fun new => UInt32.not_le.2 old (of_decide_eq_true new)
  rw [create, beginCreate, refused]

/-- So is an invalid configuration. -/
theorem create_of_invalid (b : Bridge) (engine : Engine) {e : BridgeError}
    (allowed : 11 ≤ platform.major) (invalid : c.validate = .error e) :
    b.create platform c engine = (b, .error e) := by
  have required : platform.require PlatformVersion.forMachines = .ok () :=
    PlatformVersion.require_eq_ok_iff.2 (decide_eq_true allowed)
  rw [create, beginCreate, required]
  simp only [invalid]

/-- A creation that the runtime fails leaves the machine without its tokens. -/
theorem create_of_failure (b : Bridge) {engine : Engine} {e : BridgeError}
    (allowed : 11 ≤ platform.major) (valid : c.validate = .ok ())
    (failure : engine.failure ⟨b.registry.next⟩ ⟨b.registry.next + 1⟩ = some e) :
    b.create platform c engine =
      ({ b.withMachine { b.raised platform c engine with phase := .abandoned } with
          registry := ((b.withMachine (b.raised platform c engine)).registry.erase
            ⟨b.registry.next⟩).erase ⟨b.registry.next + 1⟩ }, .error e) := by
  rw [b.create_of_valid engine allowed valid, failure, finishCreate_withMachine_of_failure rfl,
    disconnectToken_raised]
  rfl

/-- A creation that the runtime carries out leaves the machine live. -/
theorem create_of_success (b : Bridge) {engine : Engine} (allowed : 11 ≤ platform.major)
    (valid : c.validate = .ok ())
    (success : engine.failure ⟨b.registry.next⟩ ⟨b.registry.next + 1⟩ = none) :
    b.create platform c engine =
      (b.withMachine { b.raised platform c engine with phase := .live, references := 1 },
        .ok b.machines.length) := by
  rw [b.create_of_valid engine allowed valid, success, finishCreate_withMachine rfl]

/-- A creation is a run of its steps. -/
theorem create_eq_run (b : Bridge) (platform : PlatformVersion) (c : MachineConfiguration)
    (engine : Engine) : ∃ actions, (b.create platform c engine).1 = b.run actions := by
  have raises (events : List Callback) (b : Bridge) :
      events.foldl (fun b e => (b.receive e).1) b =
        b.run (events.map fun e => (.idle, .receive e)) := by
    rw [run, List.foldl_map]
    rfl
  have first : (b.beginCreate platform c).1 = b.run [(.idle, .beginCreate platform c)] := rfl
  rw [create]
  split
  · next refused e begins =>
    rw [begins] at first
    exact ⟨_, first⟩
  · next called m begins =>
    rw [begins] at first
    let state : Handle := ⟨b.registry.next⟩
    let disconnect : Handle := ⟨b.registry.next + 1⟩
    refine ⟨[(.idle, .beginCreate platform c)] ++
      (engine.raises state disconnect).map (fun e => (.idle, .receive e)) ++
      [(.idle, .finishCreate m (engine.failure state disconnect))], ?_⟩
    rw [run_append, run_append, ← first, ← raises]
    rfl

section Reachable

variable (reachable : b.Reachable)

include reachable

/-- A token that was not issued yet names nothing. -/
theorem get?_of_unissued {h : Handle} (fresh : b.registry.next ≤ h.raw) :
    b.registry.get? h = none := by
  cases found : b.registry.get? h with
  | none => rfl
  | some v => exact absurd (reachable.records.bounded h v found) (Nat.not_lt.2 fresh)

/-- After a creation that failed every token names what it did. -/
theorem get?_create_of_failure {engine : Engine} {e : BridgeError} (allowed : 11 ≤ platform.major)
    (valid : c.validate = .ok ())
    (failure : engine.failure ⟨b.registry.next⟩ ⟨b.registry.next + 1⟩ = some e) (h : Handle) :
    (b.create platform c engine).1.registry.get? h = b.registry.get? h := by
  have fresh : b.registry.get? ⟨b.registry.next⟩ = none :=
    get?_of_unissued reachable (Nat.le_refl _)
  have freshNext : b.registry.get? ⟨b.registry.next + 1⟩ = none :=
    get?_of_unissued reachable (Nat.le_succ _)
  rw [b.create_of_failure allowed valid failure, Registry.get?_erase, Registry.get?_erase,
    get?_withMachine]
  by_cases second : h = ⟨b.registry.next + 1⟩
  · rw [if_pos second, second, freshNext]
  · rw [if_neg second, if_neg second]
    by_cases first : h = ⟨b.registry.next⟩
    · rw [if_pos first, first, fresh]
    · rw [if_neg first, if_neg first]

/-- The tokens that a runtime got for a creation that it failed never name anything. -/
theorem resolve_of_failure {engine : Engine} {e : BridgeError} (allowed : 11 ≤ platform.major)
    (valid : c.validate = .ok ())
    (failure : engine.failure ⟨b.registry.next⟩ ⟨b.registry.next + 1⟩ = some e) {h : Handle}
    (late : b.registry.next ≤ h.raw) (issued : h.raw < b.registry.next + 2)
    (more : List (Environment × Action)) (k : Kind) :
    ((b.create platform c engine).1.run more).registry.resolve k h = .error (.notFound h) := by
  obtain ⟨steps, runs⟩ := b.create_eq_run platform c engine
  have after : (b.create platform c engine).1.Reachable := runs ▸ reachable.after steps
  have next : (b.create platform c engine).1.registry.next = b.registry.next + 2 := by
    rw [b.create_of_failure allowed valid failure]
    rfl
  have unnamed := (get?_create_of_failure reachable allowed valid failure h).trans
    (get?_of_unissued reachable late)
  rw [Registry.resolve, get?_run_of_unnamed after (next ▸ issued) unnamed more]

end Reachable

/-- What a creation in a bridge comes to. -/
structure CreatesWholly (b : Bridge) (platform : PlatformVersion) (c : MachineConfiguration)
    (engine : Engine) : Prop where
  /-- An old platform is reported first. Nothing is changed, and the runtime is not called. -/
  unsupported : platform.major < 11 →
    b.create platform c engine = (b, .error (.unsupportedOnPlatform 11 platform.text))
  /-- An invalid configuration is reported next, in the same way. -/
  invalid : 11 ≤ platform.major → ∀ e, c.validate = .error e →
    b.create platform c engine = (b, .error e)
  /-- Otherwise the runtime is called, once, with two different tokens that named nothing. Beside
  the registry, only the new machine is changed. -/
  calls : 11 ≤ platform.major → c.validate = .ok () →
    let state : Handle := ⟨b.registry.next⟩
    let disconnect : Handle := ⟨b.registry.next + 1⟩
    let after := (b.create platform c engine).1
    state ≠ disconnect ∧ b.registry.get? state = none ∧ b.registry.get? disconnect = none ∧
      (∃ x, after.machines = b.machines ++ [x] ∧ x.calls = [.create state disconnect]) ∧
      { after with registry := b.registry, machines := b.machines } = b
  /-- If the runtime fails, so does the creation, with the error of the runtime. Every token names
  what it did, and the two that the runtime got will never name anything. -/
  fails : 11 ≤ platform.major → c.validate = .ok () →
    let state : Handle := ⟨b.registry.next⟩
    let disconnect : Handle := ⟨b.registry.next + 1⟩
    let after := (b.create platform c engine).1
    ∀ e, engine.failure state disconnect = some e →
      (b.create platform c engine).2 = .error e ∧
        (∀ h, after.registry.get? h = b.registry.get? h) ∧
        ∀ more k, (after.run more).registry.resolve k state = .error (.notFound state) ∧
          (after.run more).registry.resolve k disconnect = .error (.notFound disconnect)
  /-- If the runtime succeeds, so does the creation. The two tokens name the states and the lost
  attachments of the new machine, every other token names what it did, and what the runtime raised
  in the meantime has been taken note of. -/
  succeeds : 11 ≤ platform.major → c.validate = .ok () →
    let state : Handle := ⟨b.registry.next⟩
    let disconnect : Handle := ⟨b.registry.next + 1⟩
    let after := (b.create platform c engine).1
    let events := engine.raises state disconnect
    engine.failure state disconnect = none →
      (b.create platform c engine).2 = .ok b.machines.length ∧
        (∀ h, after.registry.get? h =
          if h = state then some (.stateStream b.machines.length)
          else if h = disconnect then some (.disconnectInbox b.machines.length)
          else b.registry.get? h) ∧
        ∃ x, after.machines = b.machines ++ [x] ∧ x.phase = .live ∧ x.platform = platform ∧
          x.configuration = c ∧ x.stateToken = state ∧ x.disconnect.token = disconnect ∧
          x.state.current = ((statesOf state events).getLast?).getD .stopped ∧
          x.disconnect.inbox = disconnectsOf disconnect events

/-- Creation is all or nothing, in every bridge that some run leads to. -/
theorem creates_wholly (actions : List (Environment × Action)) (platform : PlatformVersion)
    (c : MachineConfiguration) (engine : Engine) :
    (({} : Bridge).run actions).CreatesWholly platform c engine := by
  have reachable : (({} : Bridge).run actions).Reachable := ⟨actions, rfl⟩
  generalize ({} : Bridge).run actions = b at reachable
  refine
    { unsupported := b.create_of_unsupported c engine
      invalid := fun allowed e invalid => b.create_of_invalid engine allowed invalid
      calls := fun allowed valid => ?_
      fails := fun allowed valid => ?_, succeeds := fun allowed valid => ?_ }
  · refine ⟨b.stateToken_ne, get?_of_unissued reachable (Nat.le_refl _),
      get?_of_unissued reachable (Nat.le_succ _), ?_⟩
    rw [b.create_of_valid engine allowed valid]
    cases engine.failure ⟨b.registry.next⟩ ⟨b.registry.next + 1⟩ with
    | none =>
      rw [finishCreate_withMachine rfl]
      exact ⟨⟨_, rfl, rfl⟩, rfl⟩
    | some e =>
      rw [finishCreate_withMachine_of_failure rfl]
      exact ⟨⟨_, rfl, rfl⟩, rfl⟩
  · intro state disconnect created e failure
    refine ⟨by rw [b.create_of_failure allowed valid failure],
      get?_create_of_failure reachable allowed valid failure, fun more k => ⟨?_, ?_⟩⟩
    · exact resolve_of_failure reachable allowed valid failure (Nat.le_refl _)
        (Nat.lt_add_of_pos_right (Nat.succ_pos 1)) more k
    · exact resolve_of_failure reachable allowed valid failure (Nat.le_succ _)
        (Nat.lt_succ_self _) more k
  · intro state disconnect created events success
    have done := b.create_of_success allowed valid success
    refine ⟨by rw [done], fun h => ?_, _,
      congrArg (fun r => r.1.machines) done, rfl, rfl, rfl, rfl, ?_, ?_, ?_⟩
    · show (b.create platform c engine).1.registry.get? h = _
      rw [done, get?_withMachine]
      by_cases first : h = state
      · rw [if_pos first, if_pos first, if_neg (first ▸ b.stateToken_ne)]
      · rw [if_neg first, if_neg first]
    · exact b.disconnectToken_raised platform c engine
    · exact current_told state events {}
    · exact inbox_told rfl events

/-- A runtime that reports a state that there is none of and one that there is, mixes up its
tokens, and succeeds. -/
example :
    let engine : Engine :=
      { raises := fun state disconnect =>
          [.stateChanged state 42, .stateChanged state 4, .stateChanged disconnect 1]
        failure := fun _ _ => none
        own := by simp [Callback.token] }
    (({} : Bridge).create ⟨11, 0⟩ ⟨2, 4096, []⟩ engine).1.state? 0 = some .starting := by decide

end Bridge

end MachineBridge
