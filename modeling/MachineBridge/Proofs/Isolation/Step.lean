import MachineBridge.Proofs.Callbacks
import MachineBridge.Proofs.Isolation.View

/-!
# MachineBridge.Proofs.Isolation.Step

What a step of a machine does to the bridge.  `MachineStep` lists it: a machine is created, an
operation begins, a call is decided, or the machine changes and gives tokens back
(`machineStep_of_acts`).  Nothing else is touched, so the tokens that were given to machines
stay in order and apart, and the registry holds nothing but components of machines under tokens
of these machines (`Tidy`, `MachineStep.tidy`).
-/

namespace MachineBridge

/-- A machine keeps its tokens, and goes on without a window. -/
structure Machine.Keeps (x x' : Machine) : Prop where
  given : x'.given = x.given
  state : x'.stateToken = x.stateToken
  disconnect : x'.disconnect.token = x.disconnect.token
  window : x'.window.token = x.window.token ∨ x'.window.token = none

theorem Machine.Keeps.refl (x : Machine) : x.Keeps x := ⟨rfl, rfl, rfl, .inl rfl⟩

/-- A machine whose runtime was given its persistent tokens, and that has no window. -/
structure Machine.Plain (x : Machine) : Prop where
  state : x.stateToken ∈ x.given
  disconnect : x.disconnect.token ∈ x.given
  window : x.window.token = none

/-- A machine that keeps its tokens and has no window stays plain. -/
theorem Machine.Keeps.plain {x x' : Machine} (keeps : x.Keeps x') (plain : x.Plain) : x'.Plain where
  state := keeps.given ▸ keeps.state ▸ plain.state
  disconnect := keeps.given ▸ keeps.disconnect ▸ plain.disconnect
  window := keeps.window.elim (fun same => same.trans plain.window) id

theorem Machine.given_record (x : Machine) (c : RuntimeCall) :
    (x.record c).given = x.given ++ c.tokens := by
  rw [given, record, given, List.flatMap_append]
  simp

/-! ## steps that only change their machine -/

/-- A machine that was live has been released. -/
def Machine.tornDown (x : Machine) : Machine :=
  if x.isLive then { x with phase := .releasing, window := {} }.record .release else x

/-- What an action does to its machine, if it does nothing else and the machine has no window.
Which machine that is does not matter. -/
def Machine.after? : Action → Option (Machine → Machine)
  | .finishCreate _ none => some fun x =>
    if x.phase = .creating then { x with phase := .live, references := 1 } else x
  | .addReference _ => some fun x =>
    if x.references = 0 then x else { x with references := x.references + 1 }
  | .dropReference _ => some fun x =>
    let dropped := { x with references := x.references - 1 }
    if x.references = 1 then dropped.tornDown else dropped
  | .finalize _ => some Machine.tornDown
  | .requestStop _ => some fun x =>
    if x.gate PlatformVersion.anyRelease = .ok () then x.record .requestStop else x
  | .ask _ q => some fun x => if x.canAsk q then x.record (.query q) else x
  | .subscribeStates _ => some fun x => { x with state := x.state.subscribe.1 }
  | .receiveState _ i => some fun x =>
    { x with state := { x.state with channel := (x.state.channel.receive i).1 } }
  | .dropStates _ i => some fun x => { x with state := x.state.drop i }
  | .subscribeDisconnects _ => some fun x =>
    if x.gate PlatformVersion.forStopAndGraphics = .ok () then
      { x with disconnect := x.disconnect.subscribe.1 } else x
  | .receiveDisconnect _ i => some fun x =>
    { x with disconnect := { x.disconnect with outbound := (x.disconnect.outbound.receive i).1 } }
  | .dropDisconnects _ i => some fun x => { x with disconnect := x.disconnect.drop i }
  | .work _ => some fun x => { x with disconnect := x.disconnect.work x.configuration }
  | _ => none

namespace DisconnectPipeline

variable (p : DisconnectPipeline) (ρ : Handle → Handle)

theorem token_work (c : MachineConfiguration) : (p.work c).token = p.token := by
  unfold work
  repeat' split
  all_goals rfl

theorem token_push (e : DisconnectEvent) : (p.push e).token = p.token := by
  unfold push
  split <;> rfl

theorem token_shutdown : p.shutdown.token = p.token := by
  unfold shutdown
  split <;> rfl

/-- A worker does the same under another token. -/
theorem rename_work (c : MachineConfiguration) : (p.work c).rename ρ = (p.rename ρ).work c := by
  obtain ⟨token, isOpen, inbox, worker, outbound⟩ := p
  cases worker <;> cases inbox <;> cases isOpen <;> rfl

theorem rename_shutdown : p.shutdown.rename ρ = (p.rename ρ).shutdown := by
  obtain ⟨token, isOpen, inbox, worker, outbound⟩ := p
  cases worker <;> rfl

theorem rename_push (e : DisconnectEvent) : (p.push e).rename ρ = (p.rename ρ).push e := by
  obtain ⟨token, isOpen, inbox, worker, outbound⟩ := p
  cases isOpen <;> rfl

end DisconnectPipeline

namespace Machine

variable {f : Machine → Machine} {act : Action} (ρ : Handle → Handle)

theorem given_record_of_no_tokens (x : Machine) {c : RuntimeCall} (none : c.tokens = []) :
    (x.record c).given = x.given := by
  rw [given_record, none, List.append_nil]

theorem keeps_record (x : Machine) {c : RuntimeCall} (none : c.tokens = []) :
    x.Keeps (x.record c) :=
  ⟨x.given_record_of_no_tokens none, rfl, rfl, .inl rfl⟩

theorem keeps_tornDown (x : Machine) : x.Keeps x.tornDown := by
  unfold tornDown
  split
  · exact ⟨given_record_of_no_tokens _ rfl, rfl, rfl, .inr rfl⟩
  · exact .refl x

/-- A machine keeps its tokens in each of these steps. -/
theorem keeps_after (after : after? act = some f) (x : Machine) : x.Keeps (f x) := by
  have ite {c : Prop} [Decidable c] {y z : Machine} (first : x.Keeps y) (second : x.Keeps z) :
      x.Keeps (if c then y else z) := by
    split
    · exact first
    · exact second
  cases act with
  | finishCreate m failure =>
    cases failure <;> cases after
    exact ite ⟨rfl, rfl, rfl, .inl rfl⟩ (.refl x)
  | addReference m =>
    cases after
    exact ite (.refl x) ⟨rfl, rfl, rfl, .inl rfl⟩
  | dropReference m =>
    cases after
    have dropped := keeps_tornDown { x with references := x.references - 1 }
    exact ite ⟨dropped.given, dropped.state, dropped.disconnect, dropped.window⟩
      ⟨rfl, rfl, rfl, .inl rfl⟩
  | finalize m =>
    cases after
    exact x.keeps_tornDown
  | requestStop m | ask m q =>
    cases after
    exact ite (x.keeps_record rfl) (.refl x)
  | subscribeDisconnects m =>
    cases after
    exact ite ⟨rfl, rfl, rfl, .inl rfl⟩ (.refl x)
  | work m =>
    cases after
    exact ⟨rfl, rfl, x.disconnect.token_work x.configuration, .inl rfl⟩
  | subscribeStates | receiveState | dropStates | receiveDisconnect | dropDisconnects =>
    cases after
    exact ⟨rfl, rfl, rfl, .inl rfl⟩
  | _ => cases after

/-- A call that is noted is noted with other tokens. -/
theorem rename_record (x : Machine) (c : RuntimeCall) :
    (x.record c).rename ρ = (x.rename ρ).record (c.rename ρ) := by
  simp [record, rename]

theorem rename_tornDown (x : Machine) : x.tornDown.rename ρ = (x.rename ρ).tornDown := by
  rw [tornDown, apply_ite (Machine.rename ρ), rename_record]
  rfl

/-- What a step does to a machine does not depend on the tokens. -/
theorem rename_after (after : after? act = some f) (x : Machine) :
    (f x).rename ρ = f (x.rename ρ) := by
  cases act with
  | finishCreate m failure =>
    cases failure <;> cases after
    exact apply_ite (Machine.rename ρ) ..
  | addReference m | subscribeDisconnects m =>
    cases after
    exact apply_ite (Machine.rename ρ) ..
  | dropReference m =>
    cases after
    dsimp only
    rw [apply_ite (Machine.rename ρ), rename_tornDown]
    rfl
  | finalize m =>
    cases after
    exact x.rename_tornDown ρ
  | requestStop m | ask m q =>
    cases after
    dsimp only
    rw [apply_ite (Machine.rename ρ), rename_record]
    rfl
  | work m =>
    cases after
    exact congrArg (fun p => { x.rename ρ with disconnect := p })
      (x.disconnect.rename_work ρ x.configuration)
  | subscribeStates | receiveState | dropStates | receiveDisconnect | dropDisconnects =>
    cases after
    rfl
  | _ => cases after

/-- What an action makes of a machine does not depend on tokens. -/
theorem after?_alone (act : Action) : after? (act.alone ρ) = after? act := by
  cases act with
  | finishCreate m failure => cases failure <;> rfl
  | _ => rfl

end Machine

namespace Bridge

variable {b b' : Bridge} {env : Environment} {act : Action} {j k m n : Nat} {x x' : Machine}

/-! ## what is registered for machines -/

/-- The machine that a registered component belongs to. -/
def holder? (b : Bridge) : Value → Option Nat
  | .stateStream m => some m
  | .disconnectInbox m => some m
  | .completion n => (b.calls[n]?).map (·.machine)
  | _ => none

/-- Tokens are given to one machine each, in the order in which they are issued, and nothing
else has a token. -/
structure Tidy (b : Bridge) : Prop where
  ordered : ∀ m, (b.given m).Pairwise (·.raw < ·.raw)
  issued : ∀ m h, h ∈ b.given m → 0 < h.raw ∧ h.raw < b.registry.next
  apart : ∀ j m h, h ∈ b.given j → h ∈ b.given m → j = m
  started : 0 < b.registry.next
  plain : ∀ (m : Nat) x, b.machines[m]? = some x → x.Plain
  called : ∀ c ∈ b.calls, c.token ∈ b.given c.machine
  slots : ∀ s ∈ b.registry.slots, ∃ m, b.holder? s.2 = some m ∧ s.1 ∈ b.given m

theorem tidy_empty : ({} : Bridge).Tidy where
  ordered m := by simp [given]
  issued m h mem := by simp [given] at mem
  apart j m h mem := by simp [given] at mem
  started := Nat.one_pos
  plain m x found := by simp at found
  called c mem := by simp at mem
  slots s mem := by simp at mem

/-! ## the steps of a machine -/

/-- The registry without some tokens. -/
def erased (r : Registry) (hs : List Handle) : Registry := hs.foldl Registry.erase r

/-- The bridge with one more machine, which the runtime is asked to create. -/
def begun (b : Bridge) (platform : PlatformVersion) (c : MachineConfiguration) : Bridge :=
  let m := b.machines.length
  { b with
      registry := ((b.registry.register (.stateStream m)).1.register (.disconnectInbox m)).1
      machines := b.machines ++
        [{ platform, configuration := c, stateToken := ⟨b.registry.next⟩,
           disconnect := { token := ⟨b.registry.next + 1⟩ },
           calls := [.create ⟨b.registry.next⟩ ⟨b.registry.next + 1⟩] }] }

/-- The bridge with one more call, which the runtime of a machine is asked to perform. -/
def calling (b : Bridge) (m : Nat) (x : Machine) (op : Operation) : Bridge :=
  { b with
      registry := (b.registry.register (.completion b.calls.length)).1
      machines := b.machines.set m (x.record (.perform op ⟨b.registry.next⟩))
      calls := b.calls ++ [{ machine := m, operation := op, token := ⟨b.registry.next⟩ }] }

/-- What a step of a machine does. -/
inductive MachineStep (b : Bridge) (m : Nat) : Bridge → Prop
  | same : MachineStep b m b
  | changes {x x' : Machine} (hs : List Handle) (found : b.machines[m]? = some x)
      (own : ∀ h ∈ hs, h ∈ x.given) (keeps : x.Keeps x') :
      MachineStep b m { b with
        registry := erased b.registry hs
        machines := b.machines.set m x' }
  | begins {platform : PlatformVersion} {c : MachineConfiguration} (fresh : b.machines.length = m) :
      MachineStep b m (b.begun platform c)
  | calls {x : Machine} {op : Operation} (found : b.machines[m]? = some x) :
      MachineStep b m (b.calling m x op)
  | decides {h : Handle} {n : Nat} {call : ControlCall} {o : Outcome}
      (found : b.calls[n]? = some call) (own : call.machine = m) (given : h ∈ b.given m) :
      MachineStep b m ({ b with registry := b.registry.erase h }.decideCall n o)

/-- A machine changes and gives tokens back. -/
theorem machineStep_erased {f : Machine → Machine} (hs : List Handle)
    (found : b.machines[m]? = some x) (own : ∀ h ∈ hs, h ∈ x.given) (keeps : x.Keeps (f x)) :
    MachineStep b m ({ b with registry := erased b.registry hs }.modifyMachine m f) := by
  rw [modifyMachine_of_found (b := { b with registry := erased b.registry hs }) found]
  exact .changes hs found own keeps

/-- A change that gives no token back. -/
theorem machineStep_modifyMachine (b : Bridge) (m : Nat) {f : Machine → Machine}
    (keeps : ∀ x : Machine, x.Keeps (f x)) : MachineStep b m (b.modifyMachine m f) := by
  cases found : b.machines[m]? with
  | none =>
    rw [modifyMachine_of_absent found]
    exact .same
  | some x => exact machineStep_erased [] found (by simp) (keeps x)

/-! ## each step -/

/-- A machine that stays as it is. -/
theorem modifyMachine_of_fixed {f : Machine → Machine} (found : b.machines[m]? = some x)
    (fixed : f x = x) : b.modifyMachine m f = b := by
  rw [modifyMachine_congr (g := id) found fixed, modifyMachine, List.modify_id]

/-- A machine that is there is admitted to what its gate allows. -/
theorem admitted_of_found {required : UInt32} (found : b.machines[m]? = some x) :
    b.admitted m required = (x.gate required).map fun _ => x := by
  rw [admitted, found]

theorem admitted_of_absent {required : UInt32} (absent : b.machines[m]? = none) :
    b.admitted m required = .error .finalized := by
  rw [admitted, absent]

/-- Without a window, the teardown of a machine touches nothing else. -/
theorem beginTeardown_eq (windowless : ∀ x, b.machines[m]? = some x → x.window.token = none) :
    b.beginTeardown m = b.modifyMachine m Machine.tornDown := by
  unfold beginTeardown
  split
  · next absent => rw [modifyMachine_of_absent absent]
  · next x found =>
    rw [windowless x found]
    split
    · next live =>
      refine modifyMachine_congr found ?_
      rw [Machine.tornDown, if_pos live]
    · next dead =>
      refine (modifyMachine_of_fixed found ?_).symm
      rw [Machine.tornDown, if_neg dead]

theorem dropReference_eq (windowless : ∀ x, b.machines[m]? = some x → x.window.token = none) :
    b.dropReference m = b.modifyMachine m fun x =>
      let dropped := { x with references := x.references - 1 }
      if x.references = 1 then dropped.tornDown else dropped := by
  unfold dropReference
  split
  · next absent => rw [modifyMachine_of_absent absent]
  · next x found =>
    dsimp only
    split
    · next last =>
      rw [beginTeardown_eq, modifyMachine, modifyMachine, List.modify_modify_eq]
      · refine modifyMachine_congr found ?_
        simp [last]
      · intro y known
        rw [getElem?_modifyMachine, if_pos rfl, found] at known
        cases known
        exact windowless x found
    · next more =>
      refine modifyMachine_congr found ?_
      simp [more]

theorem finishCreate_eq (b : Bridge) (m : Nat) :
    b.finishCreate m none = b.modifyMachine m fun x =>
      if x.phase = .creating then { x with phase := .live, references := 1 } else x := by
  unfold finishCreate
  split
  · next absent => rw [modifyMachine_of_absent absent]
  · next x found =>
    split
    · next creating => exact modifyMachine_congr found (by simp [creating])
    · next dead => exact (modifyMachine_of_fixed found (by simp [dead])).symm

/-- The guest is asked to turn itself off if the machine is live, and that is noted. -/
theorem requestStop_eq (env : Environment) (b : Bridge) (m : Nat) :
    (b.requestStop env m).1 = b.modifyMachine m fun x =>
      if x.gate PlatformVersion.anyRelease = .ok () then x.record .requestStop else x := by
  unfold requestStop
  cases found : b.machines[m]? with
  | none => rw [modifyMachine_of_absent found, admitted_of_absent found]
  | some x =>
    rw [admitted_of_found found]
    cases passes : x.gate PlatformVersion.anyRelease with
    | error e => exact (modifyMachine_of_fixed found (by simp [passes])).symm
    | ok _ => exact modifyMachine_congr found (by simp [passes])

/-- A query that is possible is noted. -/
theorem ask_eq (env : Environment) (b : Bridge) (m : Nat) (q : Query) :
    (b.ask env m q).1 = b.modifyMachine m fun x =>
      if x.canAsk q then x.record (.query q) else x := by
  unfold ask
  split
  · next absent => rw [modifyMachine_of_absent absent]
  · next x found =>
    split
    · next can => exact modifyMachine_congr found (by simp [can])
    · next cannot => exact (modifyMachine_of_fixed found (by simp [cannot])).symm

/-- A subscription is taken if the gate allows it. -/
theorem subscribeDisconnects_eq (b : Bridge) (m : Nat) :
    (b.subscribeDisconnects m).1 = b.modifyMachine m fun x =>
      if x.gate PlatformVersion.forStopAndGraphics = .ok () then
        { x with disconnect := x.disconnect.subscribe.1 } else x := by
  unfold subscribeDisconnects
  cases found : b.machines[m]? with
  | none =>
    rw [admitted_of_absent found]
    exact (modifyMachine_of_absent found _).symm
  | some x =>
    rw [admitted_of_found found]
    cases passes : x.gate PlatformVersion.forStopAndGraphics with
    | error e => exact (modifyMachine_of_fixed found (by simp [passes])).symm
    | ok _ => exact modifyMachine_congr found (by simp [passes])

theorem subscribeStates_eq (b : Bridge) (m : Nat) :
    (b.subscribeStates m).1 = b.modifyMachine m fun x =>
      { x with state := x.state.subscribe.1 } := by
  unfold subscribeStates
  split
  · next absent => rw [modifyMachine_of_absent absent]
  · rfl

/-- A step that only changes its machine. -/
theorem step_of_after {f : Machine → Machine} (env : Environment)
    (windowless : ∀ x, b.machines[m]? = some x → x.window.token = none)
    (acts : b.acts m act = true) (after : Machine.after? act = some f) :
    b.step env act = b.modifyMachine m f := by
  cases act with
  | finishCreate k failure =>
    cases failure <;> cases after
    cases beq_iff_eq.1 acts
    exact b.finishCreate_eq m
  | dropReference k =>
    cases after
    cases beq_iff_eq.1 acts
    exact dropReference_eq windowless
  | finalize k =>
    cases after
    cases beq_iff_eq.1 acts
    exact beginTeardown_eq windowless
  | requestStop k =>
    cases after
    cases beq_iff_eq.1 acts
    exact b.requestStop_eq env m
  | ask k q =>
    cases after
    cases beq_iff_eq.1 acts
    exact b.ask_eq env m q
  | subscribeDisconnects k =>
    cases after
    cases beq_iff_eq.1 acts
    exact b.subscribeDisconnects_eq m
  | subscribeStates k =>
    cases after
    cases beq_iff_eq.1 acts
    exact b.subscribeStates_eq m
  | receiveState k i =>
    cases after
    cases beq_iff_eq.1 acts
    exact b.receiveState_eq m i
  | receiveDisconnect k i =>
    cases after
    cases beq_iff_eq.1 acts
    exact b.receiveDisconnect_eq m i
  | addReference k | dropStates k i | dropDisconnects k i | work k =>
    cases after
    cases beq_iff_eq.1 acts
    rfl
  | _ => cases after

/-! ## the steps that touch the registry -/

/-- To begin a creation is a step of the new machine. -/
theorem machineStep_beginCreate (platform : PlatformVersion) (c : MachineConfiguration)
    (fresh : b.machines.length = m) : MachineStep b m (b.beginCreate platform c).1 := by
  subst fresh
  unfold beginCreate
  split
  · exact .same
  · split
    · exact .same
    · exact .begins rfl

/-- A creation that fails is a step of its machine. -/
theorem machineStep_failCreate (tidy : b.Tidy) (m : Nat) (e : BridgeError) :
    MachineStep b m (b.finishCreate m (some e)) := by
  unfold finishCreate
  split
  · exact .same
  · next x found =>
    split
    · have plain := tidy.plain m x found
      exact machineStep_erased [x.stateToken, x.disconnect.token] found
        (by simp [plain.state, plain.disconnect])
        ⟨rfl, rfl, rfl, .inl rfl⟩
    · exact .same

/-- A teardown that ends is a step of its machine. -/
theorem machineStep_finishTeardown (tidy : b.Tidy) (m : Nat) :
    MachineStep b m (b.finishTeardown m) := by
  unfold finishTeardown
  split
  · exact .same
  · next x found =>
    split
    · have plain := tidy.plain m x found
      exact machineStep_erased [x.disconnect.token, x.stateToken] found
        (by simp [plain.state, plain.disconnect])
        ⟨rfl, rfl, x.disconnect.token_shutdown, .inl rfl⟩
    · exact .same

/-- A call is made on a machine that is admitted to it. -/
theorem beginControl_eq (b : Bridge) (m : Nat) (op : Operation) :
    b.beginControl m op = match b.admitted m op.requiredRelease with
      | .error e => (b, .error e)
      | .ok x => (b.calling m x op, .ok b.calls.length) := by
  unfold beginControl
  cases admitted : b.admitted m op.requiredRelease with
  | error e => rfl
  | ok x =>
    have found := (admitted_eq_ok_iff.1 admitted).1
    exact congrArg (·, _) (modifyMachine_of_found (b := { b with
      registry := (b.registry.register (.completion b.calls.length)).1
      calls := b.calls ++ [{ machine := m, operation := op, token := ⟨b.registry.next⟩ }] })
      found _)

/-- To begin a call is a step of its machine. -/
theorem machineStep_beginControl (b : Bridge) (m : Nat) (op : Operation) :
    MachineStep b m (b.beginControl m op).1 := by
  rw [beginControl_eq]
  split
  · exact .same
  · next x admitted => exact .calls (admitted_eq_ok_iff.1 admitted).1

/-- A token of a machine names components of this machine only. -/
theorem Tidy.holder (tidy : b.Tidy) {h : Handle} {v : Value} (mem : h ∈ b.given m)
    (named : b.registry.get? h = some v) : b.holder? v = some m := by
  obtain ⟨before, after, slots, -⟩ := List.lookup_eq_some_iff.1 named
  obtain ⟨k, holds, own⟩ := tidy.slots (h, v) (by simp [slots])
  rw [holds, tidy.apart k m h own mem]

/-- To deliver a report is a step of the machine it is for. -/
theorem machineStep_deliver {e : Callback} {v : Value} (mem : e.token ∈ b.given m)
    (holds : b.holder? v = some m) (kind : v.kind = e.kind) :
    MachineStep b m (b.deliver v.owner e).1 := by
  cases e with
  | completion token error =>
    cases v <;> cases kind
    next n =>
    obtain ⟨call, found, own⟩ := Option.map_eq_some_iff.1 holds
    rw [deliver]
    split
    · exact .same
    · exact .decides found own mem
  | stateChanged token code =>
    cases v <;> cases kind
    cases holds
    rw [deliver]
    split
    · exact .same
    · exact b.machineStep_modifyMachine m fun x => ⟨rfl, rfl, rfl, .inl rfl⟩
  | disconnected token index error =>
    cases v <;> cases kind
    cases holds
    exact b.machineStep_modifyMachine m fun x => ⟨rfl, rfl, x.disconnect.token_push _, .inl rfl⟩
  | disconnectsEnded token =>
    cases v <;> cases kind
    cases holds
    exact b.machineStep_modifyMachine m fun x => ⟨rfl, rfl, rfl, .inl rfl⟩
  | windowClosed token =>
    cases v <;> cases kind
    cases holds

/-- To receive a report is a step of the machine whose token it names. -/
theorem machineStep_receive (tidy : b.Tidy) {e : Callback} (mem : e.token ∈ b.given m) :
    MachineStep b m (b.receive e).1 := by
  unfold receive
  split
  · exact .same
  · split
    · exact .same
    · next v resolved =>
      obtain ⟨named, kind⟩ := Registry.resolve_eq_ok_iff.1 resolved
      exact machineStep_deliver mem (tidy.holder mem named) kind

/-- Each step of a machine is a `MachineStep`. -/
theorem machineStep_of_acts (tidy : b.Tidy) (env : Environment) (acts : b.acts m act = true) :
    MachineStep b m (b.step env act) := by
  cases after : Machine.after? act with
  | some f =>
    rw [step_of_after env (fun x found => (tidy.plain m x found).window) acts after]
    exact b.machineStep_modifyMachine m (Machine.keeps_after after)
  | none =>
    cases act with
    | beginCreate platform c => exact machineStep_beginCreate platform c (beq_iff_eq.1 acts)
    | finishCreate k failure =>
      cases failure with
      | none => cases after
      | some e =>
        cases beq_iff_eq.1 acts
        exact machineStep_failCreate tidy m e
    | finishTeardown k =>
      cases beq_iff_eq.1 acts
      exact machineStep_finishTeardown tidy m
    | control k op =>
      cases beq_iff_eq.1 acts
      exact b.machineStep_beginControl m op
    | receive e => exact machineStep_receive tidy (of_decide_eq_true acts)
    | _ => first | cases acts | cases after

end Bridge

end MachineBridge
