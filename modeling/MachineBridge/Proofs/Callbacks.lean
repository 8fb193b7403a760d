import MachineBridge.Proofs.Lifecycle.Teardown
import Mathlib.Data.List.Basic
import Mathlib.Data.List.Induction

/-!
# MachineBridge.Proofs.Callbacks

How far a report of the runtime reaches.  Its token comes from outside and may be anything: it
may name nothing, or a component of another kind, or the component of another machine than
whoever sends the report believes.

A report is refused for its token or for its code, in that order, and then it changes nothing
(`Rejects`).  One that is accepted changes the component that has its token, in one part, and
nothing else (`Delivers`), and these are the only two ways (`contains_receive`).
-/

namespace MachineBridge

namespace Bridge

variable {b : Bridge} {e : Callback}

/-- Why a report is refused: its token names nothing, or something of another kind, or the
token is right and there is no state of the code. -/
inductive Rejects (b : Bridge) : Callback → CallbackError → Prop
  | notFound {e : Callback} (unnamed : b.registry.get? e.token = none)
      (reported : e ≠ .windowClosed .invalid) : Rejects b e (.handle (.notFound e.token))
  | typeMismatch {e : Callback} {v : Value} (named : b.registry.get? e.token = some v)
      (other : v.kind ≠ e.kind) :
      Rejects b e (.handle (.typeMismatch e.token e.kind.name v.kind.name))
  | unknownState {token : Handle} {code : Int32} {m : Nat}
      (named : b.registry.get? token = some (.stateStream m))
      (unknown : ExecutionState.ofCode? code = none) :
      Rejects b (.stateChanged token code) (.unknownState code)

/-- What a report does that is accepted, to the component that its token names. -/
inductive Delivers (b : Bridge) : Callback → Bridge → Prop
  /-- A call that waits is decided, and its token released. -/
  | completion {token : Handle} {error : Option ForeignError} {n : Nat} {call : ControlCall}
      (named : b.registry.get? token = some (.completion n)) (found : b.calls[n]? = some call)
      (own : call.token = token) (waits : call.outcome = none) :
      Delivers b (.completion token error) { b with
        registry := b.registry.erase token
        calls := b.calls.set n { call with outcome := some (.fired error) } }
  /-- A machine goes into a state, which is published. -/
  | stateChanged {token : Handle} {code : Int32} {m : Nat} {machine : Machine}
      {state : ExecutionState} (named : b.registry.get? token = some (.stateStream m))
      (found : b.machines[m]? = some machine) (own : machine.stateToken = token)
      (known : ExecutionState.ofCode? code = some state) :
      Delivers b (.stateChanged token code) { b with
        machines := b.machines.set m { machine with
          state := { current := state, channel := machine.state.channel.publish state } } }
  /-- An event is put into the inbox of a machine, unless that is closed. -/
  | disconnected {token : Handle} {index : Int32} {error : Option ForeignError} {m : Nat}
      {machine : Machine} (named : b.registry.get? token = some (.disconnectInbox m))
      (found : b.machines[m]? = some machine) (own : machine.disconnect.token = token) :
      Delivers b (.disconnected token index error) { b with
        machines := b.machines.set m { machine with
          disconnect := { machine.disconnect with
            inbox := machine.disconnect.inbox ++ if machine.disconnect.isOpen
              then [{ index, cause := error.getD .unspecified }] else [] } } }
  /-- The inbox of a machine is closed. -/
  | disconnectsEnded {token : Handle} {m : Nat} {machine : Machine}
      (named : b.registry.get? token = some (.disconnectInbox m))
      (found : b.machines[m]? = some machine) (own : machine.disconnect.token = token) :
      Delivers b (.disconnectsEnded token) { b with
        machines := b.machines.set m { machine with
          disconnect := { machine.disconnect with isOpen := false } } }
  /-- The window of a machine is marked closed. -/
  | windowClosed {token : Handle} {m : Nat} {machine : Machine}
      (named : b.registry.get? token = some (.windowBinding m))
      (found : b.machines[m]? = some machine) (own : machine.window.token = some token) :
      Delivers b (.windowClosed token) { b with
        machines := b.machines.set m { machine with
          window := { machine.window with isOpen := false } } }

/-! ## the reserved token -/

/-- No step registers anything under the reserved token. -/
theorem unreserved_of_change {act : Action} {r r' : Registry} {token token' : Value → Option Handle}
    (change : TokenChange act r token r' token') (started : 0 < r.next)
    (unreserved : r.get? .invalid = none) : r'.get? .invalid = none := by
  have register {r : Registry} (started : 0 < r.next) (unreserved : r.get? .invalid = none)
      (u : Value) : (r.register u).1.get? .invalid = none := by
    rw [Registry.get?_register, if_neg, unreserved]
    intro reserved
    rw [← Handle.mk.inj reserved] at started
    exact Nat.lt_irrefl 0 started
  have erase {r : Registry} (unreserved : r.get? .invalid = none) (h : Handle) :
      (r.erase h).get? .invalid = none := by
    rw [Registry.get?_erase, unreserved, ite_self]
  cases change with
  | refl => exact unreserved
  | register | registerNumber => exact register started unreserved _
  | registerBoth => exact register (Nat.succ_pos _) (register started unreserved _) _
  | withdraw | erase => exact erase unreserved _
  | withdrawBoth => exact erase (erase unreserved _) _

theorem unreserved_run (actions : List (Environment × Action)) :
    (({} : Bridge).run actions).registry.get? .invalid = none := by
  induction actions using List.reverseRecOn with
  | nil => rfl
  | append_singleton before s ih =>
    have records := records_run before
    rw [run_append]
    exact unreserved_of_change (tokenChange_step records s.1 s.2) records.started ih

/-! ## what is refused -/

theorem Rejects.receive {cause : CallbackError} (h : b.Rejects e cause)
    (unreserved : b.registry.get? .invalid = none) : b.receive e = (b, .error cause) := by
  cases h with
  | notFound unnamed reported => rw [Bridge.receive, if_neg reported, Registry.resolve, unnamed]
  | typeMismatch named other =>
    have reported : e ≠ .windowClosed .invalid := by
      rintro rfl
      cases unreserved.symm.trans named
    rw [Bridge.receive, if_neg reported, Registry.resolve, named]
    simp only [if_neg other]
  | unknownState named unknown =>
    rw [Bridge.receive, if_neg (by simp)]
    simp only [Callback.kind, Callback.token, Registry.resolve, named, Value.kind, if_true, deliver,
      unknown]

/-! ## what is accepted -/

/-- A machine that there is gets a new value. -/
theorem modifyMachine_of_found {m : Nat} {machine : Machine} (found : b.machines[m]? = some machine)
    (f : Machine → Machine) :
    b.modifyMachine m f = { b with machines := b.machines.set m (f machine) } := by
  rw [modifyMachine, List.modify_eq_set_getElem?, found]
  rfl

/-- A token that names a call is the token of the call, which waits. -/
theorem call_of_named {token : Handle} {n : Nat} (reachable : b.Reachable)
    (named : b.registry.get? token = some (.completion n)) :
    ∃ call, b.calls[n]? = some call ∧ call.token = token ∧ call.outcome = none := by
  have owned := reachable.records.named token _ named rfl
  obtain ⟨call, found, held⟩ := Option.bind_eq_some_iff.1 owned
  obtain ⟨waits, own⟩ := Option.ite_none_right_eq_some.1 held
  exact ⟨call, found, Option.some.inj own, waits⟩

/-- A persistent token leads to the machine that got it. -/
theorem machine_of_named {p : Persistent} {token : Handle} {m : Nat} (reachable : b.Reachable)
    (named : b.registry.get? token = some (p.value m)) :
    ∃ machine, b.machines[m]? = some machine ∧ p.token machine.skeleton = token := by
  obtain ⟨s, known, own⟩ := reachable.holder named
  obtain ⟨machine, found, rfl⟩ := Option.map_eq_some_iff.1 known
  exact ⟨machine, found, own⟩

/-- A token that names a window is the token of the window. -/
theorem window_of_named {token : Handle} {m : Nat} (reachable : b.Reachable)
    (named : b.registry.get? token = some (.windowBinding m)) :
    ∃ machine, b.machines[m]? = some machine ∧ machine.window.token = some token := by
  have owned := reachable.records.named token _ named rfl
  obtain ⟨s, known, own⟩ := Option.bind_eq_some_iff.1 owned
  obtain ⟨machine, found, rfl⟩ := Option.map_eq_some_iff.1 known
  exact ⟨machine, found, own⟩

/-- A report whose token is of the right kind is delivered, if there is a state of the code. -/
theorem receive_of_kind (reachable : b.Reachable) {v : Value}
    (named : b.registry.get? e.token = some v) (kind : v.kind = e.kind)
    (reported : e ≠ .windowClosed .invalid) :
    (∃ cause, b.Rejects e cause) ∨ ∃ b', b.Delivers e b' ∧ b.receive e = (b', .ok ()) := by
  have resolved : b.registry.resolve e.kind e.token = .ok v :=
    Registry.resolve_eq_ok_iff.2 ⟨named, kind⟩
  cases e with
  | completion token error =>
    cases v <;> cases kind
    next n =>
    obtain ⟨call, found, own, waits⟩ := call_of_named reachable named
    refine .inr ⟨_, .completion named found own waits, ?_⟩
    rw [receive, if_neg reported, resolved]
    simp only [Value.owner, deliver, found, Option.bind_some, waits, decideCall, modifyCall,
      List.modify_eq_set_getElem?, Option.map_eq_map, Option.map_some, Option.getD_some,
      Option.none_or]
  | stateChanged token code =>
    cases v <;> cases kind
    next m =>
    obtain ⟨machine, found, own⟩ := machine_of_named (p := .state) reachable named
    cases known : ExecutionState.ofCode? code with
    | none => exact .inl ⟨_, .unknownState named known⟩
    | some state =>
      refine .inr ⟨_, .stateChanged named found own known, ?_⟩
      rw [receive, if_neg reported, resolved]
      simp only [Value.owner, deliver, known, modifyMachine_of_found found, StateStream.apply]
  | disconnected token index error =>
    cases v <;> cases kind
    next m =>
    obtain ⟨machine, found, own⟩ := machine_of_named (p := .disconnect) reachable named
    refine .inr ⟨_, .disconnected named found own, ?_⟩
    rw [receive, if_neg reported, resolved]
    simp only [Value.owner, deliver, modifyMachine_of_found found, DisconnectPipeline.push_eq]
    rfl
  | disconnectsEnded token =>
    cases v <;> cases kind
    next m =>
    obtain ⟨machine, found, own⟩ := machine_of_named (p := .disconnect) reachable named
    refine .inr ⟨_, .disconnectsEnded named found own, ?_⟩
    rw [receive, if_neg reported, resolved]
    simp only [Value.owner, deliver, modifyMachine_of_found found, DisconnectPipeline.closeInbox]
  | windowClosed token =>
    cases v <;> cases kind
    next m =>
    obtain ⟨machine, found, own⟩ := window_of_named reachable named
    refine .inr ⟨_, .windowClosed named found own, ?_⟩
    rw [receive, if_neg reported, resolved]
    simp only [Value.owner, deliver, modifyMachine_of_found found, WindowState.closed]

/-- A report is refused, or it is delivered to the component that its token names. -/
theorem receive_cases (reachable : b.Reachable) (reported : e ≠ .windowClosed .invalid) :
    (∃ cause, b.Rejects e cause) ∨ ∃ b', b.Delivers e b' ∧ b.receive e = (b', .ok ()) := by
  cases named : b.registry.get? e.token with
  | none => exact .inl ⟨_, .notFound named reported⟩
  | some v =>
    by_cases kind : v.kind = e.kind
    · exact receive_of_kind reachable named kind reported
    · exact .inl ⟨_, .typeMismatch named kind⟩

/-! ## every report in every reachable state -/

/-- A report does what it should, and nothing else. -/
structure Contains (b : Bridge) (e : Callback) : Prop where
  /-- When a report is refused, and what is said. -/
  refuses : ∀ cause, (b.receive e).2 = .error cause ↔ b.Rejects e cause
  /-- A report that is refused changes nothing. -/
  unchanged : ∀ cause, (b.receive e).2 = .error cause → (b.receive e).1 = b
  /-- A report that is accepted goes to the component that its token names. -/
  delivers : (b.receive e).2 = .ok () → e ≠ .windowClosed .invalid → b.Delivers e (b.receive e).1
  /-- The reserved token names nothing, and only the report of a closed window ignores that. -/
  reserved : b.registry.get? .invalid = none
  ignores : b.receive (.windowClosed .invalid) = (b, .ok ())

/-- A report does what it should in every bridge that some run leads to. -/
theorem contains_receive (actions : List (Environment × Action)) (e : Callback) :
    (({} : Bridge).run actions).Contains e := by
  have reachable : (({} : Bridge).run actions).Reachable := ⟨actions, rfl⟩
  have unreserved := unreserved_run actions
  generalize ({} : Bridge).run actions = b at reachable unreserved ⊢
  have ignores : b.receive (.windowClosed .invalid) = (b, .ok ()) := if_pos rfl
  have rejects {cause : CallbackError} (error : (b.receive e).2 = .error cause) :
      b.Rejects e cause := by
    have reported : e ≠ .windowClosed .invalid := by
      rintro rfl
      rw [ignores] at error
      cases error
    obtain ⟨other, rejects⟩ | ⟨b', -, accepted⟩ := receive_cases reachable reported
    · rw [rejects.receive unreserved] at error
      cases error
      exact rejects
    · rw [accepted] at error
      cases error
  exact
    { refuses := fun cause => ⟨rejects, fun h => by rw [h.receive unreserved]⟩
      unchanged := fun cause error => by rw [(rejects error).receive unreserved]
      delivers := fun ok reported => by
        obtain ⟨cause, h⟩ | ⟨b', delivers, accepted⟩ := receive_cases reachable reported
        · rw [h.receive unreserved] at ok
          cases ok
        · rwa [accepted]
      reserved := unreserved
      ignores }

/-- A code that there is no state of is reported only for a token that is right. -/
example : ((({} : Bridge).run creation).receive (.stateChanged ⟨7⟩ 42)).2 =
      .error (.handle (.notFound ⟨7⟩)) ∧
    ((({} : Bridge).run creation).receive (.stateChanged ⟨1⟩ 42)).2 =
      .error (.unknownState 42) := by decide

end Bridge

end MachineBridge
