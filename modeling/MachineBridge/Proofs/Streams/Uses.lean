import MachineBridge.Proofs.Streams.Listening
import MachineBridge.Proofs.Streams.Pipeline
import MachineBridge.Proofs.Tokens.Persistent

/-!
# MachineBridge.Proofs.Streams.Uses

What the steps of the bridge do with the pipelines for lost attachments.  Each step uses the
pipeline of a machine once or not at all, and a pipeline changes by its uses only
(`pipeline?_step`), so what is known of a pipeline on its own holds of every machine.
-/

namespace MachineBridge

open DisconnectPipeline (Use)

/-- What a report of the runtime does with the pipeline that it is for.  A missing error is
reported as an unspecified one. -/
def Callback.use? : Callback → Option Use
  | .disconnected _ index error => some (.report { index, cause := error.getD .unspecified })
  | .disconnectsEnded _ => some .endReports
  | _ => none

namespace Bridge

/-- Whether a report is accepted that has the token of the pipeline of a machine. -/
def reaches (b : Bridge) (m : Nat) (e : Callback) : Bool :=
  match b.machines[m]? with
  | some machine => machine.disconnect.token == e.token && (b.receive e).2.isOk
  | none => false

/-- What an action does with the pipeline of a machine. -/
def pipelineUse? (b : Bridge) (m : Nat) : Action → Option Use
  | .receive e => if b.reaches m e then e.use? else none
  | .finishTeardown k =>
    if k = m ∧ (b.skeleton? m).map (·.phase) = some .releasing then some .shutdown else none
  | .subscribeDisconnects k =>
    if k = m ∧ (b.subscribeDisconnects m).2.isOk then some .subscribe else none
  | .receiveDisconnect k i => if k = m then some (.receive i) else none
  | .dropDisconnects k i => if k = m then some (.drop i) else none
  | .work k => if k = m then some .work else none
  | _ => none

variable {b : Bridge} {m : Nat}

/-- Which action makes which use of the pipeline of a machine. -/
inductive MakesUse (b : Bridge) (m : Nat) : Action → Use → Prop
  | report {token : Handle} {index : Int32} {error : Option ForeignError}
      (reaches : b.reaches m (.disconnected token index error) = true) :
      MakesUse b m (.receive (.disconnected token index error))
        (.report { index, cause := error.getD .unspecified })
  | endReports {token : Handle} (reaches : b.reaches m (.disconnectsEnded token) = true) :
      MakesUse b m (.receive (.disconnectsEnded token)) .endReports
  | shutdown (releasing : (b.skeleton? m).map (·.phase) = some .releasing) :
      MakesUse b m (.finishTeardown m) .shutdown
  | subscribe (accepted : (b.subscribeDisconnects m).2.isOk = true) :
      MakesUse b m (.subscribeDisconnects m) .subscribe
  | receive {i : Nat} : MakesUse b m (.receiveDisconnect m i) (.receive i)
  | drop {i : Nat} : MakesUse b m (.dropDisconnects m i) (.drop i)
  | work : MakesUse b m (.work m) .work

theorem makesUse_of_some {act : Action} {u : Use} (h : b.pipelineUse? m act = some u) :
    MakesUse b m act u := by
  cases act with
  | receive e =>
    obtain ⟨reaches, used⟩ := Option.ite_none_right_eq_some.1 h
    cases e with
    | disconnected token index error =>
      cases used
      exact .report reaches
    | disconnectsEnded token =>
      cases used
      exact .endReports reaches
    | _ => cases used
  | finishTeardown k =>
    obtain ⟨⟨rfl, releasing⟩, ⟨⟩⟩ := Option.ite_none_right_eq_some.1 h
    exact .shutdown releasing
  | subscribeDisconnects k =>
    obtain ⟨⟨rfl, accepted⟩, ⟨⟩⟩ := Option.ite_none_right_eq_some.1 h
    exact .subscribe accepted
  | receiveDisconnect k i =>
    obtain ⟨rfl, ⟨⟩⟩ := Option.ite_none_right_eq_some.1 h
    exact .receive
  | dropDisconnects k i =>
    obtain ⟨rfl, ⟨⟩⟩ := Option.ite_none_right_eq_some.1 h
    exact .drop
  | work k =>
    obtain ⟨rfl, ⟨⟩⟩ := Option.ite_none_right_eq_some.1 h
    exact .work
  | _ => cases h

/-! ## reports of the runtime -/

/-- A report for a pipeline goes to the machine that its token names, or nothing happens. -/
theorem receive_cases_of_use {e : Callback} {u : Use} (used : e.use? = some u) (b : Bridge) :
    (∃ n, b.registry.get? e.token = some (.disconnectInbox n) ∧
      b.receive e = (b.modifyMachine n fun x =>
        { x with disconnect := x.disconnect.use x.configuration u }, .ok ())) ∨
      (∀ n, b.registry.get? e.token ≠ some (.disconnectInbox n)) ∧
        ∃ cause, b.receive e = (b, .error (.handle cause)) := by
  have kind : e.kind = .disconnectInbox := by
    cases e <;> first | rfl | cases used
  have other : e ≠ .windowClosed .invalid := by
    rintro rfl
    cases used
  unfold receive
  rw [if_neg other]
  cases resolved : b.registry.resolve e.kind e.token with
  | error cause =>
    refine .inr ⟨fun n named => ?_, cause, rfl⟩
    rw [kind] at resolved
    cases resolved.symm.trans (Registry.resolve_eq_ok_iff.2 ⟨named, rfl⟩)
  | ok v =>
    obtain ⟨named, sort⟩ := Registry.resolve_eq_ok_iff.1 resolved
    rw [kind] at sort
    cases v <;> simp only [Value.kind, reduceCtorEq] at sort
    next n =>
    refine .inl ⟨n, named, ?_⟩
    cases e <;> cases used <;> rfl

/-- A report is a use of the pipeline that has its token, if it is accepted. -/
theorem pipeline?_receive (reachable : b.Reachable) {e : Callback} {u : Use}
    (used : e.use? = some u) (m : Nat) :
    (b.receive e).1.pipeline? m =
      (b.pipeline? m).map fun x => (x.1.react x.2 (if b.reaches m e then some u else none), x.2) := by
  have ignored (refused : b.reaches m e = false) :
      b.pipeline? m = (b.pipeline? m).map fun x =>
        (x.1.react x.2 (if b.reaches m e then some u else none), x.2) := by
    rw [refused]
    exact Option.map_id'.symm
  obtain ⟨n, named, accepted⟩ | ⟨-, cause, refused⟩ := receive_cases_of_use used b
  · have after := b.pipeline?_modifyMachine n m
      (f := fun x => { x with disconnect := x.disconnect.use x.configuration u })
      (g := fun p c => p.use c u) (fun _ => rfl) fun _ => rfl
    rw [accepted, after]
    by_cases own : n = m
    · subst own
      obtain ⟨s, skeleton, held⟩ := reachable.holder (p := .disconnect) named
      obtain ⟨machine, found, rfl⟩ := Option.map_eq_some_iff.1 skeleton
      have reaches : b.reaches n e = true := by
        have token : machine.disconnect.token = e.token := held
        simp [Bridge.reaches, found, token, accepted, Except.isOk, Except.toBool]
      rw [if_pos rfl, reaches]
      rfl
    · rw [if_neg own]
      refine ignored ?_
      unfold Bridge.reaches
      split
      · next machine found =>
        have skeleton := skeleton?_of_found found
        have differs : machine.disconnect.token ≠ e.token := by
          intro same
          rw [← same] at named
          -- the token belongs to one machine only
          exact own (reachable.owner (p := .disconnect) skeleton named).1
        simp [differs]
      · rfl
  · rw [refused]
    refine ignored ?_
    unfold Bridge.reaches
    split
    · rw [refused]
      exact Bool.and_false _
    · rfl

/-! ## every step -/

/-- A receive takes a value from the channel of the machine. -/
theorem receiveDisconnect_eq (b : Bridge) (m i : Nat) :
    (b.receiveDisconnect m i).1 = b.modifyMachine m fun x =>
      { x with disconnect := x.disconnect.use x.configuration (.receive i) } := by
  unfold receiveDisconnect
  split
  · next absent => exact (modifyMachine_of_absent absent _).symm
  · next machine found => exact modifyMachine_congr found rfl

/-- A pipeline that is used and the others. -/
theorem pipeline?_use (b : Bridge) (k m : Nat) {f : Machine → Machine} {u : Use}
    (hf : ∀ x, (f x).disconnect = x.disconnect.use x.configuration u)
    (hc : ∀ x, (f x).configuration = x.configuration) :
    (b.modifyMachine k f).pipeline? m =
      (b.pipeline? m).map fun x => (x.1.react x.2 (if k = m then some u else none), x.2) := by
  rw [b.pipeline?_modifyMachine k m (g := fun p c => p.use c u) hf hc]
  split
  · rfl
  · exact Option.map_id'.symm

/-- The end of a teardown shuts the pipeline of its machine down. -/
theorem pipeline?_finishTeardown (b : Bridge) (k m : Nat) :
    (b.finishTeardown k).pipeline? m = (b.pipeline? m).map fun x =>
      (x.1.react x.2 (b.pipelineUse? m (.finishTeardown k)), x.2) := by
  have ignored (other : ¬(k = m ∧ (b.skeleton? m).map (·.phase) = some .releasing)) :
      b.pipeline? m = (b.pipeline? m).map fun x =>
        (x.1.react x.2 (b.pipelineUse? m (.finishTeardown k)), x.2) := by
    rw [pipelineUse?, if_neg other]
    exact Option.map_id'.symm
  unfold finishTeardown
  split
  · next absent =>
    refine ignored ?_
    rintro ⟨rfl, phase⟩
    rw [skeleton?, absent] at phase
    cases phase
  · next machine found =>
    split
    · next releasing =>
      have after := pipeline?_use
        { b with registry := (b.registry.erase machine.disconnect.token).erase machine.stateToken }
        k m (f := fun x => { x with
          phase := .finalized
          disconnect := x.disconnect.shutdown
          state := x.state.close }) (u := .shutdown) (fun _ => rfl) fun _ => rfl
      rw [after]
      by_cases own : k = m
      · subst own
        have phase : (b.skeleton? k).map (·.phase) = some .releasing := by
          rw [skeleton?_of_found found, ← releasing]
          rfl
        rw [if_pos rfl, pipelineUse?, if_pos ⟨rfl, phase⟩]
        rfl
      · rw [if_neg own]
        exact Option.map_id'.trans (ignored fun h => own h.1)
    · next other =>
      refine ignored ?_
      rintro ⟨rfl, phase⟩
      rw [skeleton?_of_found found] at phase
      exact other (Option.some.inj phase)

/-- A subscription is a use of the pipeline, if it is let pass. -/
theorem pipeline?_subscribeDisconnects (b : Bridge) (k m : Nat) :
    (b.subscribeDisconnects k).1.pipeline? m = (b.pipeline? m).map fun x =>
      (x.1.react x.2 (b.pipelineUse? m (.subscribeDisconnects k)), x.2) := by
  have ignored (other : ¬(k = m ∧ (b.subscribeDisconnects m).2.isOk = true)) :
      b.pipeline? m = (b.pipeline? m).map fun x =>
        (x.1.react x.2 (b.pipelineUse? m (.subscribeDisconnects k)), x.2) := by
    rw [pipelineUse?, if_neg other]
    exact Option.map_id'.symm
  cases admitted : b.admitted k PlatformVersion.forStopAndGraphics with
  | error e =>
    have refused : b.subscribeDisconnects k = (b, .error e) := by
      rw [subscribeDisconnects, admitted]
    rw [refused]
    refine ignored ?_
    rintro ⟨rfl, ok⟩
    rw [refused] at ok
    cases ok
  | ok machine =>
    have accepted : b.subscribeDisconnects k =
        (b.modifyMachine k fun x => { x with disconnect := x.disconnect.subscribe.1 },
          .ok machine.disconnect.subscribe.2) := by
      rw [subscribeDisconnects, admitted]
    have after := b.pipeline?_use k m
      (f := fun x => { x with disconnect := x.disconnect.subscribe.1 }) (u := .subscribe)
      (fun _ => rfl) fun _ => rfl
    rw [accepted, after]
    by_cases own : k = m
    · subst own
      rw [if_pos rfl, pipelineUse?, if_pos ⟨rfl, by rw [accepted]; rfl⟩]
    · rw [if_neg own]
      exact Option.map_id'.trans (ignored fun h => own h.1)

/-- Each step uses a pipeline once or not at all. -/
theorem pipeline?_step (reachable : b.Reachable) (env : Environment) {act : Action}
    (create : ∀ platform c, act ≠ .beginCreate platform c) (m : Nat) :
    (b.step env act).pipeline? m =
      (b.pipeline? m).map fun x => (x.1.react x.2 (b.pipelineUse? m act), x.2) := by
  have unused (same : (b.step env act).pipeline? = b.pipeline?)
      (none : b.pipelineUse? m act = none) :
      (b.step env act).pipeline? m =
        (b.pipeline? m).map fun x => (x.1.react x.2 (b.pipelineUse? m act), x.2) := by
    rw [same, none]
    exact Option.map_id'.symm
  have edited := b.edits_step env act
  cases act with
  | beginCreate platform c => exact absurd rfl (create platform c)
  | finishTeardown k => exact b.pipeline?_finishTeardown k m
  | subscribeDisconnects k => exact b.pipeline?_subscribeDisconnects k m
  | receiveDisconnect k i =>
    rw [step, receiveDisconnect_eq]
    exact b.pipeline?_use k m (fun _ => rfl) fun _ => rfl
  | dropDisconnects k i => exact b.pipeline?_use k m (u := .drop i) (fun _ => rfl) fun _ => rfl
  | receive e =>
    cases used : e.use? with
    | some u =>
      rw [step, pipelineUse?, used]
      exact pipeline?_receive reachable used m
    | none =>
      refine unused (edited.pipeline? ?_) (by rw [pipelineUse?, used, ite_self])
      cases e with
      | disconnected | disconnectsEnded => cases used
      | _ => rfl
  | work k => exact b.pipeline?_use k m (u := .work) (fun _ => rfl) fun _ => rfl
  | _ => exact unused (edited.pipeline? rfl) rfl

end Bridge

end MachineBridge
