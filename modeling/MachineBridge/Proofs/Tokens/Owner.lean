import MachineBridge.Proofs.Machines
import MachineBridge.Proofs.Tokens.Change
import Mathlib.Algebra.Group.Nat.Defs
import Mathlib.Data.List.Induction

/-!
# MachineBridge.Proofs.Tokens.Owner

The components of the bridge that own tokens.  A machine owns its two persistent tokens
until it is torn down, and the token of its window from the first request until then; a
call owns the token of its completion as long as it waits.

Each step of the bridge is one change of the registry and of what is owned
(`tokenChange_step`), so the records are right after every run (`records_run`), and in a run
that is not too long the tokens are different machine words (`words_run`).
-/

namespace MachineBridge

open Function (update)

/-- Whether a machine has its two persistent tokens. -/
def MachinePhase.holdsTokens : MachinePhase → Bool
  | .creating | .live | .releasing => true
  | .finalized | .abandoned => false

/-- A token of a machine that it has in some phases. -/
def MachineSkeleton.persistent (s : MachineSkeleton) (h : Handle) : Option Handle :=
  if s.phase.holdsTokens then some h else none

namespace Bridge

/-- The token that a component owns. -/
def token? (b : Bridge) : Value → Option Handle
  | .stateStream m => (b.skeleton? m).bind fun s => s.persistent s.stateToken
  | .disconnectInbox m => (b.skeleton? m).bind fun s => s.persistent s.disconnectToken
  | .windowBinding m => (b.skeleton? m).bind (·.window.token)
  | .completion c => b.calls[c]?.bind fun call => if call.outcome = none then some call.token else none
  | _ => none

/-- Who owns a token depends on the registry, the calls and the skeletons. -/
theorem Quiet.token?_eq {b b' : Bridge} (h : Quiet b b') : b'.token? = b.token? := by
  funext v
  cases v <;> simp only [token?, h.calls, h.skeletons]

/-! ## what the steps do to machines and calls -/

/-- What a machine owns after a change of its own, and that nothing else is affected. -/
theorem token?_of_update {b b' : Bridge} {m : Nat} {s : MachineSkeleton}
    (calls : b'.calls = b.calls) (hs : b'.skeleton? = update b.skeleton? m (some s)) :
    b'.token? =
      update (update (update b.token? (.windowBinding m) s.window.token)
        (.stateStream m) (s.persistent s.stateToken))
        (.disconnectInbox m) (s.persistent s.disconnectToken) := by
  funext v
  cases v <;> simp only [token?, calls, hs, Function.update_apply, Value.stateStream.injEq,
    Value.disconnectInbox.injEq, Value.windowBinding.injEq, reduceCtorEq, if_false]
  all_goals split <;> rfl

/-- A machine that keeps its persistent tokens changes what is owned by its window only. -/
theorem token?_of_update_window {b b' : Bridge} {m : Nat} {s s' : MachineSkeleton}
    (calls : b'.calls = b.calls) (hs : b.skeleton? m = some s)
    (hs' : b'.skeleton? = update b.skeleton? m (some s'))
    (state : s'.persistent s'.stateToken = s.persistent s.stateToken)
    (disconnect : s'.persistent s'.disconnectToken = s.persistent s.disconnectToken) :
    b'.token? = update b.token? (.windowBinding m) s'.window.token := by
  have keptState : b.token? (.stateStream m) = s.persistent s.stateToken := by rw [token?, hs]; rfl
  have keptDisconnect : b.token? (.disconnectInbox m) = s.persistent s.disconnectToken := by
    rw [token?, hs]; rfl
  have unaffected : ∀ v, v ≠ .windowBinding m →
      update (update b.token? (.windowBinding m) s'.window.token) v (b.token? v) =
        update b.token? (.windowBinding m) s'.window.token := fun v hv =>
    Function.update_eq_self_iff.2 (by rw [Function.update_of_ne hv])
  rw [token?_of_update calls hs', state, disconnect, ← keptState, ← keptDisconnect,
    unaffected _ (by simp), unaffected _ (by simp)]

/-- What is owned does not change when a machine keeps its window token as well. -/
theorem token?_of_update_same {b b' : Bridge} {m : Nat} {s s' : MachineSkeleton}
    (calls : b'.calls = b.calls) (hs : b.skeleton? m = some s)
    (hs' : b'.skeleton? = update b.skeleton? m (some s'))
    (state : s'.persistent s'.stateToken = s.persistent s.stateToken)
    (disconnect : s'.persistent s'.disconnectToken = s.persistent s.disconnectToken)
    (window : s'.window.token = s.window.token) : b'.token? = b.token? := by
  have kept : b.token? (.windowBinding m) = s.window.token := by rw [token?, hs]; rfl
  rw [token?_of_update_window calls hs hs' state disconnect, window, ← kept,
    Function.update_eq_self]

/-! ## the changes of each step -/

/-- What is registered and owned in a bridge. -/
def Changes (act : Action) (b b' : Bridge) : Prop :=
  TokenChange act b.registry b.token? b'.registry b'.token?

/-- A creation that begins registers the two components of a machine. -/
theorem changes_beginCreate (b : Bridge) (platform : PlatformVersion) (c : MachineConfiguration)
    (act : Action) : Changes act b (b.beginCreate platform c).1 := by
  obtain h | ⟨registry, calls, skeletons⟩ := b.beginCreate_cases platform c
  · rw [h]; exact .refl
  · have none : b.skeleton? b.machines.length = none := b.skeleton?_length
    have window : b.token? (.windowBinding b.machines.length) = .none := by
      rw [token?, none]; rfl
    rw [Changes, registry, token?_of_update calls skeletons,
      show update b.token? (.windowBinding b.machines.length) _ = b.token? from
        window ▸ Function.update_eq_self _ _]
    exact .registerBoth rfl rfl (by simp) (by rw [token?, none]; rfl) (by rw [token?, none]; rfl)

/-- A machine that loses its two persistent tokens, in either order. -/
theorem changes_withdrawBoth {b b' : Bridge} {m : Nat} {s s' : MachineSkeleton} (act : Action)
    (hs : b.skeleton? m = some s) (hs' : b'.skeleton? = update b.skeleton? m (some s'))
    (held : s.phase.holdsTokens = true) (lost : s'.phase.holdsTokens = false)
    (window : s'.window.token = s.window.token) (calls : b'.calls = b.calls)
    (registry : b'.registry = (b.registry.erase s.stateToken).erase s.disconnectToken ∨
      b'.registry = (b.registry.erase s.disconnectToken).erase s.stateToken) :
    Changes act b b' := by
  have ht : b.token? (.windowBinding m) = s'.window.token := by rw [token?, hs, window]; rfl
  have state : b.token? (.stateStream m) = some s.stateToken := by
    rw [token?, hs, Option.bind_some, MachineSkeleton.persistent, if_pos held]
  have disconnect : b.token? (.disconnectInbox m) = some s.disconnectToken := by
    rw [token?, hs, Option.bind_some, MachineSkeleton.persistent, if_pos held]
  have nothing : ∀ h, s'.persistent h = none := fun h => by
    rw [MachineSkeleton.persistent, if_neg (by simp [lost])]
  rw [Changes, token?_of_update calls hs', nothing, nothing, ← ht, Function.update_eq_self]
  obtain registry | registry := registry
  · rw [registry]
    exact .withdrawBoth (by simp) state disconnect ⟨by simp, by simp⟩
  · rw [registry, Function.update_comm (by simp)]
    exact .withdrawBoth (by simp) disconnect state ⟨by simp, by simp⟩

/-- A creation that fails withdraws both components. -/
theorem changes_finishCreate (b : Bridge) (m : Nat) (failure : Option BridgeError)
    (act : Action) : Changes act b (b.finishCreate m failure) := by
  obtain h | ⟨s, phase, hs, creating, calls, skeletons, outcome⟩ := b.finishCreate_cases m failure
  · rw [h]; exact .refl
  · have holds : s.phase.holdsTokens = true := by rw [creating]; rfl
    obtain ⟨rfl, registry⟩ | ⟨rfl, registry⟩ := outcome
    · rw [Changes, registry, token?_of_update_same calls hs skeletons]
      · exact .refl
      all_goals first | rfl | rw [MachineSkeleton.persistent, MachineSkeleton.persistent, if_pos holds]; rfl
    · exact changes_withdrawBoth act hs skeletons holds rfl rfl calls (.inl registry)

/-- A teardown that ends withdraws both components. -/
theorem changes_finishTeardown (b : Bridge) (m : Nat) (act : Action) :
    Changes act b (b.finishTeardown m) := by
  obtain h | ⟨s, hs, releasing, calls, skeletons, registry⟩ := b.finishTeardown_cases m
  · rw [h]; exact .refl
  · have holds : s.phase.holdsTokens = true := by rw [releasing]; rfl
    exact changes_withdrawBoth act hs skeletons holds rfl rfl calls (.inr registry)

/-- A teardown that begins withdraws the window token. -/
theorem changes_beginTeardown (b : Bridge) (m : Nat) (act : Action) :
    Changes act b (b.beginTeardown m) := by
  obtain h | ⟨s, hs, live, registry, calls, skeletons⟩ := b.beginTeardown_cases m
  · rw [h]; exact .refl
  · have holds : s.phase.holdsTokens = true := by rw [live]; rfl
    have window : b.token? (.windowBinding m) = s.window.token := by rw [token?, hs]; rfl
    have owned : (b.beginTeardown m).token? = update b.token? (.windowBinding m) none := by
      refine token?_of_update_window calls hs skeletons ?_ ?_
      all_goals
        rw [MachineSkeleton.persistent, MachineSkeleton.persistent, if_pos holds]; rfl
    rw [Changes, owned, registry]
    cases ht : s.window.token with
    | none =>
      rw [← ht, ← window, Function.update_eq_self, window, ht]
      exact .refl
    | some id => exact .withdraw (window.trans ht) (by simp)

/-- A control call registers its completion. -/
theorem changes_beginControl (b : Bridge) (m : Nat) (op : Operation) (act : Action) :
    Changes act b (b.beginControl m op).1 := by
  cases admitted : b.admitted m op.requiredRelease with
  | error e => rw [beginControl_of_refused admitted]; exact .refl
  | ok machine =>
    obtain ⟨-, registry, calls, skeletons⟩ := beginControl_of_admitted admitted
    have owned : (b.beginControl m op).1.token? =
        update b.token? (.completion b.calls.length) (some ⟨b.registry.next⟩) := by
      funext v
      cases v with
      | completion c =>
        simp only [token?, calls, getElem?_added, Function.update_apply, Value.completion.injEq]
        split <;> rfl
      | _ => simp [token?, skeletons]
    rw [Changes, owned, registry]
    exact .register rfl (by simp [token?])

/-- A call that is decided waits no more. -/
theorem token?_decideCall (b : Bridge) (r : Registry) (n : Nat) (o : Outcome) :
    (({ b with registry := r } : Bridge).decideCall n o).token? =
      update b.token? (.completion n) none := by
  funext v
  cases v with
  | completion c =>
    simp only [token?, decideCall, modifyCall, List.getElem?_modify, Function.update_apply,
      Value.completion.injEq]
    by_cases h : n = c
    · rw [if_pos h.symm]
      cases b.calls[c]? with
      | none => rfl
      | some call => cases ho : call.outcome <;> simp [h, ho]
    · simp [h, Ne.symm h]
  | _ => rfl

/-- A completion withdraws the token of its call. -/
theorem changes_complete {b : Bridge} (hb : b.registry.Records b.token?) (token : Handle)
    (error : Option ForeignError) :
    Changes (.receive (.completion token error)) b (b.receive (.completion token error)).1 := by
  obtain ⟨same, -⟩ | ⟨n, named, h⟩ := b.receive_completion_cases token error
  · rw [same]; exact .refl
  · rw [h, Changes, token?_decideCall]
    exact .withdraw (hb.named token _ named rfl) fun c _ => .inl ⟨error, rfl⟩

theorem changes_releaseToken {b : Bridge} (hb : b.registry.Records b.token?) (h : Handle) :
    Changes (.releaseToken h) b (b.releaseToken h).1 := by
  unfold releaseToken Registry.release
  cases hv : b.registry.get? h with
  | none => exact .refl
  | some v =>
    cases v with
    | completion n =>
      dsimp only
      rw [Changes, token?_decideCall]
      exact .withdraw (hb.named h _ hv rfl) fun c _ => .inr rfl
    | _ => exact .erase rfl

/-! ## window requests -/

/-- A window that is opened has a token registered for it, unless it has one. -/
theorem changes_openWindow {b : Bridge} {m : Nat} {machine : Machine} {required : UInt32}
    (admitted : b.admitted m required = .ok machine) (a : Nat) (spec : WindowSpec) (act : Action) :
    Changes act b (b.openWindow m machine.window a spec) := by
  have hs : b.skeleton? m = some machine.skeleton := (skeleton?_of_admitted admitted).1
  have window : b.token? (.windowBinding m) = machine.window.token := by rw [token?, hs]; rfl
  obtain ⟨calls, skeletons⟩ := openWindow_of_admitted admitted a spec
  rw [Changes, token?_of_update_window calls hs skeletons rfl rfl]
  show TokenChange act _ _ (b.windowToken m machine.window).1.registry _
  cases ht : machine.window.token with
  | some id =>
    simp only [windowToken, ht, WindowState.opened, Option.getD_some]
    rw [← ht, ← window, Function.update_eq_self]
    exact .refl
  | none =>
    simp only [windowToken, ht, WindowState.opened, Option.getD_none]
    exact .register rfl (window.trans ht)

/-- A closed window keeps its token. -/
theorem token?_closeWindow (b : Bridge) (m : Nat) : (b.closeWindow m).token? = b.token? := by
  funext v
  cases v <;> simp only [token?, skeleton?_closeWindow]
  case completion c => rfl
  all_goals
    split
    · rw [Option.bind_map]; rfl
    · rfl

/-! ## every step -/

/-- Each step is one change of the registry and of what is owned. -/
theorem tokenChange_step {b : Bridge} (hb : b.registry.Records b.token?) (env : Environment)
    (act : Action) : Changes act b (b.step env act) := by
  obtain ⟨before, after, quiet, step, quiet'⟩ := b.stepsTo_step env act
  rw [← quiet.registry, ← quiet.token?_eq] at hb
  have change : Changes act before after := by
    cases step with
    | quiet => exact .refl
    | beginCreate => exact changes_beginCreate before _ _ _
    | finishCreate => exact changes_finishCreate before _ _ _
    | beginTeardown => exact changes_beginTeardown before _ _
    | finishTeardown => exact changes_finishTeardown before _ _
    | beginControl _ => exact changes_beginControl before _ _ _
    | complete => exact changes_complete hb _ _
    | openWindow admitted _ _ => exact changes_openWindow admitted _ _ _
    | refuseWindow admitted _ _ =>
      rw [Changes, token?_closeWindow]
      exact changes_openWindow admitted _ _ _
    | closeWindow _ _ => rw [Changes, token?_closeWindow]; exact .refl
    | registerNumber => exact .registerNumber
    | releaseToken => exact changes_releaseToken hb _
  rw [Changes, quiet'.registry, quiet'.token?_eq, ← quiet.registry, ← quiet.token?_eq]
  exact change

/-- The records are right in the beginning. -/
theorem records_initial : Registry.Records {} ({} : Bridge).token? where
  issued v h hv := by cases v <;> simp [token?, skeleton?] at hv
  distinct u v h hu := by cases u <;> simp [token?, skeleton?] at hu
  shared v h hv := by cases v <;> simp [token?, skeleton?] at hv
  bounded h v hv := by simp [Registry.get?] at hv
  named h v hv := by simp [Registry.get?] at hv
  started := Nat.one_pos

/-- The records are right after every run. -/
theorem records_run (actions : List (Environment × Action)) :
    (({} : Bridge).run actions).registry.Records (({} : Bridge).run actions).token? := by
  induction actions using List.reverseRecOn with
  | nil => exact records_initial
  | append_singleton before s ih =>
    rw [run_append]
    exact (tokenChange_step ih s.1 s.2).records ih

/-- A bridge that some run leads to. -/
def Reachable (b : Bridge) : Prop := ∃ actions, ({} : Bridge).run actions = b

theorem Reachable.step {b : Bridge} (h : b.Reachable) (env : Environment) (act : Action) :
    (b.step env act).Reachable := by
  obtain ⟨actions, rfl⟩ := h
  exact ⟨actions ++ [(env, act)], run_append _ _ _⟩

theorem Reachable.after {b : Bridge} (h : b.Reachable) (actions : List (Environment × Action)) :
    (b.run actions).Reachable := by
  obtain ⟨before, rfl⟩ := h
  exact ⟨before ++ actions, run_append _ _ _⟩

/-- In every reachable bridge tokens that are owned and registered agree. -/
theorem Reachable.records {b : Bridge} (h : b.Reachable) : b.registry.Records b.token? := by
  obtain ⟨actions, rfl⟩ := h
  exact records_run actions

/-- A token that was issued and names nothing will never name anything. -/
theorem get?_run_of_unnamed {b : Bridge} (reachable : b.Reachable) {token : Handle}
    (issued : token.raw < b.registry.next) (unnamed : b.registry.get? token = none)
    (actions : List (Environment × Action)) : (b.run actions).registry.get? token = none := by
  induction actions generalizing b with
  | nil => exact unnamed
  | cons s rest ih =>
    have change := tokenChange_step reachable.records s.1 s.2
    exact ih (reachable.step s.1 s.2) (Nat.lt_of_lt_of_le issued change.next_le)
      (change.unnamed issued unnamed)

/-- A token that a component had names nothing once the component has lost it. -/
theorem get?_run_of_lost {b : Bridge} (reachable : b.Reachable) {v : Value} {token : Handle}
    (held : b.token? v = some token) (actions : List (Environment × Action))
    (lost : (b.run actions).token? v ≠ some token) :
    (b.run actions).registry.get? token = none := by
  induction actions generalizing b with
  | nil => exact absurd held lost
  | cons s rest ih =>
    have change := tokenChange_step reachable.records s.1 s.2
    have next := reachable.step s.1 s.2
    by_cases still : (b.step s.1 s.2).token? v = some token
    · exact ih next still lost
    · have issued := (reachable.records.issued _ _ held).2
      exact get?_run_of_unnamed next (Nat.lt_of_lt_of_le issued change.next_le)
        (change.withdrawn held still) rest

/-! ## tokens as machine words -/

/-- Each step of a run issues two tokens at most. -/
theorem next_run_le (actions : List (Environment × Action)) :
    (({} : Bridge).run actions).registry.next ≤ 1 + 2 * actions.length := by
  induction actions using List.reverseRecOn with
  | nil => exact Nat.le_refl _
  | append_singleton before s ih =>
    have last := (tokenChange_step (records_run before) s.1 s.2).next_le_add_two
    rw [run_append, List.length_append, List.length_singleton]
    exact Nat.le_trans last (by omega)

/-- The tokens of the registry and the next one are as good as machine words: none wraps, no
two are the same, and no component has the reserved one. -/
structure Words (b : Bridge) : Prop where
  next : (UInt64.ofNat b.registry.next).toNat = b.registry.next
  distinct : ∀ h k, b.registry.contains h = true → b.registry.contains k = true →
    UInt64.ofNat h.raw = UInt64.ofNat k.raw → h = k
  valid : ∀ v h, b.token? v = some h → UInt64.ofNat h.raw ≠ 0

/-- The numbers of tokens do not wrap in a run that is not longer than a machine can count. -/
theorem words_run {actions : List (Environment × Action)}
    (short : 2 * actions.length < 2 ^ 64 - 1) : (({} : Bridge).run actions).Words := by
  have records := records_run actions
  have bound := next_run_le actions
  generalize ({} : Bridge).run actions = b at records bound ⊢
  have wraps {n : Nat} (issued : n ≤ b.registry.next) : (UInt64.ofNat n).toNat = n :=
    UInt64.toNat_ofNat_of_lt' (show n < 2 ^ 64 by omega)
  have word {h : Handle} (known : b.registry.contains h = true) :
      (UInt64.ofNat h.raw).toNat = h.raw := by
    obtain ⟨v, named⟩ := Option.isSome_iff_exists.1 known
    exact wraps (Nat.le_of_lt (records.bounded h v named))
  refine ⟨wraps (Nat.le_refl _), fun h k known known' same => ?_, fun v h held zero => ?_⟩
  · have raw := congrArg UInt64.toNat same
    rw [word known, word known'] at raw
    cases h
    cases k
    exact congrArg Handle.mk raw
  · obtain ⟨pos, issued⟩ := records.issued v h held
    rw [← wraps (Nat.le_of_lt issued), zero] at pos
    exact Nat.lt_irrefl 0 pos

end Bridge

/-! ## a first run -/

/-- An environment that can do nothing and never panics. -/
def Environment.idle : Environment where
  can _ _ := false
  requestStop _ := .ok false
  isVisible _ _ := false
  panics _ _ := false

/-- The run that creates one machine. -/
def creation : List (Environment × Action) :=
  [(.idle, .beginCreate { major := 13, minor := 0 } { cpuCount := 2, memorySize := 4096 }),
    (.idle, .finishCreate 0 none)]

end MachineBridge
