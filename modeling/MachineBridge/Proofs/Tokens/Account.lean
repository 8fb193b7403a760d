import MachineBridge.Proofs.History
import MachineBridge.Proofs.Tokens.Owner

/-!
# MachineBridge.Proofs.Tokens.Account

The account of the live tokens.  As long as callers release nothing but what they have
registered themselves, the registry holds after every run

* the two persistent tokens of every machine that was created and is not finalized;
* the window token of every live machine whose window was ever asked for and accepted;
* the completion token of every call that waits, background stops included;

and, beside these, numbers of the callers only.
-/

namespace MachineBridge

namespace Bridge

open Registry

/-- A step releases no token of a component. -/
def ReleasesOwn (b : Bridge) (_ : Environment) (act : Action) : Prop :=
  ∀ h, act = .releaseToken h → ∀ v, b.registry.get? h = some v → v.isShared = false

/-- The registry names every component under its token. -/
theorem holds_run {actions : List (Environment × Action)}
    (own : ({} : Bridge).Along ReleasesOwn actions) :
    (({} : Bridge).run actions).registry.Holds (({} : Bridge).run actions).token? := by
  induction actions using List.reverseRecOn with
  | nil => exact fun v h hv => absurd hv (by cases v <;> simp [token?, skeleton?, run])
  | append_singleton before s ih =>
    rw [along_append] at own
    have hb := records_run before
    rw [run_append]
    exact (tokenChange_step hb s.1 s.2).holds hb (ih own.1) own.2.1

/-- Beside components the registry holds numbers of the callers only. -/
def HoldsNumbers (r : Registry) : Prop :=
  ∀ h v, r.get? h = some v → v.isShared = false → ∃ n, v = .int32 n

theorem holdsNumbers_of_change {act : Action} {r r' : Registry}
    {token token' : Value → Option Handle} (change : TokenChange act r token r' token')
    (hr : HoldsNumbers r) : HoldsNumbers r' := by
  have register : ∀ {r : Registry} {u : Value}, HoldsNumbers r →
      (u.isShared = true ∨ ∃ n, u = .int32 n) → HoldsNumbers (r.register u).1 := by
    intro r u hr hu h v hv unshared
    rw [get?_register] at hv
    split at hv
    · cases hv
      exact hu.resolve_left (by simp [unshared])
    · exact hr h v hv unshared
  have erase : ∀ {r : Registry} (k : Handle), HoldsNumbers r → HoldsNumbers (r.erase k) := by
    intro r k hr h v hv unshared
    rw [get?_erase] at hv
    split at hv
    · contradiction
    · exact hr h v hv unshared
  cases change with
  | refl => exact hr
  | register isShared _ => exact register hr (.inl isShared)
  | registerBoth first second _ _ _ => exact register (register hr (.inl first)) (.inl second)
  | withdraw | erase => exact erase _ hr
  | withdrawBoth => exact erase _ (erase _ hr)
  | registerNumber => exact register hr (.inr ⟨_, rfl⟩)

/-- After every run the registry holds components and numbers of callers. -/
theorem holdsNumbers_run (actions : List (Environment × Action)) :
    HoldsNumbers (({} : Bridge).run actions).registry := by
  induction actions using List.reverseRecOn with
  | nil => exact fun h v hv => absurd hv (by simp [run, get?])
  | append_singleton before s ih =>
    rw [run_append]
    exact holdsNumbers_of_change (tokenChange_step (records_run before) s.1 s.2) ih

/-- A token names a component exactly when it is the token of the component. -/
theorem get?_eq_some_iff {b : Bridge} (hb : b.registry.Records b.token?)
    (holds : b.registry.Holds b.token?) {v : Value} (shared : v.isShared = true) (h : Handle) :
    b.registry.get? h = some v ↔ b.token? v = some h :=
  ⟨fun hv => hb.named h v hv shared, holds v h⟩

/-! ## the account -/

/-- The registry holds these tokens and no others, given what the latest accepted request for
the window of each machine asked for. -/
structure Accounts (b : Bridge) (latest : Nat → Option (Nat × WindowSpec)) : Prop where
  /-- The state token of each machine from its creation until it is finalized. -/
  state : ∀ h m, b.registry.get? h = some (.stateStream m) ↔
    ∃ machine, b.machines[m]? = some machine ∧ machine.phase.holdsTokens = true ∧
      machine.stateToken = h
  /-- The disconnect token of each machine from its creation until it is finalized. -/
  disconnect : ∀ h m, b.registry.get? h = some (.disconnectInbox m) ↔
    ∃ machine, b.machines[m]? = some machine ∧ machine.phase.holdsTokens = true ∧
      machine.disconnect.token = h
  /-- The window token of each live machine that has one. -/
  window : ∀ h m, b.registry.get? h = some (.windowBinding m) ↔
    ∃ machine, b.machines[m]? = some machine ∧ machine.phase = .live ∧
      machine.window.token = some h
  /-- A live machine has a window token once a request for its window was accepted. -/
  started : ∀ m machine, b.machines[m]? = some machine → machine.phase = .live →
    (machine.window.token.isSome = true ↔ (latest m).isSome = true)
  /-- The token of each call that waits. -/
  completion : ∀ h n, b.registry.get? h = some (.completion n) ↔
    ∃ call, b.calls[n]? = some call ∧ call.outcome = none ∧ call.token = h
  /-- Whatever else is registered is a number of a caller. -/
  numbers : ∀ h v, b.registry.get? h = some v → v.isShared = false → ∃ n, v = .int32 n
  /-- No component has the reserved token. -/
  valid : ∀ v h, b.token? v = some h → h ≠ .invalid
  /-- No two components have the same token. -/
  distinct : ∀ u v h, b.token? u = some h → b.token? v = some h → u = v

/-- The token of a machine that is there. -/
theorem bind_persistent_eq_some_iff {b : Bridge} {m : Nat} {h : Handle}
    (token : MachineSkeleton → Handle) :
    ((b.skeleton? m).bind fun s => s.persistent (token s)) = some h ↔
      ∃ machine, b.machines[m]? = some machine ∧ machine.phase.holdsTokens = true ∧
        token machine.skeleton = h := by
  rw [skeleton?]
  cases b.machines[m]? with
  | none => simp
  | some machine =>
    simp only [Option.map_some, Option.bind_some, MachineSkeleton.persistent, Option.some.injEq,
      exists_eq_left']
    constructor
    · intro hp
      split at hp
      · next holds => exact ⟨holds, Option.some.inj hp⟩
      · contradiction
    · rintro ⟨holds, same⟩
      rw [if_pos (show machine.skeleton.phase.holdsTokens = true from holds), same]

/-- After every run of callers that release their own tokens, every live token is accounted for. -/
theorem accounts_run {actions : List (Environment × Action)}
    (own : ({} : Bridge).Along ReleasesOwn actions) :
    (({} : Bridge).run actions).Accounts fun m => latestStart? m actions := by
  have hb := records_run actions
  have holds := holds_run own
  have history : ∀ m machine, (({} : Bridge).run actions).machines[m]? = some machine →
      WindowHistory machine.skeleton (latestStart? m actions) := by
    intro m machine found
    have recorded := windowRecorded_run actions m
    rw [WindowRecorded, skeleton?, found] at recorded
    exact recorded
  have numbers := holdsNumbers_run actions
  generalize ({} : Bridge).run actions = b at *
  exact
    { state := fun h m => by
        rw [get?_eq_some_iff hb holds rfl, token?, bind_persistent_eq_some_iff]
        rfl
      disconnect := fun h m => by
        rw [get?_eq_some_iff hb holds rfl, token?, bind_persistent_eq_some_iff]
        rfl
      window := fun h m => by
        rw [get?_eq_some_iff hb holds rfl, token?, skeleton?]
        cases found : b.machines[m]? with
        | none => simp
        | some machine =>
          simp only [Option.map_some, Option.bind_some, Option.some.injEq, exists_eq_left']
          refine ⟨fun ht => ⟨?_, ht⟩, And.right⟩
          by_contra idle
          rw [(history m machine found).idle idle] at ht
          contradiction
      started := fun m machine found live => by
        have same := (history m machine found).token live
        rw [← same]
        rfl
      completion := fun h n => by
        rw [get?_eq_some_iff hb holds rfl, token?]
        cases b.calls[n]? with
        | none => simp
        | some call => by_cases outcome : call.outcome = none <;> simp [outcome]
      numbers := numbers
      valid := fun v h hv e => by
        have pos := (hb.issued v h hv).1
        rw [e] at pos
        exact Nat.lt_irrefl 0 pos
      distinct := hb.distinct }

/-- The live tokens of the registry after every run, and that the window of a machine keeps
its token until the machine is torn down. -/
theorem live_tokens {actions : List (Environment × Action)}
    (own : ({} : Bridge).Along ReleasesOwn actions) :
    ((({} : Bridge).run actions).Accounts fun m => latestStart? m actions) ∧
      ∀ before after (m : Nat) (machine machine' : Machine) (id : Handle),
        actions = before ++ after →
        (({} : Bridge).run before).machines[m]? = some machine → machine.window.token = some id →
        (({} : Bridge).run actions).machines[m]? = some machine' → machine'.phase = .live →
        machine'.window.token = some id := by
  refine ⟨accounts_run own, ?_⟩
  rintro before after m machine machine' id rfl found token found' live
  have earlier : (({} : Bridge).run before).skeleton? m = some machine.skeleton := by
    rw [skeleton?, found]; rfl
  obtain ⟨s, later, kept⟩ := keepsToken_run earlier (.inl token) after
  rw [run_append] at found'
  rw [skeleton?, found'] at later
  obtain rfl : machine'.skeleton = s := Option.some.inj later
  obtain kept | gone | gone := kept
  · exact kept
  · exact absurd (live.symm.trans gone) (by simp)
  · exact absurd (live.symm.trans gone) (by simp)

/-- A window that no application could take has its token all the same. -/
theorem live_tokens_of_refused_window :
    ({} : Bridge).Along ReleasesOwn
        (creation ++ [(.idle, .startGraphics 0 0 800 600 {}), (.idle, .control 0 .pause)]) ∧
      (({} : Bridge).run (creation ++
        [(.idle, .startGraphics 0 0 800 600 {}), (.idle, .control 0 .pause)])).registry.get? ⟨3⟩ =
        some (.windowBinding 0) := by
  have own : ({} : Bridge).Along ReleasesOwn
      (creation ++ [(.idle, .startGraphics 0 0 800 600 {}), (.idle, .control 0 .pause)]) := by
    simp [creation, Along, ReleasesOwn]
  exact ⟨own, ((live_tokens own).1.window ⟨3⟩ 0).2 ⟨_, rfl, by decide, by decide⟩⟩

end Bridge

end MachineBridge
