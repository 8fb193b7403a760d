import MachineBridge.Proofs.Tokens.Owner

/-!
# MachineBridge.Proofs.Tokens.Persistent

The two tokens that a machine has from its creation on, one for its states and one for its
lost attachments.  No other machine ever has the same, and once the machine is finalized or
abandoned they belong to nothing (`belongs_run`), so such a token leads to the machine that
it was issued for or to none.
-/

namespace MachineBridge

/-- The kinds of persistent tokens. -/
inductive Persistent where
  | state
  | disconnect
deriving DecidableEq, Repr

namespace Persistent

/-- What a token of this kind names, for the machine of a number. -/
def value : Persistent → Nat → Value
  | .state => .stateStream
  | .disconnect => .disconnectInbox

/-- The token of this kind that a machine got. -/
def token : Persistent → MachineSkeleton → Handle
  | .state => MachineSkeleton.stateToken
  | .disconnect => MachineSkeleton.disconnectToken

theorem value_inj (p : Persistent) {m n : Nat} (h : p.value m = p.value n) : m = n := by
  cases p <;> simpa [value] using h

theorem isShared_value (p : Persistent) (m : Nat) : (p.value m).isShared = true := by
  cases p <;> rfl

end Persistent

namespace Bridge

variable {b : Bridge} {m : Nat} {s : MachineSkeleton}

/-- A machine owns its persistent tokens until it is finalized or abandoned. -/
theorem token?_persistent (b : Bridge) (p : Persistent) (m : Nat) :
    b.token? (p.value m) = (b.skeleton? m).bind fun s => s.persistent (p.token s) := by
  cases p <;> rfl

/-- A machine owns its persistent tokens as long as its phase has them. -/
theorem token?_of_holds (p : Persistent) (found : b.skeleton? m = some s)
    (holds : s.phase.holdsTokens = true) : b.token? (p.value m) = some (p.token s) := by
  rw [token?_persistent, found, Option.bind_some, MachineSkeleton.persistent, if_pos holds]

/-- A persistent token was issued, and when its machine does not have it any more, it is
nobody else's. -/
structure Belongs (b : Bridge) (p : Persistent) (s : MachineSkeleton) : Prop where
  issued : (p.token s).raw < b.registry.next
  spent : s.phase.holdsTokens = false → ∀ v, b.token? v ≠ some (p.token s)

/-- A machine keeps its persistent tokens for good. -/
theorem SkeletonStep.tokens {origin : Bridge} {act : Action} {s' : MachineSkeleton}
    (h : SkeletonStep origin b act m (some s')) :
    s'.phase = .creating ∨
      ∃ s, b.skeleton? m = some s ∧ ∀ p : Persistent, p.token s' = p.token s := by
  generalize after : some s' = a at h
  cases h with
  | same => exact .inr ⟨s', after.symm, fun _ => rfl⟩
  | begun _ =>
    cases after
    exact .inl rfl
  | created found _ _ | released found _ _ | finished found _ | opened found _ _ _
  | refused found _ _ _ | closed found _ _ =>
    cases after
    exact .inr ⟨_, found, fun p => by cases p <;> rfl⟩

/-- A persistent token belongs to its machine, one step later. -/
theorem Belongs.step {p : Persistent} (hb : b.registry.Records b.token?)
    (h : ∀ s, b.skeleton? m = some s → b.Belongs p s) (env : Environment) (act : Action)
    {s' : MachineSkeleton} (found' : (b.step env act).skeleton? m = some s') :
    (b.step env act).Belongs p s' := by
  have change := tokenChange_step hb env act
  have step := b.skeletonStep_step env act m
  rw [found'] at step
  cases holds : s'.phase.holdsTokens with
  | true =>
    have issued := ((change.records hb).issued _ _ (token?_of_holds p found' holds)).2
    exact ⟨issued, fun spent => by rw [holds] at spent; contradiction⟩
  | false =>
    obtain creating | ⟨s, found, same⟩ := step.tokens
    · rw [creating] at holds
      contradiction
    · have earlier := h s found
      refine ⟨same p ▸ Nat.lt_of_lt_of_le earlier.issued change.next_le, fun _ v hv => ?_⟩
      rw [same p] at hv
      obtain held | fresh := change.held_before hv
      · cases before : s.phase.holdsTokens with
        | true =>
          -- the token was its machine's, which has lost it in this step
          have own := hb.distinct _ _ _ held (token?_of_holds p found before)
          rw [own, token?_persistent, found', Option.bind_some, MachineSkeleton.persistent,
            if_neg (by rw [holds]; exact Bool.false_ne_true)] at hv
          contradiction
        | false => exact earlier.spent before v held
      · exact Nat.not_le_of_lt earlier.issued fresh

/-- The persistent tokens of every machine belong to it, after every run. -/
theorem belongs_run (p : Persistent) (actions : List (Environment × Action))
    (found : (({} : Bridge).run actions).skeleton? m = some s) :
    (({} : Bridge).run actions).Belongs p s := by
  induction actions using List.reverseRecOn generalizing s with
  | nil => simp [run, skeleton?] at found
  | append_singleton before last ih =>
    rw [run_append] at found ⊢
    exact Belongs.step (records_run before) (fun _ earlier => ih earlier) last.1 last.2 found

/-- A persistent token is not the reserved one. -/
theorem valid_run (p : Persistent) (actions : List (Environment × Action))
    (found : (({} : Bridge).run actions).skeleton? m = some s) : p.token s ≠ .invalid := by
  induction actions using List.reverseRecOn generalizing s with
  | nil => simp [run, skeleton?] at found
  | append_singleton before last ih =>
    have records := records_run (before ++ [last])
    rw [run_append] at found records
    have step := (({} : Bridge).run before).skeletonStep_step last.1 last.2 m
    rw [show (({} : Bridge).run before).step last.1 last.2 = (({} : Bridge).run before).run [last]
      from rfl, found] at step
    obtain creating | ⟨earlier, known, same⟩ := step.tokens
    · intro reserved
      have held := token?_of_holds p found (by rw [creating]; rfl)
      have positive := (records.issued _ _ held).1
      rw [reserved] at positive
      exact Nat.lt_irrefl 0 positive
    · rw [same p]
      exact ih known

/-- A machine has its persistent tokens, or they name nothing. -/
theorem held_or_unnamed_run (p : Persistent) (actions : List (Environment × Action))
    (found : (({} : Bridge).run actions).skeleton? m = some s) :
    (({} : Bridge).run actions).token? (p.value m) = some (p.token s) ∨
      (({} : Bridge).run actions).registry.get? (p.token s) = none := by
  induction actions using List.reverseRecOn generalizing s with
  | nil => simp [run, skeleton?] at found
  | append_singleton before last ih =>
    rw [run_append] at found ⊢
    have change := tokenChange_step (records_run before) last.1 last.2
    have step := (({} : Bridge).run before).skeletonStep_step last.1 last.2 m
    rw [show (({} : Bridge).run before).step last.1 last.2 = (({} : Bridge).run before).run [last]
      from rfl, found] at step
    obtain creating | ⟨earlier, known, same⟩ := step.tokens
    · exact .inl (token?_of_holds p found (by rw [creating]; rfl))
    · rw [same p]
      obtain held | unnamed := ih known
      · by_cases still : ((({} : Bridge).run before).step last.1 last.2).token? (p.value m) =
            some (p.token earlier)
        · exact .inl still
        · exact .inr (change.withdrawn held still)
      · exact .inr (change.unnamed (belongs_run p before known).issued unnamed)

/-- The persistent tokens of a machine that is finalized or abandoned name nothing. -/
theorem Reachable.unnamed_of_spent (reachable : b.Reachable) (found : b.skeleton? m = some s)
    (spent : s.phase.holdsTokens = false) (p : Persistent) :
    b.registry.get? (p.token s) = none := by
  obtain ⟨actions, rfl⟩ := reachable
  obtain held | unnamed := held_or_unnamed_run p actions found
  · exact absurd held ((belongs_run p actions found).spent spent _)
  · exact unnamed

/-- A machine that a persistent token names got it when it was created. -/
theorem Reachable.holder {p : Persistent} {n : Nat} {token : Handle} (reachable : b.Reachable)
    (named : b.registry.get? token = some (p.value n)) :
    ∃ s, b.skeleton? n = some s ∧ p.token s = token := by
  have owned : b.token? (p.value n) = some token :=
    reachable.records.named _ _ named (p.isShared_value n)
  rw [token?_persistent] at owned
  obtain ⟨s, found, held⟩ := Option.bind_eq_some_iff.1 owned
  refine ⟨s, found, ?_⟩
  unfold MachineSkeleton.persistent at held
  split at held
  · exact Option.some.inj held
  · contradiction

/-- A persistent token leads to its own machine only, and only while the machine has it. -/
theorem Reachable.owner {p : Persistent} {n : Nat} (reachable : b.Reachable)
    (found : b.skeleton? m = some s) (named : b.registry.get? (p.token s) = some (p.value n)) :
    n = m ∧ s.phase.holdsTokens = true := by
  have owned := reachable.records.named _ _ named (p.isShared_value n)
  obtain ⟨actions, rfl⟩ := reachable
  have belongs := belongs_run p actions found
  cases holds : s.phase.holdsTokens with
  | true =>
    have same := (records_run actions).distinct _ _ _ owned (token?_of_holds p found holds)
    exact ⟨p.value_inj same, rfl⟩
  | false => exact absurd owned (belongs.spent holds _)

end Bridge

end MachineBridge
