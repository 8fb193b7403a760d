import MachineBridge.Proofs.Windows.Creations
import MachineBridge.Proofs.Windows.Stopping

/-!
# MachineBridge.Proofs.Windows.Descriptions

Under which token and with which description a window is created.  Both are settled when the
window is asked for, and the task that presents it brings them along: the token of the window of
the machine, and the description of the request to open the window that was accepted last at
this moment.  The task may run much later, when there are other descriptions.

What is queued or created was asked for like that (`asked_of_task`, `asked_of_created`), each
request has one window created at most (`createdFor_unique`), and all windows of a machine have
one token (`Asked.token_eq`).
-/

namespace MachineBridge

namespace Bridge

variable {b : Bridge} {env : Environment} {act : Action} {a k m i : Nat} {id : Handle}
  {spec : WindowSpec} {c d : Creation} {actions before : List (Environment × Action)}

/-! ## what is asked for -/

/-- Behind `before`, an action is the request for a window of a machine in an application that
took the given subscription, and asks for the window of the machine as it was opened last. -/
structure AskedAt (m a i : Nat) (id : Handle) (spec : WindowSpec)
    (before : List (Environment × Action)) (env : Environment) (act : Action) : Prop
    extends RequestedAt m a i before act where
  token : ((({} : Bridge).run before).step env act).token? (.windowBinding m) = some id
  latest : latestStart? m (before ++ [(env, act)]) = some (a, spec)

/-- A run has a request for a window of a machine, with a token and a description. -/
def Asked (m a i : Nat) (id : Handle) (spec : WindowSpec) (actions : List (Environment × Action)) :
    Prop :=
  ∃ before env act after, actions = before ++ (env, act) :: after ∧
    AskedAt m a i id spec before env act

/-- A request is one of the run that it ends. -/
theorem AskedAt.asked (h : AskedAt m a i id spec before env act) :
    Asked m a i id spec (before ++ [(env, act)]) := ⟨before, env, act, [], rfl, h⟩

theorem Asked.append_singleton (h : Asked m a i id spec actions) (s : Environment × Action) :
    Asked m a i id spec (actions ++ [s]) := by
  obtain ⟨before, env, act, after, rfl, asked⟩ := h
  refine ⟨before, env, act, after ++ [s], ?_, asked⟩
  rw [List.append_assoc]
  rfl

/-- What a run has asked for it asked for before, or with its last action. -/
theorem Asked.last {s : Environment × Action} (h : Asked m a i id spec (before ++ [s])) :
    Asked m a i id spec before ∨ AskedAt m a i id spec before s.1 s.2 := by
  obtain ⟨first, env, act, after, split, asked⟩ := h
  obtain rfl | ⟨rest, t, rfl⟩ := after.eq_nil_or_concat
  · obtain ⟨rfl, same⟩ := List.append_inj' split rfl
    cases same
    exact .inr asked
  · rw [List.concat_eq_append, ← List.cons_append, ← List.append_assoc] at split
    exact .inl ⟨first, env, act, rest, (List.append_inj' split rfl).1, asked⟩

/-- A request asks for the window as it was opened last, perhaps by this request. -/
theorem latestStart?_of_requests {s : MachineSkeleton}
    (found : (({} : Bridge).run before).skeleton? m = some s)
    (admits : s.Admits PlatformVersion.forStopAndGraphics)
    (requests : Requests m s.window a spec act) :
    latestStart? m (before ++ [(env, act)]) = some (a, spec) := by
  rw [latestStart?, latest?_append_singleton]
  cases requests with
  | start positive same =>
    rw [acceptedStart?_startGraphics found admits positive, same]
    rfl
  | again known =>
    obtain ⟨application, -, description⟩ := WindowState.reopening?_eq_some_iff.1 known
    have recorded := windowRecorded_run before m
    rw [WindowRecorded, found] at recorded
    have first := (recorded.application admits.1).symm.trans application
    have second := (recorded.spec admits.1).symm.trans description
    obtain ⟨latest, there, rfl⟩ := Option.map_eq_some_iff.1 first
    rw [there] at second
    cases second
    exact there

/-- A task that presents a window is queued by a step that asks for it. -/
theorem askedAt_of_queued (fresh : .present id spec m i ∉ (({} : Bridge).run before).tasks k)
    (queued : .present id spec m i ∈ ((({} : Bridge).run before).step env act).tasks k) :
    AskedAt m k i id spec before env act := by
  have taken : (({} : Bridge).run before).taken m = i := by
    cases (({} : Bridge).run before).broughtStep_step env act with
    | fewer earlier _ => exact absurd (earlier k _ rfl queued) fresh
    | more _ _ _ tasks =>
      rw [tasks] at queued
      split at queued
      · obtain earlier | new := List.mem_append.1 queued
        · exact absurd earlier fresh
        · cases List.mem_singleton.1 new
          rfl
      · exact absurd queued fresh
  obtain fewer | ⟨t, posts, more⟩ := ((({} : Bridge).run before).appStep_step env act k).tasks
  · exact absurd (fewer.subset queued) fresh
  · rw [more, List.mem_append, List.mem_singleton] at queued
    obtain rfl := queued.resolve_left fresh
    have token := posts.token?
    cases posts with
    | present found admits requests _ =>
      have accepted := acceptedRequest?_of_requests found admits requests
      exact ⟨⟨accepted, taken⟩, token, latestStart?_of_requests found admits requests⟩
    | other present _ => exact absurd rfl (present id spec m i)

/-- After every run the tasks that present a window have been asked for. -/
theorem asked_of_task (queued : .present id spec m i ∈ (({} : Bridge).run actions).tasks k) :
    Asked m k i id spec actions := by
  induction actions using List.reverseRecOn with
  | nil => cases queued
  | append_singleton before s ih =>
    rw [run_append] at queued
    by_cases earlier : .present id spec m i ∈ (({} : Bridge).run before).tasks k
    · exact (ih earlier).append_singleton s
    · exact (askedAt_of_queued earlier queued).asked

/-! ## what is created -/

/-- A window was created for the request that took a subscription to the states of a machine. -/
def CreatedFor (b : Bridge) (m i : Nat) (c : Creation) : Prop :=
  ∃ x, b.watchers[c.watcher]? = some x ∧ x.machine = m ∧ x.subscription = i

/-- For which request a window was created stays so. -/
theorem CreatedFor.run (h : b.CreatedFor m i c) (more : List (Environment × Action)) :
    (b.run more).CreatedFor m i c := by
  obtain ⟨x, found, rfl, rfl⟩ := h
  obtain ⟨x', found', later⟩ := watcher_run more found
  exact ⟨x', found', later.machine, later.subscription⟩

/-- The watcher of a new window follows the subscription that the request for it took. -/
theorem Creates.createdFor {b' : Bridge} (creates : Creates b a id m i b')
    (same : c.watcher = b.watchers.length) : b'.CreatedFor m i c := by
  refine ⟨{ application := a, id, machine := m, subscription := i }, ?_, rfl, rfl⟩
  rw [creates.watchers, same]
  exact List.getElem?_concat_length

/-- A window is created for one request only. -/
theorem CreatedFor.unique {n j : Nat} (first : b.CreatedFor m i c) (second : b.CreatedFor n j c) :
    m = n ∧ i = j := by
  obtain ⟨x, found, rfl, rfl⟩ := first
  obtain ⟨y, found', rfl, rfl⟩ := second
  cases found.symm.trans found'
  exact ⟨rfl, rfl⟩

/-- A window that was created was asked for. -/
theorem asked_of_created (mem : c ∈ created a {} actions) :
    ∃ m i, (({} : Bridge).run actions).CreatedFor m i c ∧ Asked m a i c.id c.spec actions := by
  induction actions using List.reverseRecOn with
  | nil => cases mem
  | append_singleton before s ih =>
    rw [created, collect_append_singleton, List.mem_append] at mem
    rw [run_append]
    obtain earlier | new := mem
    · obtain ⟨m, i, createdFor, asked⟩ := ih earlier
      exact ⟨m, i, createdFor.run [s], asked.append_singleton s⟩
    · cases creationStep_step a (({} : Bridge).run before) s.1 s.2 with
      | rests quiet _ _ _ =>
        rw [quiet] at new
        cases new
      | @creates m i id spec _ task creates made _ =>
        rw [made] at new
        cases List.mem_singleton.1 new
        have queued : .present id spec m i ∈ (({} : Bridge).run before).tasks a :=
          task ▸ List.mem_cons_self
        exact ⟨m, i, creates.createdFor rfl, (asked_of_task queued).append_singleton s⟩

/-- A window that was created for a request was asked for by it. -/
theorem asked_of_createdFor (mem : c ∈ created a {} actions)
    (createdFor : (({} : Bridge).run actions).CreatedFor m i c) :
    Asked m a i c.id c.spec actions := by
  obtain ⟨n, j, known, asked⟩ := asked_of_created mem
  obtain ⟨rfl, rfl⟩ := createdFor.unique known
  exact asked

/-- A request has one window created at most. -/
theorem createdFor_unique (first : c ∈ created a {} actions) (second : d ∈ created a {} actions)
    (for₁ : (({} : Bridge).run actions).CreatedFor m i c)
    (for₂ : (({} : Bridge).run actions).CreatedFor m i d) : c = d := by
  obtain ⟨x, found, rfl, rfl⟩ := for₁
  obtain ⟨y, found', machine, subscription⟩ := for₂
  have same := (distinct_run actions).watcher_eq found found' machine.symm subscription.symm
  exact List.inj_on_of_nodup_map (createdOnce_run a actions).once first second same

/-! ## the token of the windows of a machine -/

/-- The token that a machine has is the one that it keeps. -/
theorem KeepsToken.eq_of_token? {id' : Handle}
    (keeps : ∃ s, (({} : Bridge).run actions).skeleton? m = some s ∧ KeepsToken id s)
    (token : (({} : Bridge).run actions).token? (.windowBinding m) = some id') : id = id' := by
  obtain ⟨s, found, keeps⟩ := keeps
  have recorded := windowRecorded_run actions m
  rw [WindowRecorded, found] at recorded
  rw [Bridge.token?, found] at token
  have token : s.window.token = some id' := token
  have gone (ending : s.phase ≠ .live) : id = id' := by
    rw [recorded.idle ending] at token
    cases token
  obtain same | releasing | finalized := keeps
  · exact Option.some.inj (same.symm.trans token)
  · exact gone (by simp [releasing])
  · exact gone (by simp [finalized])

/-- A machine keeps the token under which its window was asked for. -/
theorem Asked.keepsToken (h : Asked m a i id spec actions) :
    ∃ s, (({} : Bridge).run actions).skeleton? m = some s ∧ KeepsToken id s := by
  obtain ⟨before, env, act, after, rfl, asked⟩ := h
  obtain ⟨s, known, token⟩ := Option.bind_eq_some_iff.1 asked.token
  rw [run_append]
  exact keepsToken_run known (.inl token) after

/-- A request uses the token that its machine has then. -/
theorem AskedAt.token_run (h : AskedAt m a i id spec before env act) :
    (({} : Bridge).run (before ++ [(env, act)])).token? (.windowBinding m) = some id := by
  rw [run_append]
  exact h.token

/-- All windows of a machine are asked for under one token. -/
theorem Asked.token_eq {j : Nat} {id' : Handle} {spec' : WindowSpec}
    (first : Asked m a i id spec actions) (second : Asked m k j id' spec' actions) : id = id' := by
  induction actions using List.reverseRecOn with
  | nil =>
    obtain ⟨before, env, act, after, split, -⟩ := first
    exact absurd (congrArg List.length split) (by simp)
  | append_singleton before s ih =>
    obtain earlier | new := second.last
    · obtain earlier' | new' := first.last
      · exact ih earlier' earlier
      · exact (KeepsToken.eq_of_token? second.keepsToken new'.token_run).symm
    · exact KeepsToken.eq_of_token? first.keepsToken new.token_run

end Bridge

end MachineBridge
