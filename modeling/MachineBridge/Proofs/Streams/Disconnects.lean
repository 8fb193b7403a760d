import MachineBridge.Proofs.History
import MachineBridge.Proofs.Streams.Uses
import MachineBridge.Proofs.Tokens.Account

/-!
# MachineBridge.Proofs.Streams.Disconnects

The lost attachments of a machine over a run.  The histories of a run are read off the uses
of the pipeline: `acceptedEvents` are the events that arrived while the inbox was open, and
`handledEvents` those that the worker took out of it.

The first subscriber gets all events that are accepted, the earlier ones included, and a
later one those that the worker handles after it subscribed.  When the inbox is closed and
the worker has handled what was in it, the streams end (`relays_disconnects`).
-/

namespace MachineBridge

open DisconnectPipeline (Use)

namespace Bridge

/-! ## histories -/

/-- What can be seen of the use that an action makes of the pipeline of a machine. -/
def observe {α : Type} (f : DisconnectPipeline → Use → List α) (b : Bridge) (m : Nat)
    (act : Action) : List α :=
  match b.pipeline? m, b.pipelineUse? m act with
  | some (p, _), some u => f p u
  | _, _ => []

/-- The uses of the pipeline of a machine in a run, in order. -/
def pipelineUses (m : Nat) (b : Bridge) (actions : List (Environment × Action)) : List Use :=
  b.collect (fun b _ act => b.observe (fun _ u => [u]) m act) actions

/-- The events that arrive while the inbox of a machine is open, in order. -/
def acceptedEvents (m : Nat) (b : Bridge) (actions : List (Environment × Action)) :
    List DisconnectEvent :=
  b.collect (fun b _ act => b.observe DisconnectPipeline.accepted m act) actions

/-- The events that the worker of a machine handles in a run, in order. -/
def handledEvents (m : Nat) (b : Bridge) (actions : List (Environment × Action)) :
    List DisconnectEvent :=
  b.collect (fun b _ act => b.observe DisconnectPipeline.handled m act) actions

def receivedDisconnect (b : Bridge) (m i : Nat) : Action → List DisconnectedError
  | .receiveDisconnect k j => if k = m ∧ j = i then (b.receiveDisconnect m i).2.toList else []
  | _ => []

/-- What is received from a subscription in a run, in order. -/
def receivedDisconnects (m i : Nat) (b : Bridge) (actions : List (Environment × Action)) :
    List DisconnectedError :=
  b.collect (fun b _ act => b.receivedDisconnect m i act) actions

variable {b : Bridge} {m i : Nat} {p : DisconnectPipeline} {c : MachineConfiguration} {act : Action}

section Observe

variable {α : Type} (f : DisconnectPipeline → Use → List α)

theorem observe_of_absent (absent : b.pipeline? m = none) (act : Action) :
    b.observe f m act = [] := by
  rw [observe, absent]

theorem observe_of_unused (unused : b.pipelineUse? m act = none) : b.observe f m act = [] := by
  rw [observe, unused]
  cases b.pipeline? m <;> rfl

/-- What is observed of an action is what is observed of the use it makes of a pipeline. -/
theorem observe_of_use {u : Use} (found : b.pipeline? m = some (p, c))
    (used : b.pipelineUse? m act = some u) : b.observe f m act = f p u := by
  rw [observe, found, used]

end Observe

/-- What a subscriber receives is what its queue has. -/
theorem receiveDisconnect_snd (found : b.pipeline? m = some (p, c)) (i : Nat) :
    (b.receiveDisconnect m i).2 = (p.outbound.receive i).2 := by
  obtain ⟨machine, known, same⟩ := Option.map_eq_some_iff.1 found
  cases same
  rw [receiveDisconnect, known]

theorem drainDisconnects_snd (found : b.pipeline? m = some (p, c)) (i : Nat) :
    (b.drainDisconnects m i).2 = (p.outbound.drain i).2 := by
  obtain ⟨machine, known, same⟩ := Option.map_eq_some_iff.1 found
  cases same
  rw [drainDisconnects, known]

/-- What a caller receives is what the use of the pipeline takes from the subscription. -/
theorem receivedDisconnect_eq (found : b.pipeline? m = some (p, c)) (i : Nat) (act : Action) :
    b.receivedDisconnect m i act = b.observe (fun p u => p.received i u) m act := by
  cases used : b.pipelineUse? m act with
  | none =>
    rw [observe_of_unused _ used]
    cases act with
    | receiveDisconnect k j =>
      rw [receivedDisconnect, if_neg]
      rintro ⟨rfl, -⟩
      rw [pipelineUse?, if_pos rfl] at used
      cases used
    | _ => rfl
  | some u =>
    rw [observe_of_use _ found used]
    cases makesUse_of_some used with
    | receive =>
      next j =>
      rw [receivedDisconnect, DisconnectPipeline.received]
      by_cases own : j = i
      · subst own
        rw [if_pos ⟨rfl, rfl⟩, if_pos rfl, receiveDisconnect_snd found]
      · rw [if_neg fun h => own h.2, if_neg own]
    | _ => rfl

/-! ## one step -/

/-- Once a machine is there, its pipeline changes by its uses only, and its configuration
does not change. -/
theorem pipeline?_step_of_found (reachable : b.Reachable) (env : Environment) (act : Action)
    (found : b.pipeline? m = some (p, c)) :
    (b.step env act).pipeline? m = some (p.react c (b.pipelineUse? m act), c) := by
  by_cases create : ∃ platform c, act = .beginCreate platform c
  · obtain ⟨platform, c', rfl⟩ := create
    obtain same | ⟨absent, -⟩ := b.getElem?_beginCreate platform c' m
    · exact (pipeline?_congr same).trans found
    · rw [pipeline?, absent] at found
      cases found
  · have other : ∀ platform c, act ≠ .beginCreate platform c := fun platform c same =>
      create ⟨platform, c, same⟩
    rw [pipeline?_step reachable env other m, found]
    rfl

/-- A machine is finalized when its pipeline is shut down. -/
theorem finalized_step_iff (env : Environment) (act : Action) :
    (b.step env act).Finalized m ↔ b.Finalized m ∨ b.pipelineUse? m act = some .shutdown := by
  constructor
  · intro after
    obtain rfl | earlier := finalized_step after
    · obtain same | ⟨s, skeleton, releasing, -⟩ := b.finishTeardown_cases m
      · rw [step, same] at after
        exact .inl after
      · refine .inr (if_pos ⟨rfl, ?_⟩)
        rw [skeleton, Option.map_some, releasing]
    · exact .inl earlier
  · rintro (earlier | used)
    · exact earlier.step env act
    · cases makesUse_of_some used with
      | shutdown releasing => exact finalized_finishTeardown releasing

/-- Nobody subscribes to a finalized machine. -/
theorem not_finalized_of_subscribe (accepted : (b.subscribeDisconnects m).2.isOk = true) :
    ¬b.Finalized m := by
  cases admitted : b.admitted m PlatformVersion.forStopAndGraphics with
  | error e =>
    rw [subscribeDisconnects, admitted] at accepted
    cases accepted
  | ok machine =>
    obtain ⟨skeleton, live, -⟩ := skeleton?_of_admitted admitted
    rintro ⟨s, known, finalized⟩
    cases skeleton.symm.trans known
    rw [live] at finalized
    cases finalized

/-! ## nothing is lost -/

/-- What a run made of the pipeline of a machine, by its uses. -/
structure Accounted (b : Bridge) (m : Nat) (uses : List Use)
    (accepted handled : List DisconnectEvent) : Prop where
  absent : b.pipeline? m = none → uses = [] ∧ accepted = [] ∧ handled = []
  stage : ∀ p c, b.pipeline? m = some (p, c) → p.Stage (b.Finalized m) accepted handled
  isOpen : ∀ p c, b.pipeline? m = some (p, c) →
    (p.isOpen = true ↔ .endReports ∉ uses ∧ .shutdown ∉ uses)
  subscriptions : ∀ p c, b.pipeline? m = some (p, c) →
    p.outbound.subscriptions.length = uses.count .subscribe
  finalized : .shutdown ∈ uses ↔ b.Finalized m

theorem not_finalized_of_absent (absent : b.pipeline? m = none) : ¬b.Finalized m := by
  rintro ⟨s, found, -⟩
  have none : b.machines[m]? = none := Option.map_eq_none_iff.1 absent
  rw [skeleton?, none] at found
  cases found

/-- A machine that is not there yet has no history. -/
theorem accounted_step_of_absent (reachable : b.Reachable) (env : Environment)
    (absent : b.pipeline? m = none) (act : Action) :
    (b.step env act).Accounted m [] [] [] := by
  have fresh : ¬(b.step env act).Finalized m := by
    rw [finalized_step_iff]
    rintro (finalized | used)
    · exact not_finalized_of_absent absent finalized
    · cases makesUse_of_some used with
      | shutdown releasing =>
        have none : b.machines[m]? = none := Option.map_eq_none_iff.1 absent
        rw [skeleton?, none] at releasing
        cases releasing
  have begun : ∀ p c, (b.step env act).pipeline? m = some (p, c) →
      p.isOpen = true ∧ p.inbox = [] ∧ p.worker = .notStarted ∧ p.outbound = {} := by
    intro p c found
    by_cases create : ∃ platform c, act = .beginCreate platform c
    · obtain ⟨platform, c', rfl⟩ := create
      obtain same | ⟨-, machine, after, -, fresh⟩ := b.getElem?_beginCreate platform c' m
      · have none := (pipeline?_congr same).trans absent
        cases none.symm.trans found
      · cases (pipeline?_of_found after).symm.trans found
        rw [fresh]
        exact ⟨rfl, rfl, rfl, rfl⟩
    · have other : ∀ platform c, act ≠ .beginCreate platform c := fun platform c same =>
        create ⟨platform, c, same⟩
      rw [pipeline?_step reachable env other m, absent] at found
      cases found
  exact
    { absent := fun _ => ⟨rfl, rfl, rfl⟩
      stage := fun p c found => by
        obtain ⟨-, inbox, worker, outbound⟩ := begun p c found
        exact .waiting worker inbox rfl outbound
      isOpen := fun p c found => by simp [(begun p c found).1]
      subscriptions := fun p c found => by rw [(begun p c found).2.2.2]; rfl
      finalized := by simp [fresh] }

section Step

variable {uses : List Use} {accepted handled : List DisconnectEvent}

/-- A step that does not use the pipeline. -/
theorem Accounted.step_of_unused (h : b.Accounted m uses accepted handled)
    (reachable : b.Reachable) (env : Environment) (found : b.pipeline? m = some (p, c))
    (unused : b.pipelineUse? m act = none) :
    (b.step env act).Accounted m uses accepted handled := by
  have after : (b.step env act).pipeline? m = some (p, c) := by
    rw [pipeline?_step_of_found reachable env act found, unused]
    rfl
  have finalized : (b.step env act).Finalized m ↔ b.Finalized m := by
    simp [finalized_step_iff, unused]
  have same : (b.step env act).pipeline? m = b.pipeline? m := after.trans found.symm
  exact
    { absent := fun absent => h.absent (same ▸ absent)
      stage := fun q d known => (h.stage q d (same ▸ known)).imp finalized.2
      isOpen := fun q d known => h.isOpen q d (same ▸ known)
      subscriptions := fun q d known => h.subscriptions q d (same ▸ known)
      finalized := h.finalized.trans finalized.symm }

/-- A step that uses the pipeline. -/
theorem Accounted.step_of_use {u : Use} (h : b.Accounted m uses accepted handled)
    (reachable : b.Reachable) (env : Environment) (found : b.pipeline? m = some (p, c))
    (used : b.pipelineUse? m act = some u) :
    (b.step env act).Accounted m (uses ++ [u]) (accepted ++ p.accepted u)
      (handled ++ p.handled u) := by
  have after : (b.step env act).pipeline? m = some (p.use c u, c) := by
    rw [pipeline?_step_of_found reachable env act found, used]
    rfl
  have unique : ∀ q d, (b.step env act).pipeline? m = some (q, d) → q = p.use c u :=
    fun q d known => (Prod.mk.inj (Option.some.inj (known.symm.trans after))).1
  have finalized : (b.step env act).Finalized m ↔ b.Finalized m ∨ u = .shutdown := by
    rw [finalized_step_iff, used, Option.some_inj]
  have alive : u = .subscribe → ¬b.Finalized m := by
    rintro rfl
    cases makesUse_of_some used with
    | subscribe accepted => exact not_finalized_of_subscribe accepted
  exact
    { absent := fun absent => absurd (absent.symm.trans after) (by simp)
      stage := fun q d known => by
        rw [unique q d known]
        exact ((h.stage p c found).use c alive).imp finalized.2
      isOpen := fun q d known => by
        rw [unique q d known, DisconnectPipeline.isOpen_use, h.isOpen p c found]
        simp only [List.mem_append, List.mem_singleton, not_or]
        grind
      subscriptions := fun q d known => by
        rw [unique q d known, DisconnectPipeline.length_use, h.subscriptions p c found,
          List.count_append, List.count_singleton]
        simp
      finalized := by
        rw [List.mem_append, h.finalized, List.mem_singleton, finalized]
        simp [eq_comm] }

/-- A step accounts for the event that it accepts and for the one that it handles. -/
theorem Accounted.step (h : b.Accounted m uses accepted handled) (reachable : b.Reachable)
    (env : Environment) (act : Action) :
    (b.step env act).Accounted m (uses ++ b.observe (fun _ u => [u]) m act)
      (accepted ++ b.observe DisconnectPipeline.accepted m act)
      (handled ++ b.observe DisconnectPipeline.handled m act) := by
  cases found : b.pipeline? m with
  | none =>
    obtain ⟨rfl, rfl, rfl⟩ := h.absent found
    rw [observe_of_absent _ found, observe_of_absent _ found, observe_of_absent _ found]
    exact accounted_step_of_absent reachable env found act
  | some known =>
    obtain ⟨p, c⟩ := known
    cases used : b.pipelineUse? m act with
    | none =>
      rw [observe_of_unused _ used, observe_of_unused _ used, observe_of_unused _ used,
        List.append_nil, List.append_nil, List.append_nil]
      exact h.step_of_unused reachable env found used
    | some u =>
      rw [observe_of_use _ found used, observe_of_use _ found used, observe_of_use _ found used]
      exact h.step_of_use reachable env found used

end Step

/-- After every run the pipeline of a machine is what its uses made it. -/
theorem accounted_run (actions : List (Environment × Action)) (m : Nat) :
    (({} : Bridge).run actions).Accounted m (pipelineUses m {} actions)
      (acceptedEvents m {} actions) (handledEvents m {} actions) := by
  induction actions using List.reverseRecOn with
  | nil =>
    exact
      { absent := fun _ => ⟨rfl, rfl, rfl⟩
        stage := by simp [run, pipeline?]
        isOpen := by simp [run, pipeline?]
        subscriptions := by simp [run, pipeline?]
        finalized := by simp [pipelineUses, collect, Finalized, skeleton?, run] }
  | append_singleton before last ih =>
    rw [run_append, pipelineUses, acceptedEvents, handledEvents, collect_append_singleton,
      collect_append_singleton, collect_append_singleton]
    exact ih.step ⟨before, rfl⟩ last.1 last.2

/-! ## subscribers -/

/-- A caller has a subscription: what it got and what it is owed is what was handled for it. -/
def Awaits (b : Bridge) (m i : Nat) (got : List DisconnectedError)
    (handled : List DisconnectEvent) : Prop :=
  ∃ p c ahead, b.pipeline? m = some (p, c) ∧ p.outbound.Owes i ahead ∧
    got ++ ahead = handled.map (·.enrich c)

/-- Who may subscribe, and the number of the subscription. -/
theorem subscribeDisconnects_eq_ok_iff (b : Bridge) (m i : Nat) :
    (b.subscribeDisconnects m).2 = .ok i ↔
      ∃ machine, b.machines[m]? = some machine ∧
        machine.skeleton.Admits PlatformVersion.forStopAndGraphics ∧
        i = machine.disconnect.outbound.subscriptions.length := by
  unfold subscribeDisconnects
  cases admitted : b.admitted m PlatformVersion.forStopAndGraphics with
  | error e =>
    constructor
    · intro accepted
      cases accepted
    · rintro ⟨machine, found, admits, -⟩
      rw [admitted_eq_ok_iff.2 ⟨found, admits⟩] at admitted
      cases admitted
  | ok machine =>
    obtain ⟨found, admits⟩ := admitted_eq_ok_iff.1 admitted
    constructor
    · intro accepted
      cases accepted
      exact ⟨machine, found, admits, rfl⟩
    · rintro ⟨other, found', -, rfl⟩
      cases found.symm.trans found'
      rfl

/-- A subscription that is accepted is a use of the pipeline. -/
theorem pipelineUse?_subscribe (accepted : (b.subscribeDisconnects m).2 = .ok i) :
    b.pipelineUse? m (.subscribeDisconnects m) = some .subscribe :=
  if_pos ⟨rfl, by rw [accepted]; rfl⟩

/-- The subscription that a caller gets is its own. -/
theorem awaits_subscribeDisconnects (reachable : b.Reachable) (env : Environment)
    (accepted : (b.subscribeDisconnects m).2 = .ok i) :
    (b.step env (.subscribeDisconnects m)).Awaits m i [] [] := by
  obtain ⟨machine, found, -, rfl⟩ := (subscribeDisconnects_eq_ok_iff b m i).1 accepted
  have after :=
    pipeline?_step_of_found reachable env (.subscribeDisconnects m) (pipeline?_of_found found)
  rw [pipelineUse?_subscribe accepted] at after
  exact ⟨_, _, [], after, machine.disconnect.outbound.owes_subscribe, rfl⟩

/-- A subscription is owed what is handled as long as its receiver is kept. -/
theorem Awaits.step {got : List DisconnectedError} {since : List DisconnectEvent}
    (h : b.Awaits m i got since) (reachable : b.Reachable) (env : Environment)
    (kept : act ≠ .dropDisconnects m i) :
    (b.step env act).Awaits m i (got ++ b.receivedDisconnect m i act)
      (since ++ b.observe DisconnectPipeline.handled m act) := by
  obtain ⟨p, c, ahead, found, owes, total⟩ := h
  have after := pipeline?_step_of_found reachable env act found
  rw [receivedDisconnect_eq found]
  cases used : b.pipelineUse? m act with
  | none =>
    rw [used] at after
    rw [observe_of_unused _ used, observe_of_unused _ used, List.append_nil, List.append_nil]
    exact ⟨p, c, ahead, after, owes, total⟩
  | some u =>
    rw [used] at after
    rw [observe_of_use _ found used, observe_of_use _ found used]
    have undropped : u ≠ .drop i := by
      rintro rfl
      cases makesUse_of_some used with
      | drop => exact kept rfl
    obtain ⟨actions, rfl⟩ := reachable
    have stage := (accounted_run actions m).stage p c found
    obtain ⟨ahead', owes', more⟩ := DisconnectPipeline.owes_use owes stage c undropped
    refine ⟨_, c, ahead', after, owes', ?_⟩
    rw [List.append_assoc, more, ← List.append_assoc, total, List.map_append]

/-- A subscription is owed what is handled in a run in which its receiver is kept. -/
theorem Awaits.run {got : List DisconnectedError} {since : List DisconnectEvent}
    (h : b.Awaits m i got since) (reachable : b.Reachable) {actions : List (Environment × Action)}
    (kept : ∀ s ∈ actions, s.2 ≠ .dropDisconnects m i) :
    (b.run actions).Awaits m i (got ++ receivedDisconnects m i b actions)
      (since ++ handledEvents m b actions) := by
  induction actions using List.reverseRecOn with
  | nil =>
    rw [receivedDisconnects, handledEvents, collect, collect, List.append_nil, List.append_nil]
    exact h
  | append_singleton before last ih =>
    have earlier := ih fun s mem => kept s (List.mem_append_left _ mem)
    rw [run_append, receivedDisconnects, handledEvents, collect_append_singleton,
      collect_append_singleton, ← List.append_assoc, ← List.append_assoc]
    exact earlier.step (reachable.after before) last.1
      (kept last (List.mem_append_right _ List.mem_cons_self))

/-! ## the end of the streams -/

/-- The worker of a closed pipeline ends when it has had enough turns. -/
theorem left_run (reachable : b.Reachable) (found : b.pipeline? m = some (p, c))
    (started : p.worker ≠ .notStarted) (isClosed : p.isOpen = false)
    (actions : List (Environment × Action)) :
    ∃ q, (b.run actions).pipeline? m = some (q, c) ∧
      q.left = p.left - (pipelineUses m b actions).count .work := by
  induction actions generalizing b p with
  | nil => exact ⟨p, found, rfl⟩
  | cons s rest ih =>
    have after := pipeline?_step_of_found reachable s.1 s.2 found
    have next := reachable.step s.1 s.2
    rw [pipelineUses, collect, List.count_append]
    cases used : b.pipelineUse? m s.2 with
    | none =>
      rw [used] at after
      obtain ⟨q, found', left⟩ := ih next after started isClosed
      refine ⟨q, found', ?_⟩
      rw [observe_of_unused _ used, List.count_nil, Nat.zero_add]
      exact left
    | some u =>
      rw [used] at after
      obtain ⟨started', nearer⟩ := DisconnectPipeline.left_use c u started isClosed
      have isClosed' : (p.use c u).isOpen = false := by
        rw [Bool.eq_false_iff, Ne, DisconnectPipeline.isOpen_use, isClosed]
        simp
      obtain ⟨q, found', left⟩ := ih next after started' isClosed'
      refine ⟨q, found', ?_⟩
      rw [left, DisconnectPipeline.react, nearer, observe_of_use _ found used, List.count_singleton,
        Nat.sub_sub]
      simp [pipelineUses]

/-! ## creation -/

/-- A machine keeps its configuration. -/
theorem configuration_run (reachable : b.Reachable) (found : b.pipeline? m = some (p, c))
    (actions : List (Environment × Action)) : ∃ q, (b.run actions).pipeline? m = some (q, c) := by
  induction actions generalizing b p with
  | nil => exact ⟨p, found⟩
  | cons s rest ih =>
    exact ih (reachable.step s.1 s.2) (pipeline?_step_of_found reachable s.1 s.2 found)

/-- A machine keeps its platform. -/
theorem platform_run {s : MachineSkeleton} (found : b.skeleton? m = some s)
    (actions : List (Environment × Action)) :
    ∃ s', (b.run actions).skeleton? m = some s' ∧ s'.platform = s.platform := by
  induction actions generalizing b s with
  | nil => exact ⟨s, found, rfl⟩
  | cons a rest ih =>
    have kept : ∃ s', (b.step a.1 a.2).skeleton? m = some s' ∧ s'.platform = s.platform := by
      have step := b.skeletonStep_step a.1 a.2 m
      generalize (b.step a.1 a.2).skeleton? m = after at step
      cases step with
      | same => exact ⟨s, found, rfl⟩
      | begun fresh => cases found.symm.trans fresh
      | created known _ _ | released known _ | finished known _ | opened known _ _ _
      | refused known _ _ _ | closed known _ _ =>
        cases found.symm.trans known
        exact ⟨_, rfl, rfl⟩
    obtain ⟨s', found', platform⟩ := kept
    obtain ⟨s'', found'', platform'⟩ := ih found'
    exact ⟨s'', found'', platform'.trans platform⟩

/-- A machine keeps the platform and the configuration that it is created with. -/
theorem created_run (reachable : b.Reachable) {platform : PlatformVersion}
    (created : (b.beginCreate platform c).2 = .ok m) (env : Environment)
    (actions : List (Environment × Action)) :
    ∃ machine, ((b.step env (.beginCreate platform c)).run actions).machines[m]? = some machine ∧
      machine.platform = platform ∧ machine.configuration = c := by
  obtain ⟨begun, found, rfl, rfl⟩ := beginCreate_of_ok created
  have next := reachable.step env (.beginCreate begun.platform begun.configuration)
  obtain ⟨q, kept⟩ := configuration_run next (pipeline?_of_found found) actions
  obtain ⟨s, kept', platform⟩ := platform_run (skeleton?_of_found found) actions
  obtain ⟨machine, there, same⟩ := Option.map_eq_some_iff.1 kept
  obtain ⟨machine', there', rfl⟩ := Option.map_eq_some_iff.1 kept'
  cases there.symm.trans there'
  exact ⟨machine, there, platform, (Prod.mk.inj same).2⟩

/-! ## what callers see -/

/-- What a caller got from a subscription and what it can still receive is what was handled,
each event with the device that the machine was configured with.  Behind that, the stream
ends if the public channel is closed. -/
def HearsDisconnects (b : Bridge) (m i : Nat) (got : List DisconnectedError)
    (handled : List DisconnectEvent) : Prop :=
  ∃ machine ahead, b.machines[m]? = some machine ∧
    got ++ ahead = handled.map (·.enrich machine.configuration) ∧
    (b.receiveDisconnect m i).2 = .next machine.disconnect.outbound.closed ahead ∧
    (b.drainDisconnects m i).2 = (ahead, machine.disconnect.outbound.closed)

/-- A subscriber that awaits events hears of what was handled. -/
theorem Awaits.hears {got : List DisconnectedError} {handled : List DisconnectEvent}
    (h : b.Awaits m i got handled) : b.HearsDisconnects m i got handled := by
  obtain ⟨p, c, ahead, found, owes, total⟩ := h
  have received := receiveDisconnect_snd found i
  have drained := drainDisconnects_snd found i
  obtain ⟨machine, known, same⟩ := Option.map_eq_some_iff.1 found
  cases same
  rw [owes.receive.1] at received
  rw [owes.drain.1] at drained
  exact ⟨machine, ahead, known, total, received, drained⟩

/-- A report is accepted while the token of the machine names its open inbox. -/
theorem observe_accepted_of_named {machine : Machine} (found : b.machines[m]? = some machine)
    (named : b.registry.get? machine.disconnect.token = some (.disconnectInbox m))
    (isOpen : machine.disconnect.isOpen = true) (index : Int32) (error : Option ForeignError) :
    b.observe DisconnectPipeline.accepted m
        (.receive (.disconnected machine.disconnect.token index error)) =
      [{ index, cause := error.getD .unspecified }] := by
  have reaches : b.reaches m (.disconnected machine.disconnect.token index error) = true := by
    obtain ⟨n, -, accepted⟩ | ⟨unnamed, -⟩ :=
      receive_cases_of_use (e := .disconnected machine.disconnect.token index error) rfl b
    · simp [Bridge.reaches, found, accepted, Callback.token, Except.isOk, Except.toBool]
    · exact absurd named (unnamed m)
  have used : b.pipelineUse? m (.receive (.disconnected machine.disconnect.token index error)) =
      some (.report { index, cause := error.getD .unspecified }) := if_pos reaches
  rw [observe_of_use _ (pipeline?_of_found found) used, DisconnectPipeline.accepted, if_pos isOpen]

section Run

variable {actions before after : List (Environment × Action)} {env : Environment}

/-- Whether a machine ever had a subscriber can be read off its channel. -/
theorem heard_run (found : (({} : Bridge).run actions).pipeline? m = some (p, c))
    (heard : .subscribe ∈ pipelineUses m {} actions) : 0 < p.outbound.subscriptions.length := by
  rw [(accounted_run actions m).subscriptions p c found]
  exact List.count_pos_iff.2 heard

/-- What was handled is what was accepted, except for what is in the inbox. -/
theorem handled_append_run (found : (({} : Bridge).run actions).pipeline? m = some (p, c))
    (heard : .subscribe ∈ pipelineUses m {} actions) :
    handledEvents m {} actions ++ p.inbox = acceptedEvents m {} actions :=
  ((accounted_run actions m).stage p c found).handled_append (heard_run found heard)

/-- Nothing is handled before the first subscription, so all that is accepted is handled for
the first subscriber, except for what is in the inbox. -/
theorem handled_append_of_first
    (accepted : ((({} : Bridge).run before).subscribeDisconnects m).2 = .ok i)
    (first : .subscribe ∉ pipelineUses m {} before)
    (found : (({} : Bridge).run (before ++ (env, .subscribeDisconnects m) :: after)).pipeline? m =
      some (p, c)) :
    handledEvents m ((({} : Bridge).run before).step env (.subscribeDisconnects m)) after ++
      p.inbox = acceptedEvents m {} (before ++ (env, .subscribeDisconnects m) :: after) := by
  obtain ⟨machine, there, -⟩ := (subscribeDisconnects_eq_ok_iff _ m i).1 accepted
  have known := pipeline?_of_found there
  have used := pipelineUse?_subscribe accepted
  have earlier := accounted_run before m
  have unheard : machine.disconnect.outbound.subscriptions.length = 0 :=
    (earlier.subscriptions _ _ known).trans (List.count_eq_zero.2 first)
  have unhandled : handledEvents m {} before = [] :=
    (earlier.stage _ _ known).handled_eq_nil unheard
  have heard : .subscribe ∈
      pipelineUses m {} (before ++ (env, .subscribeDisconnects m) :: after) := by
    rw [pipelineUses, collect_append, collect, observe_of_use _ known used]
    simp
  have parts : handledEvents m {} (before ++ (env, .subscribeDisconnects m) :: after) =
      handledEvents m {} before ++ handledEvents m
        ((({} : Bridge).run before).step env (.subscribeDisconnects m)) after := by
    rw [handledEvents, collect_append, collect, observe_of_use _ known used]
    rfl
  rw [← handled_append_run found heard, parts, unhandled, List.nil_append]

/-- The public channel is closed when the worker of a closed pipeline has had enough turns. -/
theorem closed_of_turns_of_started
    (found : (({} : Bridge).run before).pipeline? m = some (p, c))
    (started : p.worker ≠ .notStarted) (isClosed : p.isOpen = false)
    (turns : p.inbox.length < (pipelineUses m (({} : Bridge).run before) after).count .work) :
    ∃ q, (({} : Bridge).run (before ++ after)).pipeline? m = some (q, c) ∧
      q.outbound.closed = true := by
  obtain ⟨q, found', left⟩ := left_run ⟨before, rfl⟩ found started isClosed after
  have atMost : p.left ≤ p.inbox.length + 1 := by
    unfold DisconnectPipeline.left
    split <;> omega
  have ended : q.worker = .ended := by
    by_contra unended
    have positive : q.left = q.inbox.length + 1 := if_neg unended
    omega
  rw [← run_append] at found'
  exact ⟨q, found', ((accounted_run (before ++ after) m).stage q c found').closed_of_ended ended⟩

/-- A pipeline that is shut down ends its stream once the worker has had its turns. -/
theorem closed_of_turns (found : (({} : Bridge).run before).pipeline? m = some (p, c))
    (heard : .subscribe ∈ pipelineUses m {} before) (isClosed : p.isOpen = false)
    (turns : p.inbox.length < (pipelineUses m (({} : Bridge).run before) after).count .work) :
    ∃ q, (({} : Bridge).run (before ++ after)).pipeline? m = some (q, c) ∧
      q.outbound.closed = true := by
  have stage := (accounted_run before m).stage p c found
  exact closed_of_turns_of_started found (stage.started (heard_run found heard)) isClosed turns

end Run

/-- What becomes of the lost attachments that the runtime reports for a machine in a run. -/
structure RelaysDisconnects (m : Nat) (actions : List (Environment × Action)) (b : Bridge) :
    Prop where
  /-- The machine keeps the platform and the configuration that it is created with. -/
  created : ∀ before env platform c after,
    actions = before ++ (env, .beginCreate platform c) :: after →
    ((({} : Bridge).run before).beginCreate platform c).2 = .ok m →
    ∃ machine, b.machines[m]? = some machine ∧ machine.platform = platform ∧
      machine.configuration = c
  /-- While the machine is live, callers can subscribe if the platform is new enough. -/
  admits : ∀ machine, b.machines[m]? = some machine → machine.phase = .live →
    machine.platform.isAtLeast PlatformVersion.forStopAndGraphics = true →
    (b.subscribeDisconnects m).2 = .ok ((pipelineUses m {} actions).count .subscribe)
  /-- A report is accepted while the machine is there and its inbox is open, as long as callers
  release only what they registered.  A missing error is the unspecified one. -/
  reports : ∀ machine index error, b.machines[m]? = some machine →
    machine.phase.holdsTokens = true → machine.disconnect.isOpen = true →
    ({} : Bridge).Along ReleasesOwn actions →
    b.observe DisconnectPipeline.accepted m
        (.receive (.disconnected machine.disconnect.token index error)) =
      [{ index, cause := error.getD .unspecified }]
  /-- The inbox is open until the runtime closes it or the machine is finalized. -/
  isOpen : ∀ machine, b.machines[m]? = some machine →
    (machine.disconnect.isOpen = true ↔
      .endReports ∉ pipelineUses m {} actions ∧ machine.phase ≠ .finalized)
  /-- A subscriber that keeps its receiver gets what the worker handles from then on. -/
  subscriber : ∀ before env after i,
    actions = before ++ (env, .subscribeDisconnects m) :: after →
    ((({} : Bridge).run before).subscribeDisconnects m).2 = .ok i →
    (∀ s ∈ after, s.2 ≠ .dropDisconnects m i) →
    b.HearsDisconnects m i
      (receivedDisconnects m i ((({} : Bridge).run before).step env (.subscribeDisconnects m)) after)
      (handledEvents m ((({} : Bridge).run before).step env (.subscribeDisconnects m)) after)
  /-- For the first subscriber everything is handled that is accepted, except for what is still
  in the inbox. -/
  first : ∀ before env after i machine,
    actions = before ++ (env, .subscribeDisconnects m) :: after →
    ((({} : Bridge).run before).subscribeDisconnects m).2 = .ok i →
    .subscribe ∉ pipelineUses m {} before → b.machines[m]? = some machine →
    handledEvents m ((({} : Bridge).run before).step env (.subscribeDisconnects m)) after ++
      machine.disconnect.inbox = acceptedEvents m {} actions
  /-- What was handled, in order, is what was accepted, except for what is in the inbox. -/
  conserved : ∀ machine, b.machines[m]? = some machine → .subscribe ∈ pipelineUses m {} actions →
    handledEvents m {} actions ++ machine.disconnect.inbox = acceptedEvents m {} actions
  /-- A turn of the worker handles the next event in the inbox. -/
  turn : ∀ machine, b.machines[m]? = some machine → .subscribe ∈ pipelineUses m {} actions →
    b.observe DisconnectPipeline.handled m (.work m) = machine.disconnect.inbox.head?.toList
  /-- When the worker has nothing to do, the inbox is empty, and the streams have ended if it is
  closed. -/
  idle : ∀ machine, b.machines[m]? = some machine → .subscribe ∈ pipelineUses m {} actions →
    b.canWork m = false →
    machine.disconnect.inbox = [] ∧ machine.disconnect.outbound.closed = !machine.disconnect.isOpen
  /-- Once the inbox is closed, the streams end when the worker has had a turn for each event
  that was left, and one more. -/
  ends : ∀ before after machine, actions = before ++ after →
    (({} : Bridge).run before).machines[m]? = some machine →
    .subscribe ∈ pipelineUses m {} before → machine.disconnect.isOpen = false →
    machine.disconnect.inbox.length <
      (pipelineUses m (({} : Bridge).run before) after).count .work →
    ∃ machine', b.machines[m]? = some machine' ∧ machine'.disconnect.outbound.closed = true
  /-- An event is received with its index, its cause, and the device at its index. -/
  enriched : ∀ (e : DisconnectEvent) (c : MachineConfiguration),
    (e.enrich c).index = e.index ∧ (e.enrich c).cause = e.cause ∧
      ∀ d, (e.enrich c).device = some d ↔
        0 ≤ e.index.toInt ∧ c.networkDevices[e.index.toInt.toNat]? = some d

/-- The pipeline of a machine over every run. -/
theorem relays_disconnects (m : Nat) (actions : List (Environment × Action)) :
    RelaysDisconnects m actions (({} : Bridge).run actions) where
  created := by
    rintro before env platform c after rfl created
    rw [run_append]
    exact created_run ⟨before, rfl⟩ created env after
  admits := by
    intro machine found live release
    refine (subscribeDisconnects_eq_ok_iff _ m _).2 ⟨machine, found, ⟨live, release⟩, ?_⟩
    exact ((accounted_run actions m).subscriptions _ _ (pipeline?_of_found found)).symm
  reports := by
    intro machine index error found holds isOpen own
    have named := holds_run own _ _ (token?_of_holds .disconnect (skeleton?_of_found found) holds)
    exact observe_accepted_of_named found named isOpen index error
  isOpen := by
    intro machine found
    have account := accounted_run actions m
    rw [account.isOpen _ _ (pipeline?_of_found found), account.finalized, finalized_iff found]
  subscriber := by
    rintro before env after i rfl accepted kept
    have reachable : (({} : Bridge).run before).Reachable := ⟨before, rfl⟩
    have awaits := awaits_subscribeDisconnects reachable env accepted
    rw [run_append]
    exact (awaits.run (reachable.step env _) kept).hears
  first := by
    rintro before env after i machine rfl accepted first found
    exact handled_append_of_first accepted first (pipeline?_of_found found)
  conserved := fun machine found heard => handled_append_run (pipeline?_of_found found) heard
  turn := by
    intro machine found heard
    have known := pipeline?_of_found found
    have used : (({} : Bridge).run actions).pipelineUse? m (.work m) = some .work := if_pos rfl
    rw [observe_of_use _ known used]
    exact ((accounted_run actions m).stage _ _ known).handled_work (heard_run known heard)
  idle := by
    intro machine found heard idle
    have known := pipeline?_of_found found
    rw [canWork, found] at idle
    exact ((accounted_run actions m).stage _ _ known).idle (heard_run known heard) idle
  ends := by
    rintro before after machine rfl found heard isClosed turns
    obtain ⟨q, known, closed⟩ := closed_of_turns (pipeline?_of_found found) heard isClosed turns
    obtain ⟨machine', there, same⟩ := Option.map_eq_some_iff.1 known
    have outcome : machine'.disconnect = q := (Prod.mk.inj same).1
    exact ⟨machine', there, outcome ▸ closed⟩
  enriched := by
    intro e c
    refine ⟨rfl, rfl, fun d => ?_⟩
    show c.device? e.index = some d ↔ _
    unfold MachineConfiguration.device?
    split
    · next negative => simp [Int.not_le.2 negative]
    · next inside => exact ⟨fun h => ⟨Int.not_lt.1 inside, h⟩, And.right⟩

/-- Events of before the first subscription are received, also when the runtime has closed the
inbox by then, and so are those of unknown devices. -/
example :
    let device : NetworkDevice := { attachment := .nat }
    let report (index : Int32) : Environment × Action :=
      (.idle, .receive (.disconnected ⟨2⟩ index none))
    let before := [(.idle, .beginCreate { major := 13, minor := 0 }
        { cpuCount := 2, memorySize := 4096, networkDevices := [device] }),
      report (-1), (.idle, .finishCreate 0 none), report 0,
      (.idle, .receive (.disconnectsEnded ⟨2⟩)), report 0]
    let after := [(.idle, .work 0), (.idle, .subscribeDisconnects 0), (.idle, .work 0),
      (.idle, .work 0)]
    let b := (({} : Bridge).run before).step .idle (.subscribeDisconnects 0)
    acceptedEvents 0 {} before = [⟨-1, .unspecified⟩, ⟨0, .unspecified⟩] ∧
      ((b.run after).drainDisconnects 0 0).2 =
        ([⟨.unspecified, -1, none⟩, ⟨.unspecified, 0, some device⟩], true) ∧
      ((b.run after).drainDisconnects 0 1).2 = ([⟨.unspecified, 0, some device⟩], true) := by
  decide +kernel

end Bridge

end MachineBridge
