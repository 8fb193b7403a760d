import MachineBridge.Proofs.Isolation.Own

/-!
# MachineBridge.Proofs.Isolation.Run

Machines do not interfere.  All machines share one registry and one counter of tokens, yet each
goes through a run as if it were the only machine: without the steps of the others the run
leaves the same machine, the same calls and the same answers, under other tokens in the same
order (`independent_run`).

The steps of a run are those of machines, so that no window is opened and nobody else registers
or releases anything.  The runtime of a machine may report anything under any token that it was
ever given.
-/

namespace MachineBridge

/-! ## renamings that agree on a step -/

def CallbackError.token? : CallbackError → Option Handle
  | .handle (.notFound h) => some h
  | .handle (.typeMismatch h _ _) => some h
  | .unknownState _ => none
  | .alreadyCompleted h => some h

/-- Renamings that agree on the token of an error make the same of it. -/
theorem CallbackError.rename_congr {ρ σ : Handle → Handle} {e : CallbackError}
    (agree : ∀ h, e.token? = some h → ρ h = σ h) : e.rename ρ = e.rename σ := by
  cases e with
  | handle cause =>
    cases cause with
    | notFound h => rw [rename, rename, HandleError.rename, HandleError.rename, agree h rfl]
    | typeMismatch h _ _ => rw [rename, rename, HandleError.rename, HandleError.rename, agree h rfl]
  | unknownState code => rfl
  | alreadyCompleted h => rw [rename, rename, agree h rfl]

theorem Callback.rename_congr {ρ σ : Handle → Handle} {e : Callback}
    (agree : ρ e.token = σ e.token) : e.rename ρ = e.rename σ := by
  cases e <;> simp only [rename, token] at agree ⊢ <;> rw [agree]

namespace Bridge

variable {b b' : Bridge} {m k : Nat} {act : Action} {h : Handle} {ρ : Handle → Handle}
  {actions : List (Environment × Action)}

/-- A report is refused for its own token, if for any. -/
theorem token?_of_refused {e : Callback} {cause : CallbackError}
    (refused : (b.receive e).2 = .error cause) (about : cause.token? = some h) : h = e.token := by
  rw [receive] at refused
  split at refused
  · cases refused
  · split at refused
    · next cause' unresolved =>
      cases refused
      rw [Registry.resolve] at unresolved
      split at unresolved
      · cases unresolved
        exact (Option.some.inj about).symm
      · split at unresolved <;> cases unresolved
        exact (Option.some.inj about).symm
    · cases e with
      | completion token error =>
        rw [deliver] at refused
        split at refused <;> cases refused
        exact (Option.some.inj about).symm
      | stateChanged token code =>
        rw [deliver] at refused
        split at refused <;> cases refused
        cases about
      | disconnected | disconnectsEnded | windowClosed => cases refused

/-- A machine is told of its own tokens only. -/
theorem rename_answer_congr (env : Environment) (acts : b.acts m act = true)
    (agree : ∀ h ∈ b.given m, ρ h = b.rank m h) :
    (b.answer env act).rename ρ = (b.answer env act).rename (b.rank m) := by
  cases act with
  | receive e =>
    refine congrArg Answer.delivered ?_
    cases refused : (b.receive e).2 with
    | ok _ => rfl
    | error cause =>
      refine congrArg Except.error (CallbackError.rename_congr fun h about => ?_)
      rw [token?_of_refused refused about]
      exact agree e.token (of_decide_eq_true acts)
  | _ => rfl

/-- Renamings that agree on the tokens of a machine make the same of its actions. -/
theorem alone_action_congr (acts : b.acts m act = true)
    (agree : ∀ h ∈ b.given m, ρ h = b.rank m h) : act.alone ρ = act.alone (b.rank m) := by
  cases act with
  | receive e =>
    have own : e.token ∈ b.given m := of_decide_eq_true acts
    exact congrArg Action.receive (Callback.rename_congr (agree e.token own))
  | _ => rfl

/-! ## runs of machines -/

/-- Every step of a run is a step of some machine. -/
def OfMachines (b : Bridge) (actions : List (Environment × Action)) : Prop :=
  b.Along (fun b _ act => ∃ m, b.acts m act = true) actions

/-- A run of steps of machines leaves the bridge tidy. -/
theorem tidy_run (tidy : b.Tidy) (own : b.OfMachines actions) : (b.run actions).Tidy := by
  induction actions generalizing b with
  | nil => exact tidy
  | cons s rest ih =>
    obtain ⟨⟨k, acts⟩, later⟩ := own
    exact ih ((machineStep_of_acts tidy s.1 acts).tidy tidy) later

/-- The tokens that a machine was given stay the first. -/
theorem given_prefix_run (tidy : b.Tidy) (own : b.OfMachines actions) (m : Nat) :
    b.given m <+: (b.run actions).given m := by
  induction actions generalizing b with
  | nil => exact List.prefix_rfl
  | cons s rest ih =>
    obtain ⟨⟨k, acts⟩, later⟩ := own
    have step := machineStep_of_acts tidy s.1 acts
    obtain ⟨new, ext⟩ := step.extends
    refine List.IsPrefix.trans ?_ (ih (step.tidy tidy) later)
    by_cases mine : m = k
    · subst mine
      exact ⟨new, ext.own.symm⟩
    · exact ⟨[], by rw [List.append_nil, ext.others m mine]⟩

/-- A token keeps its rank. -/
theorem rank_run (tidy : b.Tidy) (own : b.OfMachines actions) (mem : h ∈ b.given m) :
    (b.run actions).rank m h = b.rank m h := by
  obtain ⟨later, given⟩ := given_prefix_run tidy own m
  rw [rank, ← given, List.idxOf_append_of_mem mem]
  rfl

/-- Ranks are in the order of the tokens. -/
theorem rank_lt_iff (tidy : b.Tidy) {k : Handle} (first : h ∈ b.given m) (second : k ∈ b.given m) :
    (b.rank m h).raw < (b.rank m k).raw ↔ h.raw < k.raw := by
  have forward {i j : Handle} (mem : i ∈ b.given m) (mem' : j ∈ b.given m)
      (before : (b.rank m i).raw < (b.rank m j).raw) : i.raw < j.raw := by
    have ordered := List.pairwise_iff_getElem.1 (tidy.ordered m) _ _
      (List.idxOf_lt_length_of_mem mem) (List.idxOf_lt_length_of_mem mem')
      (Nat.lt_of_succ_lt_succ before)
    rwa [List.getElem_idxOf, List.getElem_idxOf] at ordered
  refine ⟨forward first second, fun before => ?_⟩
  obtain lt | eq | gt := Nat.lt_trichotomy (b.rank m h).raw (b.rank m k).raw
  · exact lt
  · have same := (rank_inj first).1 (congrArg Handle.mk eq)
    exact absurd before (by simp [same])
  · exact absurd (forward second first gt) (Nat.lt_asymm before)

/-! ## the run without the others -/

/-- What the steps of a machine return, in order. -/
def answers (m : Nat) (b : Bridge) (actions : List (Environment × Action)) : List Answer :=
  b.collect (fun b env act => if b.acts m act then [b.answer env act] else []) actions

/-- A machine goes through a run as if it were the only one, under other tokens. -/
structure Separate (b : Bridge) (m : Nat) (ρ : Handle → Handle)
    (actions : List (Environment × Action)) : Prop where
  steps : (b.alone m).Along (fun b _ act => b.acts 0 act = true) (b.only m ρ actions)
  view : (b.run actions).alone m = (b.alone m).run (b.only m ρ actions)
  answers : (b.alone m).answers 0 (b.only m ρ actions) = (b.answers m actions).map (Answer.rename ρ)

/-- A step of the machine itself. -/
theorem Separate.cons_of_acts {env : Environment} {rest : List (Environment × Action)}
    (tidy : b.Tidy) (acts : b.acts m act = true) (known : ∀ h ∈ b.given m, ρ h = b.rank m h)
    (later : (b.step env act).Separate m ρ rest) : b.Separate m ρ ((env, act) :: rest) := by
  have only : b.only m ρ ((env, act) :: rest) =
      (env.alone m, act.alone ρ) :: (b.step env act).only m ρ rest := if_pos acts
  have same := alone_action_congr acts known
  have acting : (b.alone m).acts 0 (act.alone ρ) = true := same ▸ acts_alone acts
  have seen : (b.step env act).alone m = (b.alone m).step (env.alone m) (act.alone ρ) := by
    rw [same, step_alone tidy env acts]
  have answer : (b.alone m).answer (env.alone m) (act.alone ρ) = (b.answer env act).rename ρ := by
    rw [same, answer_alone tidy env acts, rename_answer_congr env acts known]
  obtain ⟨steps, view, answers⟩ := later
  rw [seen] at steps view answers
  constructor
  · rw [only]
    exact ⟨acting, steps⟩
  · rw [only]
    exact view
  · rw [only, Bridge.answers, collect, if_pos acting, ← Bridge.answers, answers, answer,
      Bridge.answers, Bridge.answers, collect, if_pos acts]
    rfl

/-- A step of another machine. -/
theorem Separate.cons_of_not_acts {env : Environment} {rest : List (Environment × Action)}
    (foreign : ¬b.acts m act = true) (seen : (b.step env act).alone m = b.alone m)
    (later : (b.step env act).Separate m ρ rest) : b.Separate m ρ ((env, act) :: rest) := by
  have only : b.only m ρ ((env, act) :: rest) = (b.step env act).only m ρ rest := if_neg foreign
  obtain ⟨steps, view, answers⟩ := later
  rw [seen] at steps view answers
  constructor
  · rwa [only]
  · rw [only]
    exact view
  · rw [only, answers, Bridge.answers, Bridge.answers, collect, if_neg foreign]
    rfl

/-- A machine goes through every run of machines as if it were the only one. -/
theorem separate_of_tidy (tidy : b.Tidy) (own : b.OfMachines actions)
    (agree : ∀ h ∈ (b.run actions).given m, ρ h = (b.run actions).rank m h) :
    b.Separate m ρ actions := by
  induction actions generalizing b with
  | nil => exact ⟨trivial, rfl, rfl⟩
  | cons s rest ih =>
    obtain ⟨env, act⟩ := s
    -- one renaming for the whole run: tokens keep their ranks, so it is the rank already now
    have known : ∀ h ∈ b.given m, ρ h = b.rank m h := fun h mem => by
      rw [agree h ((given_prefix_run tidy own m).subset mem), rank_run tidy own mem]
    obtain ⟨⟨k, acts⟩, later⟩ := own
    have step := machineStep_of_acts tidy env acts
    have later := ih (step.tidy tidy) later agree
    by_cases mine : b.acts m act = true
    · exact later.cons_of_acts tidy mine known
    · refine later.cons_of_not_acts mine (step.alone_of_ne tidy ?_)
      rintro rfl
      exact mine acts

/-! ## every run of machines -/

/-- A bridge holds for one of its machines what another one holds for its only machine. -/
structure Holds (b : Bridge) (m : Nat) (ρ : Handle → Handle) (only : Bridge) : Prop where
  /-- The tokens of the machine are its own under the renaming. -/
  renamed : ∀ h ∈ b.given m, b.rank m h = ρ h
  /-- The machine, its calls and what is registered for it. -/
  view : b.alone m = only
  /-- In particular its current state, -/
  state : b.state? m = only.state? 0
  /-- what its subscribers have not received yet, -/
  streams : (b.machines[m]?).map (fun x => (x.state.channel, x.disconnect.outbound)) =
    (only.machines[0]?).map fun x => (x.state.channel, x.disconnect.outbound)
  /-- and what its calls return, or that they are pending. -/
  results : (b.calls.filter (isCallOf m)).map (·.result?) = only.calls.map (·.result?)

/-- A bridge holds for a machine what the machine alone holds. -/
theorem holds_alone (b : Bridge) (m : Nat) (known : ∀ h ∈ b.given m, b.rank m h = ρ h) :
    b.Holds m ρ (b.alone m) where
  renamed := known
  view := rfl
  state := by
    rw [state?, state?, machine?_alone, Option.map_map]
    rfl
  streams := by
    rw [machine?_alone, Option.map_map]
    rfl
  results := by
    rw [alone, List.map_map]
    rfl

/-- The other machines make no difference to a machine in a run. -/
structure Independent (m : Nat) (ρ : Handle → Handle) (actions : List (Environment × Action)) :
    Prop where
  /-- The renaming keeps the order of the tokens of the machine. -/
  ordered : ∀ h k, h ∈ (({} : Bridge).run actions).given m →
    k ∈ (({} : Bridge).run actions).given m → ((ρ h).raw < (ρ k).raw ↔ h.raw < k.raw)
  /-- What is left of the run is a run of the machine, the only one. -/
  steps : ({} : Bridge).Along (fun b _ act => b.acts 0 act = true) (({} : Bridge).only m ρ actions)
  /-- Its steps return the same. -/
  answers : ({} : Bridge).answers 0 (({} : Bridge).only m ρ actions) =
    (({} : Bridge).answers m actions).map (Answer.rename ρ)
  /-- At each moment the bridge holds the same for the machine. -/
  moments : ∀ first second, actions = first ++ second →
    (({} : Bridge).run first).Holds m ρ (({} : Bridge).run (({} : Bridge).only m ρ first))

/-- Machines do not interfere: in a run of any machines each of them can do without the others. -/
theorem independent_run (actions : List (Environment × Action))
    (own : ({} : Bridge).OfMachines actions) (m : Nat) :
    Independent m ((({} : Bridge).run actions).rank m) actions := by
  have separate := separate_of_tidy (m := m) tidy_empty own fun h _ => rfl
  exact
    { ordered := fun h k first second => rank_lt_iff (tidy_run tidy_empty own) first second
      steps := separate.steps
      answers := separate.answers
      moments := fun first second split => by
        subst split
        obtain ⟨before, after⟩ := (along_append _ first second).1 own
        have known : ∀ h ∈ (({} : Bridge).run first).given m,
            (({} : Bridge).run first).rank m h =
              (({} : Bridge).run (first ++ second)).rank m h := fun h mem => by
          rw [run_append, rank_run (tidy_run tidy_empty before) after mem]
        have view := (separate_of_tidy tidy_empty before fun h mem => (known h mem).symm).view
        have empty : ({} : Bridge).alone m = {} := alone_of_absent tidy_empty rfl
        rw [empty] at view
        rw [← view]
        exact holds_alone _ m known }

/-- Two machines that take turns. Events come late and under tokens that name nothing any more. -/
def turns : List (Environment × Action) :=
  let platform : PlatformVersion := { major := 13, minor := 0 }
  let configuration : MachineConfiguration := { cpuCount := 2, memorySize := 4096 }
  [.beginCreate platform configuration, .beginCreate platform configuration,
    .receive (.stateChanged ⟨3⟩ 1), .finishCreate 1 none, .finishCreate 0 none,
    .control 0 .pause, .control 1 .resume, .subscribeStates 1, .receive (.completion ⟨6⟩ none),
    .receive (.completion ⟨5⟩ none), .receive (.completion ⟨6⟩ none), .finalize 0,
    .receive (.stateChanged ⟨3⟩ 2), .finishTeardown 0, .receive (.stateChanged ⟨1⟩ 1),
    .control 1 .stop, .receiveState 1 0, .dropReference 1].map (Environment.idle, ·)

theorem independent_turns :
    ({} : Bridge).OfMachines turns ∧ (({} : Bridge).run turns).given 1 = [⟨3⟩, ⟨4⟩, ⟨6⟩, ⟨7⟩] ∧
      Independent 1 ((({} : Bridge).run turns).rank 1) turns := by
  have own : ({} : Bridge).OfMachines turns :=
    ⟨⟨0, rfl⟩, ⟨1, rfl⟩, ⟨1, rfl⟩, ⟨1, rfl⟩, ⟨0, rfl⟩, ⟨0, rfl⟩, ⟨1, rfl⟩, ⟨1, rfl⟩, ⟨1, rfl⟩,
      ⟨0, rfl⟩, ⟨1, rfl⟩, ⟨0, rfl⟩, ⟨1, rfl⟩, ⟨0, rfl⟩, ⟨0, rfl⟩, ⟨1, rfl⟩, ⟨1, rfl⟩, ⟨1, rfl⟩,
      trivial⟩
  exact ⟨own, by decide, independent_run turns own 1⟩

end Bridge

end MachineBridge
