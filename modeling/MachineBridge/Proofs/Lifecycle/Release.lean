import MachineBridge.Proofs.History

/-!
# MachineBridge.Proofs.Lifecycle.Release

How often the runtime of a machine is told to release it.  What matters of a machine here is
its `life`: the phase, the references that are held, and the releases among the calls that
its runtime got.  Few operations of the bridge change a life, and `LifeStep` lists what they
can do to it.

A live machine has references and was never released; its teardown begins when its owner
finalizes it or when the last reference is dropped, and then it was released once
(`life_run`).
-/

namespace MachineBridge

def MachinePhase.isEnding : MachinePhase → Bool
  | .releasing | .finalized => true
  | .creating | .live | .abandoned => false

/-- What the end of a machine depends on: its phase, the references to it, and how often its
runtime was told to release it. -/
structure Life where
  phase : MachinePhase
  references : Nat
  releases : Nat
deriving DecidableEq

def Machine.life (x : Machine) : Life := ⟨x.phase, x.references, x.calls.count .release⟩

/-- Any other call into the runtime does not count. -/
theorem Machine.life_record (x : Machine) {c : RuntimeCall} (other : c ≠ .release) :
    (x.record c).life = x.life := by
  rw [Machine.life, Machine.record, List.count_append, List.count_singleton]
  simp [Machine.life, other]

namespace Bridge

def life? (b : Bridge) (m : Nat) : Option Life := b.machines[m]?.map Machine.life

theorem life?_of_found {b : Bridge} {m : Nat} {machine : Machine}
    (found : b.machines[m]? = some machine) : b.life? m = some machine.life := by
  rw [life?, found]
  rfl

theorem life?_modifyMachine (b : Bridge) (m k : Nat) {f : Machine → Machine} {g : Life → Life}
    (hf : ∀ x, (f x).life = g x.life) :
    (b.modifyMachine m f).life? k = if m = k then (b.life? k).map g else b.life? k :=
  b.map_getElem?_modifyMachine m k hf

/-! ## edits of other parts -/

/-- The lives change with the phases, the references and the releases of machines only. -/
theorem Edits.life? {b b' : Bridge} {ps : List Part} (h : Edits ps b b')
    (apart : Part.apart ps [.machines, .phases, .references, .releases] = true) :
    b'.life? = b.life? := by
  refine h.keeps_view (fun {p b b'} edit other => ?_) apart
  have same {m : Nat} {f : Machine → Machine} (life : ∀ x, (f x).life = x.life) :
      (b.modifyMachine m f).life? = b.life? :=
    funext fun k => b.map_getElem?_modifyMachine_of_same m k life
  cases edit with
  | machines | phases | references => simp at other
  | windows only | states only | pipelines only _ =>
    exact same fun x => (congrArg Machine.life (only x)).trans rfl
  | runtime =>
    refine same fun x => x.life_record ?_
    rintro rfl
    simp [RuntimeCall.part] at other
  | _ => rfl

/-! ## operations that are a matter of life -/

/-- What an action can do to the life of a machine. -/
inductive LifeStep (act : Action) (m : Nat) : Option Life → Option Life → Prop
  | same {l : Option Life} : LifeStep act m l l
  | begun : LifeStep act m none (some ⟨.creating, 0, 0⟩)
  | created {l : Life} (creating : l.phase = .creating) :
      LifeStep act m (some l) (some { l with phase := .live, references := 1 })
  | failed {l : Life} (creating : l.phase = .creating) :
      LifeStep act m (some l) (some { l with phase := .abandoned })
  | shared {l : Life} (held : l.references ≠ 0) :
      LifeStep act m (some l) (some { l with references := l.references + 1 })
  | dropped {l : Life} (kept : l.phase = .live → l.references ≠ 1) :
      LifeStep act m (some l) (some { l with references := l.references - 1 })
  | released {l : Life} {references : Nat} (live : l.phase = .live)
      (cause : act = .finalize m ∧ references = l.references ∨ references = 0) :
      LifeStep act m (some l)
        (some { l with phase := .releasing, references, releases := l.releases + 1 })
  | finished {l : Life} (releasing : l.phase = .releasing) :
      LifeStep act m (some l) (some { l with phase := .finalized })

variable {act : Action} {m : Nat}

theorem LifeStep.of_eq {l l' : Option Life} (same : l' = l) : LifeStep act m l l' := by
  rw [same]
  exact .same

/-- A change of one machine is a change of it or of another one. -/
theorem lifeStep_of_modify (b : Bridge) (k : Nat) {f : Machine → Machine} {g : Life → Life}
    (hf : ∀ x, (f x).life = g x.life)
    (step : ∀ l, k = m → b.life? k = some l → LifeStep act m (some l) (some (g l))) :
    LifeStep act m (b.life? m) ((b.modifyMachine k f).life? m) := by
  rw [b.life?_modifyMachine k m hf]
  split
  · next own =>
    subst own
    cases found : b.life? k with
    | none => exact .same
    | some l => exact step l rfl found
  · exact .same

/-- A creation begins the life of one machine. -/
theorem lifeStep_beginCreate (b : Bridge) (platform : PlatformVersion) (c : MachineConfiguration)
    (m : Nat) : LifeStep act m (b.life? m) ((b.beginCreate platform c).1.life? m) := by
  unfold beginCreate
  split
  · exact .same
  · split
    · exact .same
    · dsimp only
      rw [life?, life?]
      dsimp only
      obtain lt | rfl | gt := Nat.lt_trichotomy m b.machines.length
      · rw [List.getElem?_append_left lt]
        exact .same
      · rw [List.getElem?_concat_length, List.getElem?_eq_none (Nat.le_refl _)]
        exact .begun
      · rw [List.getElem?_eq_none (Nat.le_of_lt gt),
          List.getElem?_eq_none (by rw [List.length_append, List.length_singleton]; omega)]
        exact .same

/-- A creation that ends makes a machine live or leaves it dead. -/
theorem lifeStep_finishCreate (b : Bridge) (k : Nat) (failure : Option BridgeError) (m : Nat) :
    LifeStep act m (b.life? m) ((b.finishCreate k failure).life? m) := by
  unfold finishCreate
  split
  · exact .same
  · next machine found =>
    split
    · next creating =>
      have known {l : Life} (same : b.life? k = some l) : l.phase = .creating := by
        cases (life?_of_found found).symm.trans same
        exact creating
      split
      · exact b.lifeStep_of_modify k (g := fun l => { l with phase := .live, references := 1 })
          (fun _ => rfl) fun l _ same => .created (known same)
      · exact lifeStep_of_modify { b with registry := _ } k
          (g := fun l => { l with phase := .abandoned })
          (fun _ => rfl) fun l _ same => .failed (known same)
    · exact .same

theorem lifeStep_addReference (b : Bridge) (k m : Nat) :
    LifeStep act m (b.life? m) ((b.addReference k).life? m) := by
  refine b.lifeStep_of_modify k
    (g := fun l => if l.references = 0 then l else { l with references := l.references + 1 })
    (fun x => ?_) fun l _ _ => ?_
  · show Machine.life _ = if x.references = 0 then _ else _
    split <;> rfl
  · split
    · exact .same
    · next held => exact .shared held

/-- What the teardown of a live machine makes of its life. -/
theorem life?_beginTeardown {b : Bridge} {k : Nat} {machine : Machine}
    (found : b.machines[k]? = some machine) (live : machine.phase = .live) (m : Nat) :
    (b.beginTeardown k).life? m =
      if k = m then some ⟨.releasing, machine.references, machine.life.releases + 1⟩
      else b.life? m := by
  have released : (b.modifyMachine k fun x =>
      { x with phase := .releasing, window := {} }.record .release).life? m =
      if k = m then some ⟨.releasing, machine.references, machine.life.releases + 1⟩
      else b.life? m := by
    rw [b.life?_modifyMachine k m
      (g := fun l => { l with phase := .releasing, releases := l.releases + 1 }) ?_]
    · split
      · next own =>
        rw [← own, life?_of_found found]
        rfl
      · rfl
    · intro x
      simp [Machine.life, Machine.record]
  unfold beginTeardown
  rw [found]
  simp only [Machine.isLive, live, beq_self_eq_true, if_true]
  split
  · exact released
  · split
    · exact (congrFun ((edits_dispatch ..).life? rfl) m).trans released
    · exact released

/-- To finalize a live machine begins its teardown. -/
theorem lifeStep_finalize (b : Bridge) (k m : Nat) :
    LifeStep (.finalize k) m (b.life? m) ((b.beginTeardown k).life? m) := by
  by_cases h : ∃ machine, b.machines[k]? = some machine ∧ machine.phase = .live
  · obtain ⟨machine, found, live⟩ := h
    rw [life?_beginTeardown found live]
    split
    · next own =>
      subst own
      rw [life?_of_found found]
      exact LifeStep.released (l := machine.life) live (.inl ⟨rfl, rfl⟩)
    · exact .same
  · rw [beginTeardown_of_not_live fun machine found live => h ⟨machine, found, live⟩]
    exact .same

/-- Dropping a reference is dropping the last one of a live machine, which is then released,
or it just counts. -/
theorem lifeStep_dropReference (b : Bridge) (k m : Nat) :
    LifeStep act m (b.life? m) ((b.dropReference k).life? m) := by
  unfold dropReference
  split
  · exact .same
  · next machine found =>
    let dropped := b.modifyMachine k fun x => { x with references := x.references - 1 }
    have counted : (kept : machine.phase = .live → machine.references ≠ 1) →
        LifeStep act m (b.life? m) (dropped.life? m) := fun kept =>
      b.lifeStep_of_modify k (g := fun l => { l with references := l.references - 1 })
        (fun _ => rfl) fun l _ same => by
          cases (life?_of_found found).symm.trans same
          exact .dropped kept
    have after : dropped.machines[k]? =
        some { machine with references := machine.references - 1 } := by
      rw [getElem?_modifyMachine, if_pos rfl, found]
      rfl
    dsimp only
    split
    · next last =>
      by_cases live : machine.phase = .live
      · rw [life?_beginTeardown after live]
        split
        · next own =>
          subst own
          rw [life?_of_found found]
          refine LifeStep.released (l := machine.life) live (.inr ?_)
          show machine.references - 1 = 0
          omega
        · next other =>
          rw [b.life?_modifyMachine k m (g := fun l => { l with references := l.references - 1 })
            fun _ => rfl, if_neg other]
          exact .same
      · rw [beginTeardown_of_not_live fun other found' => ?_]
        · exact counted fun l => absurd l live
        · cases after.symm.trans found'
          exact live
    · next more => exact counted fun _ => more

/-- A teardown that ends leaves the machine finalized. -/
theorem lifeStep_finishTeardown (b : Bridge) (k m : Nat) :
    LifeStep act m (b.life? m) ((b.finishTeardown k).life? m) := by
  unfold finishTeardown
  split
  · exact .same
  · next machine found =>
    split
    · next releasing =>
      refine lifeStep_of_modify { b with registry := _ } k
        (g := fun l => { l with phase := .finalized }) (fun _ => rfl) fun l _ same => .finished ?_
      cases (life?_of_found found).symm.trans same
      exact releasing
    · exact .same

/-- A background stop that begins holds a reference. -/
theorem lifeStep_userClosed (b : Bridge) (a : Nat) (id : Handle) (m : Nat) :
    LifeStep act m (b.life? m) ((b.userClosed a id).life? m) := by
  unfold userClosed
  split
  · exact .same
  · dsimp only
    rw [(edits_receive _ (.windowClosed id)).life? rfl]
    split
    · exact lifeStep_addReference _ _ m
    · exact .same

/-- A background stop that ends drops its reference. -/
theorem lifeStep_endStop (b : Bridge) (s k m : Nat) :
    LifeStep act m (b.life? m) ((b.endStop s k).life? m) :=
  lifeStep_dropReference (b.setStage s .ended) k m

/-- A turn of a background stop makes one call or drops its reference. -/
theorem lifeStep_stop (env : Environment) (b : Bridge) (s m : Nat) :
    LifeStep act m (b.life? m) ((b.stop env s).life? m) := by
  have turned := b.stopTurn_stop env s
  generalize b.stop env s = b' at turned ⊢
  cases turned with
  | waits => exact .same
  | asks k => exact .of_eq (congrFun ((b.edits_ask env k .canStop).life? rfl) m)
  | begins _ _ => exact .of_eq (congrFun ((b.edits_beginControl _ .stop).life? rfl) m)
  | ends k => exact b.lifeStep_endStop s k m
  | givesUp k =>
    rw [← (b.edits_ask env k .canStop).life? rfl]
    exact lifeStep_endStop _ s k m

/-- Each step does one of these things to the life of a machine. -/
theorem lifeStep_step (env : Environment) (b : Bridge) (act : Action) (m : Nat) :
    LifeStep act m (b.life? m) ((b.step env act).life? m) := by
  by_cases apart : Part.apart act.parts [.machines, .phases, .references, .releases] = true
  · exact .of_eq (congrFun ((b.edits_step env act).life? apart) m)
  cases act with
  | beginCreate platform c => exact b.lifeStep_beginCreate platform c m
  | finishCreate k failure => exact b.lifeStep_finishCreate k failure m
  | addReference k => exact b.lifeStep_addReference k m
  | dropReference k => exact b.lifeStep_dropReference k m
  | finalize k => exact b.lifeStep_finalize k m
  | finishTeardown k => exact b.lifeStep_finishTeardown k m
  | userClosed a id => exact b.lifeStep_userClosed a id m
  | receive e => exact absurd (by cases e <;> rfl) apart
  | stop s => exact b.lifeStep_stop env s m
  | _ => exact absurd rfl apart

/-! ## runs -/

/-- What a life comes to: a release when the teardown begins, and no other.  A machine lives
as long as there are references, unless it is finalized. -/
structure SoundLife (l : Life) (finalized : Prop) : Prop where
  releases : l.releases = if l.phase.isEnding then 1 else 0
  held : l.phase = .live → 0 < l.references
  cause : l.phase.isEnding = true → finalized ∨ l.references = 0

/-- A step keeps a life sound. -/
theorem LifeStep.sound {l l' : Option Life} {finalized : Prop} (step : LifeStep act m l l')
    (h : ∀ x, l = some x → SoundLife x finalized) {x' : Life} (after : l' = some x') :
    SoundLife x' (finalized ∨ act = .finalize m) := by
  cases step with
  | same =>
    obtain ⟨releases, held, cause⟩ := h x' after
    exact ⟨releases, held, fun ending => (cause ending).imp_left .inl⟩
  | begun =>
    cases after
    exact ⟨rfl, by simp, by simp [MachinePhase.isEnding]⟩
  | @created x creating =>
    cases after
    have releases := (h x rfl).releases
    rw [creating] at releases
    exact ⟨releases, fun _ => Nat.one_pos, by simp [MachinePhase.isEnding]⟩
  | @failed x creating =>
    cases after
    have releases := (h x rfl).releases
    rw [creating] at releases
    exact ⟨releases, by simp, by simp [MachinePhase.isEnding]⟩
  | @shared x some =>
    cases after
    obtain ⟨releases, -, cause⟩ := h x rfl
    exact ⟨releases, fun _ => Nat.succ_pos _, fun ending =>
      .inl (.inl ((cause ending).resolve_right some))⟩
  | @dropped x kept =>
    cases after
    obtain ⟨releases, held, cause⟩ := h x rfl
    refine ⟨releases, fun live => ?_, fun ending => ?_⟩
    · have positive := held live
      have more := kept live
      show 0 < x.references - 1
      omega
    · obtain finalized | none := cause ending
      · exact .inl (.inl finalized)
      · exact .inr (by rw [none])
  | @released x references live cause =>
    cases after
    have releases := (h x rfl).releases
    rw [live] at releases
    refine ⟨by rw [releases]; rfl, by simp, fun _ => ?_⟩
    obtain ⟨finalizes, -⟩ | none := cause
    · exact .inl (.inr finalizes)
    · exact .inr none
  | @finished x releasing =>
    cases after
    obtain ⟨releases, -, cause⟩ := h x rfl
    rw [releasing] at releases cause
    exact ⟨releases, by simp, fun _ => (cause rfl).imp_left .inl⟩

/-- A run calls for the end of a machine. -/
def Finalizes (m : Nat) (actions : List (Environment × Action)) : Prop :=
  ∃ s ∈ actions, s.2 = .finalize m

/-- After every run the life of a machine is what it should be. -/
theorem life_run (actions : List (Environment × Action)) {l : Life}
    (found : (({} : Bridge).run actions).life? m = some l) : SoundLife l (Finalizes m actions) := by
  induction actions using List.reverseRecOn generalizing l with
  | nil => simp [run, life?] at found
  | append_singleton before s ih =>
    rw [run_append] at found
    obtain ⟨releases, held, cause⟩ :=
      LifeStep.sound (lifeStep_step s.1 _ s.2 m) (fun x known => ih known) found
    refine ⟨releases, held, fun ending => (cause ending).imp_left ?_⟩
    rintro (⟨t, mem, finalizes⟩ | finalizes)
    · exact ⟨t, List.mem_append_left _ mem, finalizes⟩
    · exact ⟨s, by simp, finalizes⟩

/-- A machine whose teardown has begun stays so, and is not released again. -/
theorem LifeStep.ending {l : Life} {l' : Option Life} (step : LifeStep act m (some l) l')
    (ending : l.phase.isEnding = true) :
    ∃ x, l' = some x ∧ x.phase.isEnding = true ∧ x.releases = l.releases := by
  have impossible {phase : MachinePhase} (same : l.phase = phase)
      (living : phase.isEnding = false) :
      ∃ x, l' = some x ∧ x.phase.isEnding = true ∧ x.releases = l.releases := by
    rw [same, living] at ending
    cases ending
  cases step with
  | same => exact ⟨l, rfl, ending, rfl⟩
  | created creating | failed creating => exact impossible creating rfl
  | shared _ | dropped _ => exact ⟨_, rfl, ending, rfl⟩
  | released live _ => exact impossible live rfl
  | finished _ => exact ⟨_, rfl, rfl, rfl⟩

/-- A teardown that has begun is never undone. -/
theorem ending_run {b : Bridge} {l : Life} (found : b.life? m = some l)
    (ending : l.phase.isEnding = true) (actions : List (Environment × Action)) :
    ∃ x, (b.run actions).life? m = some x ∧ x.phase.isEnding = true := by
  induction actions generalizing b l with
  | nil => exact ⟨l, found, ending⟩
  | cons s rest ih =>
    have step := lifeStep_step s.1 b s.2 m
    rw [found] at step
    obtain ⟨x, found', ending', -⟩ := step.ending ending
    exact ih found' ending'

/-- A machine is not live when it was just finalized. -/
theorem ending_finalize {b : Bridge} {l : Life} (found : b.life? m = some l)
    (created : l.phase ≠ .creating ∧ l.phase ≠ .abandoned) :
    ∃ x, (b.beginTeardown m).life? m = some x ∧ x.phase.isEnding = true := by
  obtain ⟨machine, known, rfl⟩ := Option.map_eq_some_iff.1 found
  by_cases live : machine.phase = .live
  · rw [life?_beginTeardown known live, if_pos rfl]
    exact ⟨_, rfl, rfl⟩
  · have ending : machine.phase.isEnding = true := by
      obtain ⟨uncreated, unabandoned⟩ := created
      cases phase : machine.phase with
      | creating => exact absurd phase uncreated
      | live => exact absurd phase live
      | abandoned => exact absurd phase unabandoned
      | releasing | finalized => rfl
    rw [beginTeardown_of_not_live fun other found' => ?_]
    · exact ⟨_, found, ending⟩
    · cases known.symm.trans found'
      exact live

end Bridge

end MachineBridge
