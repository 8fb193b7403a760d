import MachineBridge.Proofs.Step
import Mathlib.Logic.Function.Basic

/-!
# MachineBridge.Proofs.Machines

What the steps of the bridge do to the skeletons of the machines.  There is one lemma for
each of the steps that are not quiet, and `SkeletonStep` collects what can happen to a
single machine:

* it goes from one phase to the next, and forgets its window when it is torn down;
* its window is opened, by a request that is let pass, or it is closed.
-/

namespace MachineBridge

open Function (update)

/-- Whether a machine lets an operation pass that needs the given major release. -/
def MachineSkeleton.Admits (s : MachineSkeleton) (required : UInt32) : Prop :=
  s.phase = .live ∧ s.platform.isAtLeast required = true

namespace Bridge

/-! ## looking machines up -/

theorem skeleton?_append (b : Bridge) (r : Registry) (x : Machine) (k : Nat) :
    skeleton? { b with registry := r, machines := b.machines ++ [x] } k =
      if k = b.machines.length then some x.skeleton else b.skeleton? k := by
  rw [skeleton?, getElem?_added]
  split <;> rfl

/-- There is no machine behind the last one. -/
theorem skeleton?_length (b : Bridge) : b.skeleton? b.machines.length = none := by
  simp [skeleton?]

/-- A change of a machine that there is. -/
theorem skeleton?_modifyMachine_of {b : Bridge} {m : Nat} {s : MachineSkeleton}
    (hs : b.skeleton? m = some s) {f : Machine → Machine} {g : MachineSkeleton → MachineSkeleton}
    (hf : ∀ x, (f x).skeleton = g x.skeleton) :
    (b.modifyMachine m f).skeleton? = update b.skeleton? m (some (g s)) := by
  funext k
  rw [b.skeleton?_modifyMachine m k hf, Function.update_apply]
  split
  · next e => rw [← e, hs, if_pos rfl]; rfl
  · next ne => rw [if_neg (Ne.symm ne)]

/-- A machine that is admitted is there and lets the operation pass. -/
theorem admitted_eq_ok_iff {b : Bridge} {m : Nat} {required : UInt32} {machine : Machine} :
    b.admitted m required = .ok machine ↔
      b.machines[m]? = some machine ∧ machine.skeleton.Admits required := by
  have gate : machine.gate required = .ok () ↔ machine.skeleton.Admits required := by
    rw [Machine.gate_eq_ok_iff, Machine.isLive, beq_iff_eq]
    rfl
  rw [← gate]
  unfold admitted
  cases b.machines[m]? with
  | none => simp
  | some x =>
    show (x.gate required).map _ = _ ↔ _
    constructor
    · intro h
      cases hg : x.gate required with
      | error e => rw [hg] at h; cases h
      | ok u =>
        rw [hg] at h
        cases h
        exact ⟨rfl, hg⟩
    · rintro ⟨h, hg⟩
      cases h
      rw [hg]
      rfl

/-- A machine that is admitted has a skeleton that says so. -/
theorem skeleton?_of_admitted {b : Bridge} {m : Nat} {required : UInt32} {machine : Machine}
    (admitted : b.admitted m required = .ok machine) :
    b.skeleton? m = some machine.skeleton ∧ machine.skeleton.Admits required := by
  obtain ⟨found, admits⟩ := admitted_eq_ok_iff.1 admitted
  exact ⟨by rw [skeleton?, found]; rfl, admits⟩

/-! ## phases -/

/-- A machine that is begun stands behind all others, with two fresh tokens. -/
theorem beginCreate_cases (b : Bridge) (platform : PlatformVersion) (c : MachineConfiguration) :
    (b.beginCreate platform c).1 = b ∨
      (b.beginCreate platform c).1.registry =
          ((b.registry.register (.stateStream b.machines.length)).1.register
            (.disconnectInbox b.machines.length)).1 ∧
        (b.beginCreate platform c).1.calls = b.calls ∧
        (b.beginCreate platform c).1.skeleton? = update b.skeleton? b.machines.length
          (some ⟨.creating, ⟨b.registry.next⟩, ⟨b.registry.next + 1⟩, {}, platform⟩) := by
  unfold beginCreate
  split
  · exact .inl rfl
  · split
    · exact .inl rfl
    · refine .inr ⟨rfl, rfl, funext fun k => ?_⟩
      dsimp only
      rw [skeleton?_append, Function.update_apply]
      rfl

/-- The creation of a machine comes to its end once; a failure takes the two tokens away. -/
theorem finishCreate_cases (b : Bridge) (m : Nat) (failure : Option BridgeError) :
    b.finishCreate m failure = b ∨
      ∃ s phase, b.skeleton? m = some s ∧ s.phase = .creating ∧
        (b.finishCreate m failure).calls = b.calls ∧
        (b.finishCreate m failure).skeleton? = update b.skeleton? m (some { s with phase }) ∧
        (phase = .live ∧ (b.finishCreate m failure).registry = b.registry ∨
          phase = .abandoned ∧ (b.finishCreate m failure).registry =
            (b.registry.erase s.stateToken).erase s.disconnectToken) := by
  unfold finishCreate
  split
  · exact .inl rfl
  · next machine hm =>
    have hs : b.skeleton? m = some machine.skeleton := by rw [skeleton?, hm]; rfl
    split
    · next creating =>
      refine .inr ?_
      split
      · exact ⟨machine.skeleton, .live, hs, creating, rfl, skeleton?_modifyMachine_of hs
          (g := fun s => { s with phase := .live }) fun _ => rfl, .inl ⟨rfl, rfl⟩⟩
      · exact ⟨machine.skeleton, .abandoned, hs, creating, rfl, skeleton?_modifyMachine_of
          (b := { b with registry := _ }) hs (g := fun s => { s with phase := .abandoned })
          fun _ => rfl, .inr ⟨rfl, rfl⟩⟩
    · exact .inl rfl

/-- The teardown of a live machine forgets its window with its token. -/
theorem beginTeardown_of_live {b : Bridge} {m : Nat} {machine : Machine}
    (hm : b.machines[m]? = some machine) (live : machine.phase = .live) :
    (b.beginTeardown m).registry = machine.window.token.elim b.registry b.registry.erase ∧
      (b.beginTeardown m).calls = b.calls ∧
      (b.beginTeardown m).skeleton? =
        update b.skeleton? m
          (some { machine.skeleton with phase := .releasing, window := {} }) := by
  have hs : b.skeleton? m = some machine.skeleton := by rw [skeleton?, hm]; rfl
  have released := skeleton?_modifyMachine_of hs (f := fun x =>
    { x with phase := .releasing, window := {} }.record .release)
    (g := fun s => { s with phase := .releasing, window := {} }) fun _ => rfl
  unfold beginTeardown
  simp only [hm, Machine.isLive, live, beq_self_eq_true, if_true]
  split
  · next ht => rw [ht]; exact ⟨rfl, rfl, released⟩
  · next id ht =>
    rw [ht]
    split
    · next a _ =>
      have quiet := (edits_dispatch (b.modifyMachine m fun x =>
        { x with phase := .releasing, window := {} }.record .release) a (.forget id)).quiet rfl
      exact ⟨congrArg (·.erase id) quiet.registry, quiet.calls, quiet.skeletons.trans released⟩
    · exact ⟨rfl, rfl, released⟩

/-- Only a live machine is torn down. -/
theorem beginTeardown_of_not_live {b : Bridge} {m : Nat}
    (h : ∀ machine, b.machines[m]? = some machine → machine.phase ≠ .live) :
    b.beginTeardown m = b := by
  unfold beginTeardown
  split
  · rfl
  · next machine hm =>
    rw [if_neg]
    simpa [Machine.isLive] using h machine hm

/-- The teardown of a machine begins once; it takes the token of the window away. -/
theorem beginTeardown_cases (b : Bridge) (m : Nat) :
    b.beginTeardown m = b ∨
      ∃ s, b.skeleton? m = some s ∧ s.phase = .live ∧
        (b.beginTeardown m).registry = s.window.token.elim b.registry b.registry.erase ∧
        (b.beginTeardown m).calls = b.calls ∧
        (b.beginTeardown m).skeleton? =
          update b.skeleton? m (some { s with phase := .releasing, window := {} }) := by
  by_cases h : ∃ machine, b.machines[m]? = some machine ∧ machine.phase = .live
  · obtain ⟨machine, hm, live⟩ := h
    exact .inr ⟨machine.skeleton, by rw [skeleton?, hm]; rfl, live, beginTeardown_of_live hm live⟩
  · exact .inl (beginTeardown_of_not_live fun machine hm live => h ⟨machine, hm, live⟩)

/-- A machine that the runtime has released loses its two tokens. -/
theorem finishTeardown_cases (b : Bridge) (m : Nat) :
    b.finishTeardown m = b ∨
      ∃ s, b.skeleton? m = some s ∧ s.phase = .releasing ∧
        (b.finishTeardown m).calls = b.calls ∧
        (b.finishTeardown m).skeleton? =
          update b.skeleton? m (some { s with phase := .finalized }) ∧
        (b.finishTeardown m).registry =
          (b.registry.erase s.disconnectToken).erase s.stateToken := by
  unfold finishTeardown
  split
  · exact .inl rfl
  · next machine hm =>
    have hs : b.skeleton? m = some machine.skeleton := by rw [skeleton?, hm]; rfl
    have shutdown : ∀ p : DisconnectPipeline, p.shutdown.token = p.token := fun p => by
      unfold DisconnectPipeline.shutdown
      split <;> rfl
    split
    · next releasing =>
      refine .inr ⟨machine.skeleton, hs, releasing, rfl, skeleton?_modifyMachine_of
        (b := { b with registry := _ }) hs (g := fun s => { s with phase := .finalized })
        fun x => ?_, rfl⟩
      simp only [Machine.skeleton, shutdown]
    · exact .inl rfl

/-! ## calls -/

/-- An operation that is let pass begins a call behind all others, with a fresh token. -/
theorem beginControl_of_admitted {b : Bridge} {m : Nat} {op : Operation} {machine : Machine}
    (admitted : b.admitted m op.requiredRelease = .ok machine) :
    (b.beginControl m op).2 = .ok b.calls.length ∧
      (b.beginControl m op).1.registry =
        (b.registry.register (.completion b.calls.length)).1 ∧
      (b.beginControl m op).1.calls =
        b.calls ++ [{ machine := m, operation := op, token := ⟨b.registry.next⟩ }] ∧
      (b.beginControl m op).1.skeleton? = b.skeleton? := by
  unfold beginControl
  rw [admitted]
  refine ⟨rfl, rfl, rfl, ?_⟩
  exact (quiet_recordCall _ m _).skeletons

/-- A refused operation changes nothing. -/
theorem beginControl_of_refused {b : Bridge} {m : Nat} {op : Operation} {e : BridgeError}
    (refused : b.admitted m op.requiredRelease = .error e) :
    b.beginControl m op = (b, .error e) := by
  unfold beginControl
  rw [refused]

/-- A control call is not seen in skeletons. -/
theorem skeleton?_beginControl (b : Bridge) (m : Nat) (op : Operation) :
    (b.beginControl m op).1.skeleton? = b.skeleton? := by
  cases admitted : b.admitted m op.requiredRelease with
  | error e => rw [beginControl_of_refused admitted]
  | ok machine => exact (beginControl_of_admitted admitted).2.2.2

/-! ## windows -/

/-- The token of a window is the one that its machine has, or a fresh one. -/
theorem windowToken_eq (b : Bridge) (m : Nat) (w : WindowState) :
    (b.windowToken m w).2 = w.token.getD ⟨b.registry.next⟩ := by
  unfold windowToken
  split
  · next id h => rw [h]; rfl
  · next h => rw [h]; rfl

/-- A request opens the window under the token that the machine has, or under a fresh one. -/
theorem openWindow_of_admitted {b : Bridge} {m : Nat} {machine : Machine} {required : UInt32}
    (admitted : b.admitted m required = .ok machine) (a : Nat) (spec : WindowSpec) :
    (b.openWindow m machine.window a spec).calls = b.calls ∧
      (b.openWindow m machine.window a spec).skeleton? = update b.skeleton? m
        (some { machine.skeleton with
          window := machine.window.opened (machine.window.token.getD ⟨b.registry.next⟩) a spec }) := by
  have hs : b.skeleton? m = some machine.skeleton := (skeleton?_of_admitted admitted).1
  have kept : (b.windowToken m machine.window).1.calls = b.calls ∧
      (b.windowToken m machine.window).1.skeleton? = b.skeleton? := by
    unfold windowToken
    split <;> exact ⟨rfl, rfl⟩
  refine ⟨kept.1, ?_⟩
  rw [openWindow, windowToken_eq, skeleton?_modifyMachine_of (kept.2 ▸ hs) (g := fun s =>
    { s with window := s.window.opened (machine.window.token.getD ⟨b.registry.next⟩) a spec })
    fun _ => rfl, kept.2]
  rfl

/-- Closing the window of a machine changes nothing but its flag. -/
theorem skeleton?_closeWindow (b : Bridge) (m k : Nat) :
    (b.closeWindow m).skeleton? k =
      if m = k then (b.skeleton? k).map fun s => { s with window := s.window.closed }
      else b.skeleton? k :=
  b.skeleton?_modifyMachine m k fun _ => rfl

/-! ## a single machine -/

/-- What an action that is taken in a bridge does to the skeleton of a machine. -/
inductive SkeletonStep (origin b : Bridge) (act : Action) (m : Nat) : Option MachineSkeleton → Prop
  | same : SkeletonStep origin b act m (b.skeleton? m)
  | begun {platform : PlatformVersion} (fresh : b.skeleton? m = none) :
      SkeletonStep origin b act m
        (some ⟨.creating, ⟨b.registry.next⟩, ⟨b.registry.next + 1⟩, {}, platform⟩)
  | created {s : MachineSkeleton} {phase : MachinePhase} (found : b.skeleton? m = some s)
      (creating : s.phase = .creating) (outcome : phase = .live ∨ phase = .abandoned) :
      SkeletonStep origin b act m (some { s with phase })
  | released {s : MachineSkeleton} (found : b.skeleton? m = some s) (live : s.phase = .live)
      (cause : act = .finalize m ∨ act = .dropReference m ∨ ∃ s, act = .stop s) :
      SkeletonStep origin b act m (some { s with phase := .releasing, window := {} })
  | finished {s : MachineSkeleton} (found : b.skeleton? m = some s)
      (releasing : s.phase = .releasing) :
      SkeletonStep origin b act m (some { s with phase := .finalized })
  | opened {s : MachineSkeleton} {a : Nat} {spec : WindowSpec} (found : b.skeleton? m = some s)
      (admits : s.Admits PlatformVersion.forStopAndGraphics)
      (requests : Requests m s.window a spec act) (accepting : origin.Accepting a) :
      SkeletonStep origin b act m
        (some { s with window := s.window.opened (s.window.token.getD ⟨b.registry.next⟩) a spec })
  | refused {s : MachineSkeleton} {a : Nat} {spec : WindowSpec} (found : b.skeleton? m = some s)
      (admits : s.Admits PlatformVersion.forStopAndGraphics)
      (requests : Requests m s.window a spec act) (refusing : ¬origin.Accepting a) :
      SkeletonStep origin b act m (some { s with
        window := (s.window.opened (s.window.token.getD ⟨b.registry.next⟩) a spec).closed })
  | closed {s : MachineSkeleton} {id : Handle} (found : b.skeleton? m = some s)
      (named : b.registry.get? id = some (.windowBinding m))
      (closes : ClosesWindow origin id act) :
      SkeletonStep origin b act m (some { s with window := s.window.closed })

variable {origin : Bridge}

/-- A change of one machine is a change of it or of another one. -/
theorem SkeletonStep.of_update {b b' : Bridge} {act : Action} {m k : Nat} {s : MachineSkeleton}
    (h : b'.skeleton? = update b.skeleton? k (some s))
    (step : k = m → SkeletonStep origin b act m (some s)) :
    SkeletonStep origin b act m (b'.skeleton? m) := by
  rw [h, Function.update_apply]
  split
  · next e => exact step e.symm
  · exact .same

theorem skeleton?_releaseToken (b : Bridge) (h : Handle) :
    (b.releaseToken h).1.skeleton? = b.skeleton? := by
  unfold releaseToken
  split <;> rfl

/-- A step of the tokens is a step of the skeleton of each machine. -/
theorem skeletonStep_of_tokenStep {b b' : Bridge} {act : Action}
    (h : TokenStep origin b act b') (m : Nat) :
    SkeletonStep origin b act m (b'.skeleton? m) := by
  cases h with
  | quiet | registerNumber => exact .same
  | releaseToken => rw [skeleton?_releaseToken]; exact .same
  | complete =>
    next token error =>
    obtain ⟨h, -⟩ | ⟨n, -, h⟩ := b.receive_completion_cases token error
    · rw [h]; exact .same
    · rw [h]; exact .same
  | beginCreate =>
    next platform c =>
    obtain h | ⟨-, -, skeletons⟩ := b.beginCreate_cases platform c
    · rw [h]; exact .same
    · exact .of_update skeletons fun e => e ▸ .begun b.skeleton?_length
  | finishCreate =>
    next k failure =>
    obtain h | ⟨s, phase, hs, creating, -, skeletons, outcome⟩ := b.finishCreate_cases k failure
    · rw [h]; exact .same
    · exact .of_update skeletons fun e => .created (e ▸ hs) creating (outcome.imp And.left And.left)
  | beginTeardown cause =>
    next k =>
    obtain h | ⟨s, hs, live, -, -, skeletons⟩ := b.beginTeardown_cases k
    · rw [h]; exact .same
    · exact .of_update skeletons fun e => .released (e ▸ hs) live (e ▸ cause)
  | finishTeardown =>
    next k =>
    obtain h | ⟨s, hs, releasing, -, skeletons, -⟩ := b.finishTeardown_cases k
    · rw [h]; exact .same
    · exact .of_update skeletons fun e => .finished (e ▸ hs) releasing
  | beginControl => rw [skeleton?_beginControl]; exact .same
  | openWindow admitted requests accepting =>
    obtain ⟨found, admits⟩ := skeleton?_of_admitted admitted
    refine .of_update (openWindow_of_admitted admitted _ _).2 ?_
    rintro rfl
    exact .opened found admits requests accepting
  | refuseWindow admitted requests refusing =>
    next k a machine spec =>
    obtain ⟨found, admits⟩ := skeleton?_of_admitted admitted
    rw [skeleton?_closeWindow, (openWindow_of_admitted admitted a spec).2, Function.update_apply]
    split
    · next e =>
      cases e
      rw [if_pos rfl]
      exact SkeletonStep.refused (s := machine.skeleton) found admits requests refusing
    · next ne =>
      rw [if_neg (Ne.symm ne)]
      exact .same
  | closeWindow named closes =>
    next id k =>
    rw [skeleton?_closeWindow]
    split
    · next e =>
      subst e
      cases found : b.skeleton? k with
      | none => rw [Option.map_none, ← found]; exact .same
      | some s => exact .closed found named closes
    · exact .same

/-- Each step takes a machine through one `SkeletonStep` at most. -/
theorem skeletonStep_step (env : Environment) (b : Bridge) (act : Action) (m : Nat) :
    SkeletonStep b b act m ((b.step env act).skeleton? m) := by
  obtain ⟨before, after, quiet, step, quiet'⟩ := b.stepsTo_step env act
  have h := skeletonStep_of_tokenStep step m
  rw [quiet'.skeletons]
  generalize after.skeleton? m = s' at h
  cases h with
  | same => rw [quiet.skeletons]; exact .same
  | begun fresh => rw [quiet.skeletons] at fresh; rw [quiet.registry]; exact .begun fresh
  | created found creating outcome =>
    rw [quiet.skeletons] at found; exact .created found creating outcome
  | released found live cause => rw [quiet.skeletons] at found; exact .released found live cause
  | finished found releasing => rw [quiet.skeletons] at found; exact .finished found releasing
  | opened found admits requests accepting =>
    rw [quiet.skeletons] at found; rw [quiet.registry]
    exact .opened found admits requests accepting
  | refused found admits requests refusing =>
    rw [quiet.skeletons] at found; rw [quiet.registry]
    exact .refused found admits requests refusing
  | closed found named closes =>
    rw [quiet.skeletons] at found; rw [quiet.registry] at named
    exact .closed found named closes

/-! ## the end of a machine -/

/-- A machine is finalized. -/
def Finalized (b : Bridge) (m : Nat) : Prop :=
  ∃ s, b.skeleton? m = some s ∧ s.phase = .finalized

/-- A machine is finalized exactly in the last phase of its life. -/
theorem finalized_iff {b : Bridge} {m : Nat} {machine : Machine}
    (found : b.machines[m]? = some machine) :
    b.Finalized m ↔ machine.phase = .finalized := by
  have skeleton := skeleton?_of_found found
  constructor
  · rintro ⟨k, known, finalized⟩
    cases skeleton.symm.trans known
    exact finalized
  · exact fun finalized => ⟨machine.skeleton, skeleton, finalized⟩

/-- A machine that is not changed to a finalized one is finalized only if it was. -/
theorem Finalized.of_update {b b' : Bridge} {m k : Nat} {s : MachineSkeleton}
    (h : b'.Finalized m) (skeletons : b'.skeleton? = update b.skeleton? k (some s))
    (kept : s.phase = .finalized → b.Finalized k) : b.Finalized m := by
  obtain ⟨s', found, finalized⟩ := h
  rw [skeletons, Function.update_apply] at found
  split at found
  · next same =>
    cases found
    exact same ▸ kept finalized
  · exact ⟨s', found, finalized⟩

theorem Finalized.of_eq {b b' : Bridge} {m : Nat} (h : b'.Finalized m)
    (skeletons : b'.skeleton? = b.skeleton?) : b.Finalized m := by
  obtain ⟨s, found, finalized⟩ := h
  exact ⟨s, skeletons ▸ found, finalized⟩

theorem Finalized.of_closeWindow {b : Bridge} {m k : Nat} (h : (b.closeWindow k).Finalized m) :
    b.Finalized m := by
  obtain ⟨s, found, finalized⟩ := h
  rw [skeleton?_closeWindow] at found
  split at found
  · obtain ⟨before, known, rfl⟩ := Option.map_eq_some_iff.1 found
    exact ⟨before, known, finalized⟩
  · exact ⟨s, found, finalized⟩

/-- A machine is finalized by the end of its teardown only. -/
theorem finalized_of_tokenStep {b b' : Bridge} {act : Action} {m : Nat}
    (step : TokenStep origin b act b') (h : b'.Finalized m) :
    act = .finishTeardown m ∨ b.Finalized m := by
  have opened {k a : Nat} {machine : Machine} {required : UInt32} {spec : WindowSpec}
      (admitted : b.admitted k required = .ok machine)
      (h : (b.openWindow k machine.window a spec).Finalized m) : b.Finalized m :=
    h.of_update (openWindow_of_admitted admitted a spec).2 fun finalized =>
      ⟨_, (skeleton?_of_admitted admitted).1, finalized⟩
  cases step with
  | quiet | registerNumber => exact .inr h
  | releaseToken => exact .inr (h.of_eq (b.skeleton?_releaseToken _))
  | beginControl => exact .inr (h.of_eq (b.skeleton?_beginControl _ _))
  | openWindow admitted _ _ => exact .inr (opened admitted h)
  | refuseWindow admitted _ _ => exact .inr (opened admitted h.of_closeWindow)
  | closeWindow _ _ => exact .inr h.of_closeWindow
  | complete =>
    next token error =>
    obtain ⟨same, -⟩ | ⟨n, -, same⟩ := b.receive_completion_cases token error
    · exact .inr (same ▸ h)
    · exact .inr (h.of_eq (by rw [same]; rfl))
  | beginCreate =>
    next platform c =>
    obtain same | ⟨-, -, skeletons⟩ := b.beginCreate_cases platform c
    · exact .inr (same ▸ h)
    · exact .inr (h.of_update skeletons fun finalized => by cases finalized)
  | finishCreate =>
    next k failure =>
    obtain same | ⟨s, phase, -, -, -, skeletons, outcome⟩ := b.finishCreate_cases k failure
    · exact .inr (same ▸ h)
    · refine .inr (h.of_update skeletons fun finalized => ?_)
      obtain ⟨rfl, -⟩ | ⟨rfl, -⟩ := outcome <;> cases finalized
  | @beginTeardown _ k =>
    obtain same | ⟨s, -, -, -, -, skeletons⟩ := b.beginTeardown_cases k
    · exact .inr (same ▸ h)
    · exact .inr (h.of_update skeletons fun finalized => by cases finalized)
  | finishTeardown =>
    next k =>
    obtain same | ⟨s, -, -, -, skeletons, -⟩ := b.finishTeardown_cases k
    · exact .inr (same ▸ h)
    · by_cases own : k = m
      · exact .inl (own ▸ rfl)
      · obtain ⟨s', found, finalized⟩ := h
        rw [skeletons, Function.update_of_ne (Ne.symm own)] at found
        exact .inr ⟨s', found, finalized⟩

/-- The end of the teardown finalizes a machine that the runtime has released. -/
theorem finalized_finishTeardown {b : Bridge} {m : Nat}
    (releasing : (b.skeleton? m).map (·.phase) = some .releasing) :
    (b.finishTeardown m).Finalized m := by
  obtain ⟨s, skeleton, phase⟩ := Option.map_eq_some_iff.1 releasing
  obtain ⟨machine, found, rfl⟩ := Option.map_eq_some_iff.1 skeleton
  rw [finishTeardown, found]
  dsimp only
  rw [if_pos (show machine.phase = .releasing from phase)]
  refine ⟨{ machine with
      phase := .finalized
      disconnect := machine.disconnect.shutdown
      state := machine.state.close }.skeleton, ?_, rfl⟩
  rw [skeleton?, getElem?_modifyMachine, if_pos rfl]
  show (b.machines[m]?.map _).map _ = _
  rw [found]
  rfl

/-- A machine is finalized by the end of its teardown only. -/
theorem finalized_step {env : Environment} {b : Bridge} {act : Action} {m : Nat}
    (h : (b.step env act).Finalized m) : act = .finishTeardown m ∨ b.Finalized m := by
  obtain ⟨before, after, quiet, step, quiet'⟩ := b.stepsTo_step env act
  obtain finishes | earlier := finalized_of_tokenStep step (h.of_eq quiet'.skeletons)
  · exact .inl finishes
  · exact .inr (earlier.of_eq quiet.skeletons)

/-- A finalized machine stays so. -/
theorem Finalized.step {b : Bridge} {m : Nat} (h : b.Finalized m) (env : Environment)
    (act : Action) : (b.step env act).Finalized m := by
  obtain ⟨s, found, finalized⟩ := h
  have step := b.skeletonStep_step env act m
  generalize after : (b.step env act).skeleton? m = s' at step
  cases step with
  | same => exact ⟨s, after.trans found, finalized⟩
  | begun fresh =>
    rw [found] at fresh
    contradiction
  | created found' creating _ =>
    cases found.symm.trans found'
    rw [finalized] at creating
    contradiction
  | released found' live _ =>
    cases found.symm.trans found'
    rw [finalized] at live
    contradiction
  | finished => exact ⟨_, after, rfl⟩
  | opened found' admits _ _ | refused found' admits _ _ =>
    cases found.symm.trans found'
    rw [MachineSkeleton.Admits, finalized] at admits
    exact absurd admits.1 (by simp)
  | closed found' _ _ =>
    cases found.symm.trans found'
    exact ⟨_, after, finalized⟩

/-- A machine that is finalized stays so. -/
theorem Finalized.run {b : Bridge} {m : Nat} (h : b.Finalized m)
    (actions : List (Environment × Action)) : (b.run actions).Finalized m := by
  induction actions generalizing b with
  | nil => exact h
  | cons s rest ih => exact ih (h.step s.1 s.2)

end Bridge

end MachineBridge
