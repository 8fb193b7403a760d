import MachineBridge.Proofs.Isolation.Others

/-!
# MachineBridge.Proofs.Isolation.Own

What a machine sees of its own steps: the same step, taken by the only machine
(`step_alone`, `answer_alone`).  Tokens are looked up, stored and erased under their ranks, and
calls are numbered by theirs, so each operation is compared with the operation on the view.
-/

namespace MachineBridge

/-! ## renaming -/

theorem Machine.given_rename (ρ : Handle → Handle) (x : Machine) :
    (x.rename ρ).given = x.given.map ρ := by
  rw [given, given, rename, List.flatMap_map, List.map_flatMap]
  refine List.flatMap_congr fun c _ => ?_
  cases c <;> rfl

/-- Renamings that agree on the tokens of a call make the same of it. -/
theorem RuntimeCall.rename_congr {ρ σ : Handle → Handle} {c : RuntimeCall}
    (agree : ∀ h ∈ c.tokens, ρ h = σ h) : c.rename ρ = c.rename σ := by
  cases c with
  | create state disconnect =>
    rw [rename, rename, agree state (by simp [tokens]), agree disconnect (by simp [tokens])]
  | perform op completion => rw [rename, rename, agree completion (by simp [tokens])]
  | _ => rfl

/-- Only the tokens that a machine was given are renamed. -/
theorem Machine.rename_congr {ρ σ : Handle → Handle} {x : Machine} (plain : x.Plain)
    (agree : ∀ h ∈ x.given, ρ h = σ h) : x.rename ρ = x.rename σ := by
  have calls : x.calls.map (RuntimeCall.rename ρ) = x.calls.map (RuntimeCall.rename σ) :=
    List.map_congr_left fun c mem => RuntimeCall.rename_congr fun h token =>
      agree h (List.mem_flatMap.2 ⟨c, mem, token⟩)
  rw [rename, rename, calls, agree _ plain.state, DisconnectPipeline.rename,
    DisconnectPipeline.rename, agree _ plain.disconnect]

theorem Callback.rename_token (ρ : Handle → Handle) (e : Callback) :
    (e.rename ρ).token = ρ e.token := by
  cases e <;> rfl

theorem Callback.rename_kind (ρ : Handle → Handle) (e : Callback) : (e.rename ρ).kind = e.kind := by
  cases e <;> rfl

namespace Bridge

variable {b b' : Bridge} {j k m n : Nat} {x x' : Machine} {h : Handle}

/-! ## looking up in the view -/

/-- Tokens of a machine have different ranks. -/
theorem rank_inj {h k : Handle} (first : h ∈ b.given m) :
    b.rank m h = b.rank m k ↔ h = k := by
  rw [rank, rank, Handle.mk.injEq, Nat.add_right_cancel_iff, List.idxOf_inj first]

/-- Alone, a machine has the ranks of its tokens. -/
theorem machine?_alone (b : Bridge) (m : Nat) :
    (b.alone m).machines[0]? = (b.machines[m]?).map (Machine.rename (b.rank m)) := by
  rw [alone]
  cases b.machines[m]? <;> rfl

/-- A token of a machine names in the view what it names. -/
theorem get?_alone (own : h ∈ b.given m) :
    (b.alone m).registry.get? (b.rank m h) = (b.registry.get? h).map (b.localValue m) := by
  rw [alone, Registry.get?, Registry.get?]
  induction b.registry.slots with
  | nil => rfl
  | cons s rest ih =>
    obtain ⟨token, v⟩ := s
    rw [List.lookup_cons]
    by_cases same : h = token
    · subst same
      rw [List.filterMap_cons, localSlot?, if_pos own, beq_self_eq_true]
      simp
    · rw [List.filterMap_cons, localSlot?, beq_eq_false_iff_ne.2 same]
      -- a slot of another token is left out, or kept under another rank
      split
      · next => exact ih
      · next t found =>
        cases (Option.ite_none_right_eq_some.1 found).2
        rw [List.lookup_cons, beq_eq_false_iff_ne.2 (mt (rank_inj own).1 same)]
        exact ih

/-- The rank of a token is the number of the tokens up to it. -/
theorem rank_of_split (before : List Handle) {after : List Handle}
    (split : b.given m = before ++ h :: after) (first : h ∉ before) :
    b.rank m h = ⟨before.length + 1⟩ := by
  rw [rank, split, List.idxOf_append_of_notMem first, List.idxOf_cons_self]

/-! ## changing the view -/

/-- An erased token is erased from the view. -/
theorem erase_alone (b : Bridge) (m : Nat) (h : Handle) :
    { b with registry := b.registry.erase h }.alone m =
      { b.alone m with registry := (b.alone m).registry.erase (b.rank m h) } := by
  have slots : (b.registry.erase h).slots.filterMap (b.localSlot? m) =
      ((b.alone m).registry.erase (b.rank m h)).slots := by
    rw [Registry.erase, Registry.erase, alone, List.filterMap_filter, List.filter_filterMap]
    refine List.filterMap_congr fun s _ => ?_
    obtain ⟨token, v⟩ := s
    by_cases mem : token ∈ b.given m
    · rw [localSlot?, if_pos mem]
      simp [Option.filter, rank_inj mem]
    · rw [localSlot?_of_foreign mem, ite_self]
      rfl
  exact congrArg (fun slots => { b.alone m with registry := { (b.alone m).registry with slots } })
    slots

/-- A change of a machine that keeps its tokens is a change of the view. -/
theorem modifyMachine_alone (b : Bridge) (m : Nat) {f g : Machine → Machine}
    (keeps : ∀ x : Machine, x.Keeps (f x))
    (renames : ∀ x : Machine, (f x).rename (b.rank m) = g (x.rename (b.rank m))) :
    (b.modifyMachine m f).alone m = (b.alone m).modifyMachine 0 g := by
  have machine : (b.modifyMachine m f).machines[m]? = (b.machines[m]?).map f :=
    (b.getElem?_modifyMachine m m f).trans (if_pos rfl)
  have same : (b.modifyMachine m f).given m = b.given m := by
    rw [given, given, machine]
    cases b.machines[m]? with
    | none => rfl
    | some x => exact (keeps x).given
  have rank := rank_of_given same
  have slot : (b.modifyMachine m f).localSlot? m = b.localSlot? m := by
    funext s
    rw [localSlot?, same, rank]
    rfl
  have machines : ((b.modifyMachine m f).machines[m]?.map (Machine.rename (b.rank m))).toList =
      (((b.machines[m]?).map (Machine.rename (b.rank m))).toList).modify 0 g := by
    rw [machine]
    cases b.machines[m]? with
    | none => rfl
    | some x => exact congrArg (fun y => [y]) (renames x)
  simp only [alone, same, rank, slot, machines]
  rfl

/-! ## whose step it is -/

/-- Alone, a machine was given the ranks of its tokens. -/
theorem given_alone (b : Bridge) (m : Nat) : (b.alone m).given 0 = (b.given m).map (b.rank m) := by
  rw [given, machine?_alone, given]
  cases b.machines[m]? with
  | none => rfl
  | some x => exact x.given_rename (b.rank m)

/-- A step of a machine is a step of the only machine, in its view. -/
theorem acts_alone {act : Action} (acts : b.acts m act = true) :
    (b.alone m).acts 0 (act.alone (b.rank m)) = true := by
  cases act with
  | beginCreate platform c =>
    have absent : b.machines[m]? = none := List.getElem?_eq_none (Nat.le_of_eq (beq_iff_eq.1 acts))
    show ((b.alone m).machines.length == 0) = true
    rw [machines_alone_of_absent absent]
    rfl
  | receive e =>
    refine decide_eq_true ?_
    rw [Callback.rename_token, given_alone]
    exact List.mem_map_of_mem (of_decide_eq_true acts)
  | _ => first | rfl | exact absurd acts Bool.false_ne_true

/-! ## steps that only change the machine -/

/-- A step that changes only the machine itself is the same step alone. -/
theorem step_alone_of_after {act : Action} {f : Machine → Machine} (tidy : b.Tidy)
    (env env' : Environment) (acts : b.acts m act = true) (after : Machine.after? act = some f) :
    (b.step env act).alone m = (b.alone m).step env' (act.alone (b.rank m)) := by
  have windowless : ∀ x, (b.alone m).machines[0]? = some x → x.window.token = none := by
    intro x found
    rw [machine?_alone] at found
    obtain ⟨y, known, rfl⟩ := Option.map_eq_some_iff.1 found
    exact (tidy.plain m y known).window
  rw [step_of_after env (fun x found => (tidy.plain m x found).window) acts after,
    modifyMachine_alone b m (Machine.keeps_after after) (Machine.rename_after _ after),
    step_of_after env' windowless (acts_alone acts) ((Machine.after?_alone _ act).trans after)]

/-! ## creation and teardown -/

theorem erased_alone (b : Bridge) (m : Nat) (hs : List Handle) :
    { b with registry := erased b.registry hs }.alone m =
      { b.alone m with registry := erased (b.alone m).registry (hs.map (b.rank m)) } := by
  induction hs generalizing b with
  | nil => rfl
  | cons h rest ih =>
    refine (ih { b with registry := b.registry.erase h }).trans ?_
    rw [erase_alone]
    rfl

/-- Giving tokens back while the machine changes. -/
theorem erased_modifyMachine_alone (b : Bridge) (m : Nat) (hs : List Handle)
    {f g : Machine → Machine} (keeps : ∀ x : Machine, x.Keeps (f x))
    (renames : ∀ x : Machine, (f x).rename (b.rank m) = g (x.rename (b.rank m))) :
    ({ b with registry := erased b.registry hs }.modifyMachine m f).alone m =
      { b.alone m with
        registry := erased (b.alone m).registry (hs.map (b.rank m)) }.modifyMachine 0 g := by
  rw [← erased_alone]
  exact modifyMachine_alone _ m keeps renames

/-- A creation that fails is the same alone. -/
theorem failCreate_alone (b : Bridge) (m : Nat) (e : BridgeError) :
    (b.finishCreate m (some e)).alone m = (b.alone m).finishCreate 0 (some e) := by
  rw [finishCreate, finishCreate, machine?_alone]
  cases b.machines[m]? with
  | none => rfl
  | some x =>
    dsimp only [Option.map_some]
    by_cases creating : x.phase = .creating
    · rw [if_pos creating, if_pos (show (x.rename (b.rank m)).phase = .creating from creating)]
      exact erased_modifyMachine_alone b m [x.stateToken, x.disconnect.token]
        (fun _ => ⟨rfl, rfl, rfl, .inl rfl⟩) fun _ => rfl
    · rw [if_neg creating, if_neg (show ¬(x.rename (b.rank m)).phase = .creating from creating)]

/-- A teardown that ends is the same alone. -/
theorem finishTeardown_alone (b : Bridge) (m : Nat) :
    (b.finishTeardown m).alone m = (b.alone m).finishTeardown 0 := by
  rw [finishTeardown, finishTeardown, machine?_alone]
  cases b.machines[m]? with
  | none => rfl
  | some x =>
    dsimp only [Option.map_some]
    by_cases releasing : x.phase = .releasing
    · rw [if_pos releasing, if_pos (show (x.rename (b.rank m)).phase = .releasing from releasing)]
      refine erased_modifyMachine_alone b m [x.disconnect.token, x.stateToken]
        (fun y => ⟨rfl, rfl, y.disconnect.token_shutdown, .inl rfl⟩) fun y => ?_
      exact congrArg (fun p => { y.rename (b.rank m) with
        phase := .finalized, disconnect := p, state := y.state.close })
        (y.disconnect.rename_shutdown (b.rank m))
    · rw [if_neg releasing, if_neg (show ¬(x.rename (b.rank m)).phase = .releasing from releasing)]

/-- A machine that is not there yet has made no calls. -/
theorem callsOf_of_absent (tidy : b.Tidy) (absent : b.machines[m]? = none) :
    b.calls.filter (isCallOf m) = [] :=
  List.filter_eq_nil_iff.2 fun call mem own => by
    have token := tidy.called call mem
    rw [beq_iff_eq.1 own, given_of_absent absent] at token
    cases token

/-- A machine that is not there yet has nothing registered. -/
theorem localSlots_of_absent (absent : b.machines[m]? = none) :
    b.registry.slots.filterMap (b.localSlot? m) = [] :=
  List.filterMap_eq_nil_iff.2 fun ⟨h, v⟩ _ =>
    localSlot?_of_foreign (by rw [given_of_absent absent]; exact List.not_mem_nil)

/-- A machine that is not there sees nothing. -/
theorem alone_of_absent (tidy : b.Tidy) (absent : b.machines[m]? = none) : b.alone m = {} := by
  simp only [alone, given_of_absent absent, localSlots_of_absent absent,
    callsOf_of_absent tidy absent, absent]
  rfl

section Begun

variable (b) (platform : PlatformVersion) (c : MachineConfiguration)

/-- The persistent tokens of a machine are its first two. -/
theorem rank_begun :
    (b.begun platform c).rank b.machines.length ⟨b.registry.next⟩ = ⟨1⟩ ∧
      (b.begun platform c).rank b.machines.length ⟨b.registry.next + 1⟩ = ⟨2⟩ := by
  have given := (b.given_begun platform c b.machines.length).trans (if_pos rfl)
  exact ⟨rank_of_split [] given List.not_mem_nil,
    rank_of_split [⟨b.registry.next⟩] given (by simp)⟩

/-- A machine that is begun has its two components registered, alone as well. -/
theorem localSlots_begun (tidy : b.Tidy) :
    (b.begun platform c).registry.slots.filterMap
        ((b.begun platform c).localSlot? b.machines.length) =
      [(⟨2⟩, .disconnectInbox 0), (⟨1⟩, .stateStream 0)] := by
  have old := (b.extends_begun platform c).localSlots_eq tidy (fun _ => id) b.machines.length
  rw [localSlots_of_absent (List.getElem?_eq_none (Nat.le_refl _))] at old
  obtain ⟨first, second⟩ := b.rank_begun platform c
  have own : (⟨b.registry.next⟩ : Handle) ∈ (b.begun platform c).given b.machines.length ∧
      (⟨b.registry.next + 1⟩ : Handle) ∈ (b.begun platform c).given b.machines.length := by
    rw [given_begun, if_pos rfl]
    simp
  rw [← first, ← second]
  refine (List.filterMap_cons_some (localSlot?_of_given own.2)).trans (congrArg _ ?_)
  exact (List.filterMap_cons_some (localSlot?_of_given own.1)).trans (congrArg _ old)

/-- A machine that is created sees itself as the first. -/
theorem begun_alone (tidy : b.Tidy) :
    (b.begun platform c).alone b.machines.length = ({} : Bridge).begun platform c := by
  have absent : b.machines[b.machines.length]? = none := List.getElem?_eq_none (Nat.le_refl _)
  have given := (b.given_begun platform c b.machines.length).trans (if_pos rfl)
  have machine : (b.begun platform c).machines[b.machines.length]? = some _ :=
    List.getElem?_concat_length
  have calls : (b.begun platform c).calls.filter (isCallOf b.machines.length) = [] :=
    (callsOf_of_absent tidy absent :)
  obtain ⟨first, second⟩ := b.rank_begun platform c
  simp only [alone, given, machine, b.localSlots_begun platform c tidy, calls, Option.map_some,
    Machine.rename, first, second, DisconnectPipeline.rename, List.map_cons, RuntimeCall.rename]
  rfl

end Begun

theorem beginCreate_eq (b : Bridge) (platform : PlatformVersion) (c : MachineConfiguration) :
    b.beginCreate platform c =
      match platform.require PlatformVersion.forMachines >>= fun _ => c.validate with
      | .error e => (b, .error e)
      | .ok () => (b.begun platform c, .ok b.machines.length) := by
  unfold beginCreate
  cases platform.require PlatformVersion.forMachines with
  | error e => rfl
  | ok _ => cases c.validate <;> rfl

/-- A creation is begun alone as it is begun beside others, with the same refusals. -/
theorem beginCreate_alone (tidy : b.Tidy) (platform : PlatformVersion) (c : MachineConfiguration)
    (fresh : b.machines.length = m) :
    (b.beginCreate platform c).1.alone m = ((b.alone m).beginCreate platform c).1 ∧
      ((b.alone m).beginCreate platform c).2.map (fun _ => ()) =
        (b.beginCreate platform c).2.map (fun _ => ()) := by
  subst fresh
  rw [beginCreate_eq, beginCreate_eq]
  split
  · exact ⟨rfl, rfl⟩
  · have absent : b.machines[b.machines.length]? = none := List.getElem?_eq_none (Nat.le_refl _)
    exact ⟨by rw [alone_of_absent tidy absent, b.begun_alone platform c tidy], rfl⟩

/-! ## calls -/

/-- New tokens do not concern what a machine has noted so far. -/
theorem Extends.rename_eq {new : List Handle} (ext : b.Extends m new b')
    (found : b.machines[m]? = some x) (plain : x.Plain) :
    x.rename (b'.rank m) = x.rename (b.rank m) :=
  Machine.rename_congr plain fun h mem => ext.rank_eq (by rwa [given_of_found found])

/-- New tokens do not concern the calls that were made so far. -/
theorem Extends.callsOf_eq {new : List Handle} (ext : b.Extends m new b') (tidy : b.Tidy) :
    (b.calls.filter (isCallOf m)).map (ControlCall.alone (b'.rank m)) =
      (b.calls.filter (isCallOf m)).map (ControlCall.alone (b.rank m)) :=
  List.map_congr_left fun call mem => by
    obtain ⟨mem, own⟩ := List.mem_filter.1 mem
    have token := tidy.called call mem
    rw [beq_iff_eq.1 own] at token
    rw [ControlCall.alone, ext.rank_eq token]
    rfl

section Calling

variable (tidy : b.Tidy) (found : b.machines[m]? = some x) (op : Operation)
include tidy found

/-- The token of a call comes behind all tokens that its machine was given. -/
theorem rank_calling :
    (b.calling m x op).rank m ⟨b.registry.next⟩ = ⟨(b.given m).length + 1⟩ := by
  refine rank_of_split _ ((given_calling found op m).trans (if_pos rfl)) fun mem => ?_
  exact Nat.lt_irrefl _ (tidy.issued m _ mem).2

theorem machine?_calling :
    ((b.calling m x op).machines[m]?).map (Machine.rename ((b.calling m x op).rank m)) =
      some ((x.rename (b.rank m)).record (.perform op ⟨(b.given m).length + 1⟩)) := by
  have set : (b.calling m x op).machines[m]? = some (x.record (.perform op ⟨b.registry.next⟩)) :=
    List.getElem?_set_self (List.getElem?_eq_some_iff.1 found).1
  rw [set, Option.map_some, Machine.rename_record, RuntimeCall.rename, rank_calling tidy found,
    (extends_calling found op).rename_eq found (tidy.plain m x found)]

/-- A call is registered alone under the rank of its token. -/
theorem localSlots_calling :
    (b.calling m x op).registry.slots.filterMap ((b.calling m x op).localSlot? m) =
      (⟨(b.given m).length + 1⟩, .completion (b.calls.filter (isCallOf m)).length) ::
        b.registry.slots.filterMap (b.localSlot? m) := by
  have ext := extends_calling found op
  have own : (⟨b.registry.next⟩ : Handle) ∈ (b.calling m x op).given m := by
    rw [ext.own]
    exact List.mem_append_right _ (List.mem_singleton_self _)
  have number : (b.calling m x op).callRank m b.calls.length =
      (b.calls.filter (isCallOf m)).length := by
    rw [ext.callRank_eq (Nat.le_refl _), callRank, List.take_length, List.countP_eq_length_filter]
  refine (List.filterMap_cons_some (localSlot?_of_given own)).trans
    (congrArg₂ List.cons ?_ (ext.localSlots_eq tidy (fun _ => id) m))
  rw [rank_calling tidy found, localValue, number]

/-- A call is noted alone behind the calls of its machine. -/
theorem callsOf_calling :
    ((b.calling m x op).calls.filter (isCallOf m)).map
        (ControlCall.alone ((b.calling m x op).rank m)) =
      (b.calls.filter (isCallOf m)).map (ControlCall.alone (b.rank m)) ++
        [{ machine := 0, operation := op, token := ⟨(b.given m).length + 1⟩ }] := by
  have filtered : (b.calling m x op).calls.filter (isCallOf m) =
      b.calls.filter (isCallOf m) ++
        [{ machine := m, operation := op, token := ⟨b.registry.next⟩ }] := by
    rw [calling, List.filter_append]
    simp [isCallOf]
  rw [filtered, List.map_append, (extends_calling found op).callsOf_eq tidy,
    ← rank_calling tidy found op]
  rfl

/-- A call of a machine is a call in its view. -/
theorem calling_alone :
    (b.calling m x op).alone m = (b.alone m).calling 0 (x.rename (b.rank m)) op := by
  rw [alone, (extends_calling found op).own, localSlots_calling tidy found,
    machine?_calling tidy found, callsOf_calling tidy found, calling, machines_alone_of_found found]
  simp [alone, Registry.register, Registry.issue, Registry.store]

end Calling

/-- A machine alone is admitted to the same operations. -/
theorem admitted_alone (b : Bridge) (m : Nat) (required : UInt32) :
    (b.alone m).admitted 0 required = (b.admitted m required).map (Machine.rename (b.rank m)) := by
  rw [admitted, machine?_alone, admitted]
  cases b.machines[m]? with
  | none => rfl
  | some x =>
    have gate : (x.rename (b.rank m)).gate required = x.gate required := rfl
    dsimp only [Option.map_some]
    rw [gate]
    cases x.gate required <;> rfl

/-- A call is begun alone as it is begun beside others, with the same refusals. -/
theorem beginControl_alone (tidy : b.Tidy) (m : Nat) (op : Operation) :
    (b.beginControl m op).1.alone m = ((b.alone m).beginControl 0 op).1 ∧
      ((b.alone m).beginControl 0 op).2.map (fun _ => ()) =
        (b.beginControl m op).2.map (fun _ => ()) := by
  rw [beginControl_eq, beginControl_eq, admitted_alone]
  cases admitted : b.admitted m op.requiredRelease with
  | error e => exact ⟨rfl, rfl⟩
  | ok x => exact ⟨calling_alone tidy (admitted_eq_ok_iff.1 admitted).1 op, rfl⟩

/-! ## events of the runtime -/

theorem kind_localValue (b : Bridge) (m : Nat) (v : Value) : (b.localValue m v).kind = v.kind := by
  cases v <;> rfl

/-- A token of a machine resolves in the view as it does. -/
theorem resolve_alone (own : h ∈ b.given m) (k : Kind) :
    (b.alone m).registry.resolve k (b.rank m h) =
      ((b.registry.resolve k h).map (b.localValue m)).mapError (HandleError.rename (b.rank m)) := by
  rw [Registry.resolve, get?_alone own, Registry.resolve]
  cases b.registry.get? h with
  | none => rfl
  | some v =>
    dsimp only [Option.map_some]
    rw [kind_localValue]
    split <;> rfl

/-- The calls of a machine are found in the view under their ranks. -/
theorem call?_alone {call : ControlCall} (found : b.calls[n]? = some call)
    (own : call.machine = m) :
    (b.alone m).calls[b.callRank m n]? = some (call.alone (b.rank m)) := by
  have passes : isCallOf m call = true := beq_iff_eq.2 own
  rw [alone, List.getElem?_map, callRank, getElem?_filter_countP found passes]
  rfl

/-- A decision about a call of a machine is one about the call in the view. -/
theorem decideCall_alone {call : ControlCall} (found : b.calls[n]? = some call)
    (own : call.machine = m) (o : Outcome) :
    (b.decideCall n o).alone m = (b.alone m).decideCall (b.callRank m n) o := by
  have rank (k : Nat) : (b.decideCall n o).callRank m k = b.callRank m k := by
    rw [callRank_eq_countP, callRank_eq_countP, map_decideCall _ _ _ fun _ _ => rfl]
  have slot : (b.decideCall n o).localSlot? m = b.localSlot? m := by
    funext ⟨h, v⟩
    have value : (b.decideCall n o).localValue m v = b.localValue m v := by
      cases v with
      | completion k => exact congrArg Value.completion (rank k)
      | _ => rfl
    rw [localSlot?, value]
    rfl
  have passes : (b.calls[n]?).any (isCallOf m) = true := by
    rw [found]
    exact beq_iff_eq.2 own
  have calls : ((b.decideCall n o).calls.filter (isCallOf m)).map (ControlCall.alone (b.rank m)) =
      ((b.calls.filter (isCallOf m)).map (ControlCall.alone (b.rank m))).modify (b.callRank m n)
        fun call => { call with outcome := call.outcome.or (some o) } := by
    rw [callsOf_decideCall, if_pos passes]
    refine map_modify (fun call => ?_) _ _
    rfl
  rw [alone, slot]
  exact congrArg (fun calls => { b.alone m with calls }) calls

/-- A report is delivered alone as it is delivered beside others. -/
theorem deliver_alone {e : Callback} {v : Value} (holds : b.holder? v = some m)
    (kind : v.kind = e.kind) :
    (b.alone m).deliver (b.localValue m v).owner (e.rename (b.rank m)) =
      ((b.deliver v.owner e).1.alone m,
        (b.deliver v.owner e).2.mapError (CallbackError.rename (b.rank m))) := by
  cases e with
  | completion token error =>
    cases v <;> cases kind
    next n =>
    obtain ⟨call, found, own⟩ := Option.map_eq_some_iff.1 holds
    have found' := call?_alone found own
    simp only [Callback.rename, localValue, Value.owner, deliver, found, found', Option.bind_some,
      ControlCall.alone]
    cases call.outcome with
    | some o => rfl
    | none =>
      have decided := decideCall_alone (b := { b with registry := b.registry.erase token }) found
        own (.fired error)
      rw [erase_alone] at decided
      exact Prod.ext decided.symm rfl
  | stateChanged token code =>
    cases v <;> cases kind
    cases holds
    simp only [Callback.rename, localValue, Value.owner, deliver]
    cases ExecutionState.ofCode? code with
    | none => rfl
    | some state =>
      refine Prod.ext (modifyMachine_alone b m (fun x => ?_) fun x => ?_).symm rfl
      · exact ⟨rfl, rfl, rfl, .inl rfl⟩
      · rfl
  | disconnected token index error =>
    cases v <;> cases kind
    cases holds
    simp only [Callback.rename, localValue, Value.owner, deliver]
    refine Prod.ext (modifyMachine_alone b m (fun x => ?_) fun x => ?_).symm rfl
    · exact ⟨rfl, rfl, x.disconnect.token_push _, .inl rfl⟩
    · exact congrArg (fun p => { x.rename (b.rank m) with disconnect := p })
        (x.disconnect.rename_push (b.rank m) _)
  | disconnectsEnded token =>
    cases v <;> cases kind
    cases holds
    simp only [Callback.rename, localValue, Value.owner, deliver]
    refine Prod.ext (modifyMachine_alone b m (fun x => ?_) fun x => ?_).symm rfl
    · exact ⟨rfl, rfl, rfl, .inl rfl⟩
    · rfl
  | windowClosed token =>
    cases v <;> cases kind
    cases holds

/-- A report under a token of the machine is received alone as beside others. -/
theorem receive_alone (tidy : b.Tidy) {e : Callback} (own : e.token ∈ b.given m) :
    (b.alone m).receive (e.rename (b.rank m)) =
      ((b.receive e).1.alone m,
        (b.receive e).2.mapError (CallbackError.rename (b.rank m))) := by
  have reported : e ≠ .windowClosed .invalid := by
    rintro rfl
    exact Nat.lt_irrefl 0 (tidy.issued m _ own).1
  have reported' : e.rename (b.rank m) ≠ .windowClosed .invalid := fun reserved => by
    have token := e.rename_token (b.rank m)
    rw [reserved] at token
    cases token
  rw [receive, receive, if_neg reported, if_neg reported', Callback.rename_kind,
    Callback.rename_token, resolve_alone own]
  cases resolved : b.registry.resolve e.kind e.token with
  | error cause => rfl
  | ok v =>
    obtain ⟨named, kind⟩ := Registry.resolve_eq_ok_iff.1 resolved
    exact deliver_alone (tidy.holder own named) kind

/-! ## each step -/

/-- A machine sees its own steps as steps of the only machine. -/
theorem step_alone {act : Action} (tidy : b.Tidy) (env : Environment) (acts : b.acts m act = true) :
    (b.step env act).alone m = (b.alone m).step (env.alone m) (act.alone (b.rank m)) := by
  cases after : Machine.after? act with
  | some f => exact step_alone_of_after tidy env (env.alone m) acts after
  | none =>
    cases act with
    | beginCreate platform c => exact (beginCreate_alone tidy platform c (beq_iff_eq.1 acts)).1
    | finishCreate k failure =>
      cases failure with
      | none => cases after
      | some e =>
        cases beq_iff_eq.1 acts
        exact b.failCreate_alone m e
    | finishTeardown k =>
      cases beq_iff_eq.1 acts
      exact b.finishTeardown_alone m
    | control k op =>
      cases beq_iff_eq.1 acts
      exact (beginControl_alone tidy m op).1
    | receive e => exact (congrArg Prod.fst (receive_alone tidy (of_decide_eq_true acts))).symm
    | _ => first | cases acts | cases after

/-- A machine gets the same answers as the only machine, about its own tokens. -/
theorem answer_alone {act : Action} (tidy : b.Tidy) (env : Environment)
    (acts : b.acts m act = true) :
    (b.alone m).answer (env.alone m) (act.alone (b.rank m)) =
      (b.answer env act).rename (b.rank m) := by
  cases act with
  | beginCreate platform c =>
    exact congrArg Answer.created (beginCreate_alone tidy platform c (beq_iff_eq.1 acts)).2
  | control k op =>
    cases beq_iff_eq.1 acts
    exact congrArg Answer.begun (beginControl_alone tidy m op).2
  | receive e =>
    have received := receive_alone tidy (of_decide_eq_true acts)
    exact congrArg (fun r => Answer.delivered r.2) received
  | requestStop k =>
    cases beq_iff_eq.1 acts
    refine congrArg Answer.stopRequested ?_
    rw [requestStop, requestStop, admitted_alone]
    cases b.admitted m PlatformVersion.anyRelease <;> rfl
  | ask k q =>
    cases beq_iff_eq.1 acts
    refine congrArg Answer.can ?_
    rw [ask, ask, machine?_alone]
    cases b.machines[m]? with
    | none => rfl
    | some x =>
      dsimp only [Option.map_some]
      rw [apply_ite Prod.snd, apply_ite Prod.snd]
      rfl
  | subscribeStates k =>
    cases beq_iff_eq.1 acts
    refine congrArg Answer.subscribed ?_
    rw [subscribeStates, subscribeStates, machine?_alone]
    cases b.machines[m]? <;> rfl
  | receiveState k i =>
    cases beq_iff_eq.1 acts
    refine congrArg Answer.state ?_
    rw [receiveState, receiveState, machine?_alone]
    cases b.machines[m]? <;> rfl
  | subscribeDisconnects k =>
    cases beq_iff_eq.1 acts
    refine congrArg Answer.subscribedDisconnects ?_
    rw [subscribeDisconnects, subscribeDisconnects, admitted_alone]
    cases b.admitted m PlatformVersion.forStopAndGraphics <;> rfl
  | receiveDisconnect k i =>
    cases beq_iff_eq.1 acts
    refine congrArg Answer.disconnect ?_
    rw [receiveDisconnect, receiveDisconnect, machine?_alone]
    cases b.machines[m]? <;> rfl
  | _ => rfl

end Bridge

end MachineBridge
