import MachineBridge.Proofs.Lifecycle.Release

/-!
# MachineBridge.Proofs.Windows.BackgroundStop

The threads that stop machines in the background.  One is begun by the report that the user
closed a window, and only its own turns change it (`stop_step`).  In its first turn it asks
whether its machine can be stopped, in its second turn it tells the runtime to stop it, and then
it waits; where it is refused it ends at once.

However many turns it takes, the runtime is told to stop one machine once, if both turns find that
it can be, and not at all otherwise (`stopRequests_checking`).
-/

namespace MachineBridge

def RuntimeCall.isStop : RuntimeCall → Bool
  | .perform .stop _ => true
  | _ => false

def Action.turns (s : Nat) : Action → Bool
  | .stop k => k == s
  | _ => false

theorem Action.eq_stop_of_turns {act : Action} {s : Nat} (turns : act.turns s = true) :
    act = .stop s := by
  cases act with
  | stop k => rw [show k = s from eq_of_beq turns]
  | _ => cases turns

/-- The calls that tell the runtime of a machine to stop it. -/
def Machine.stopCalls (x : Machine) : List RuntimeCall := x.calls.filter (·.isStop)

theorem Machine.stopCalls_record (x : Machine) {c : RuntimeCall} (other : c.isStop = false) :
    (x.record c).stopCalls = x.stopCalls := by
  rw [stopCalls, record, List.filter_append, List.filter_cons_of_neg (by simp [other])]
  exact List.append_nil _

namespace Bridge

variable {b : Bridge} {act : Action} {m k s : Nat}

/-! ## who changes a background stop -/

theorem Edits.stops_eq {b' : Bridge} {ps : List Part} (h : Edits ps b b')
    (apart : Part.apart ps [.stops] = true) : b'.stops = b.stops := by
  refine h.keeps_view (fun {p _ _} edit other => ?_) apart
  cases edit with
  | stops => simp at other
  | _ => rfl

/-- The report that the user closed a window begins a background stop, or it does not. -/
theorem stops_userClosed (b : Bridge) (a : Nat) (id : Handle) :
    (b.userClosed a id).stops = b.stops ∨
      ∃ m, (b.userClosed a id).stops = b.stops ++ [{ machine := m }] := by
  unfold userClosed
  split
  · exact .inl rfl
  · dsimp only
    rw [(edits_receive _ (.windowClosed id)).stops_eq rfl]
    split
    · exact .inr ⟨_, rfl⟩
    · exact .inl rfl

theorem stops_endStop (b : Bridge) (s m : Nat) :
    (b.endStop s m).stops = b.stops.modify s fun x => { x with stage := .ended } :=
  ((b.setStage s .ended).edits_dropReference m).stops_eq rfl

/-- A turn of a background stop changes its stage, and no other one. -/
theorem stops_stop (env : Environment) (b : Bridge) (s : Nat) :
    (b.stop env s).stops = b.stops ∨
      ∃ stage, (b.stop env s).stops = b.stops.modify s fun x => { x with stage } := by
  have staged {c : Bridge} (same : c.stops = b.stops) (stage : StopStage) :
      (c.setStage s stage).stops = b.stops.modify s fun x => { x with stage } :=
    congrArg (fun xs : List BackgroundStop => xs.modify s fun x => { x with stage }) same
  have turned := b.stopTurn_stop env s
  generalize b.stop env s = b' at turned ⊢
  cases turned with
  | waits => exact .inl rfl
  | asks m => exact .inr ⟨_, staged ((b.edits_ask env m .canStop).stops_eq rfl) _⟩
  | begins _ _ => exact .inr ⟨_, staged ((b.edits_beginControl _ .stop).stops_eq rfl) _⟩
  | ends m => exact .inr ⟨_, b.stops_endStop s m⟩
  | givesUp m =>
    exact .inr ⟨_, by rw [stops_endStop, (b.edits_ask env m .canStop).stops_eq rfl]⟩

/-- A background stop is changed by its own turns only. -/
theorem stop_step (env : Environment) (other : act.turns s = false) {x : BackgroundStop}
    (found : b.stops[s]? = some x) : (b.step env act).stops[s]? = some x := by
  have same {c : Bridge} (same : c.stops = b.stops) : c.stops[s]? = some x := same ▸ found
  by_cases apart : Part.apart act.parts [.stops] = true
  · exact same ((b.edits_step env act).stops_eq apart)
  cases act with
  | userClosed a id =>
    rw [step]
    obtain kept | ⟨m, added⟩ := b.stops_userClosed a id
    · exact same kept
    · rw [added, List.getElem?_append_left (List.getElem?_eq_some_iff.1 found).1]
      exact found
  | receive e => exact absurd (by cases e <;> rfl) apart
  | stop k =>
    have elsewhere : k ≠ s := by simpa [Action.turns] using other
    rw [step]
    obtain kept | ⟨stage, staged⟩ := b.stops_stop env k
    · exact same kept
    · rw [staged, List.getElem?_modify_ne _ _ elsewhere]
      exact found
  | _ => exact absurd rfl apart

/-! ## what the runtime is told -/

/-- A machine can be told to stop: it is not finalized, and its platform has that operation. -/
def Stoppable (b : Bridge) (m : Nat) : Prop :=
  ∃ x, b.machines[m]? = some x ∧ x.phase = .live ∧ 12 ≤ x.platform.major

instance (b : Bridge) (m : Nat) : Decidable (b.Stoppable m) :=
  inferInstanceAs (Decidable (∃ x ∈ b.machines[m]?, x.phase = .live ∧ 12 ≤ x.platform.major))

/-- The calls so far that told the runtime of a machine to stop it. -/
def stopCalls (b : Bridge) (m : Nat) : List RuntimeCall := (b.machines[m]?).elim [] (·.stopCalls)

/-- The calls with which a background stop tells the runtime of a machine to stop it. -/
def stopRequests (s m : Nat) (b : Bridge) (env : Environment) (act : Action) :
    List RuntimeCall :=
  if act.turns s then ((b.step env act).stopCalls m).drop (b.stopCalls m).length else []

/-- The turns of a background stop, each with the bridge in which it is taken. -/
def stopTurns (s : Nat) (b : Bridge) (env : Environment) (act : Action) :
    List (Environment × Bridge) :=
  if act.turns s then [(env, b)] else []

/-- A machine can be told to stop exactly if it is admitted to that. -/
theorem stoppable_iff : b.Stoppable m ↔
    ∃ x, b.admitted m PlatformVersion.forStopAndGraphics = .ok x := by
  constructor
  · rintro ⟨x, found, live, recent⟩
    exact ⟨x, admitted_eq_ok_iff.2 ⟨found, live, decide_eq_true recent⟩⟩
  · rintro ⟨x, admitted⟩
    obtain ⟨found, live, recent⟩ := admitted_eq_ok_iff.1 admitted
    exact ⟨x, found, live, of_decide_eq_true recent⟩

/-- Edits elsewhere tell no runtime to stop. -/
theorem Edits.stopCalls {b' : Bridge} {ps : List Part} (h : Edits ps b b')
    (apart : Part.apart ps [.machines, .operations] = true) : b'.stopCalls = b.stopCalls := by
  refine h.keeps_view (fun {p b b'} edit other => ?_) apart
  have same {m : Nat} {f : Machine → Machine} (calls : ∀ x, (f x).stopCalls = x.stopCalls) :
      (b.modifyMachine m f).stopCalls = b.stopCalls := by
    have view (c : Bridge) (k : Nat) :
        c.stopCalls k = (c.machines[k]?.map (·.stopCalls)).getD [] := by
      rw [Bridge.stopCalls]
      cases c.machines[k]? <;> rfl
    funext k
    rw [view, view, b.map_getElem?_modifyMachine_of_same m k calls]
  cases edit with
  | machines => simp at other
  | phases only | windows only | states only | pipelines only _ | references only =>
    exact same fun x => (congrArg Machine.stopCalls (only x)).trans rfl
  | @runtime _ _ c =>
    refine same fun x => x.stopCalls_record ?_
    cases c with
    | perform op token => simp [RuntimeCall.part] at other
    | _ => rfl
  | _ => rfl

/-- The runtime of a machine that can be told to stop is told so, once. -/
theorem stopCalls_beginControl (can : b.Stoppable m) :
    ∃ call, ∀ k, (b.beginControl m .stop).1.stopCalls k =
      if m = k then b.stopCalls k ++ [call] else b.stopCalls k := by
  obtain ⟨x, admitted⟩ := stoppable_iff.1 can
  obtain ⟨found, -⟩ := admitted_eq_ok_iff.1 admitted
  refine ⟨.perform .stop ⟨b.registry.next⟩, fun k => ?_⟩
  rw [beginControl, show b.admitted m Operation.stop.requiredRelease = .ok x from admitted]
  dsimp only
  rw [recordCall, stopCalls, stopCalls, getElem?_modifyMachine]
  split
  · next own =>
    subst own
    rw [show _ = some x from found]
    exact List.filter_append ..
  · rfl

/-! ## one turn -/

/-- A background stop is at some stage. -/
def StopAt (b : Bridge) (s m : Nat) (stage : StopStage) : Prop :=
  b.stops[s]? = some { machine := m, stage }

theorem stopAt_setStage {c : Bridge} {stage stage' : StopStage} (h : b.StopAt s m stage)
    (same : c.stops = b.stops) : (c.setStage s stage').StopAt s m stage' := by
  rw [StopAt, setStage, same, List.getElem?_modify_eq, show b.stops[s]? = _ from h]
  rfl

theorem stopAt_endStop {c : Bridge} {stage : StopStage} (h : b.StopAt s m stage)
    (same : c.stops = b.stops) : (c.endStop s m).StopAt s m .ended := by
  rw [StopAt, stops_endStop, same, List.getElem?_modify_eq, show b.stops[s]? = _ from h]
  rfl

/-- The first turn: the machine is asked, and the answer decides whether there is a second. -/
theorem stop_checking (env : Environment) (h : b.StopAt s m .checking) :
    (b.stop env s).stopCalls = b.stopCalls ∧
      (b.Stoppable m ∧ env.can m .canStop = true → (b.stop env s).StopAt s m .stopping) ∧
      (¬(b.Stoppable m ∧ env.can m .canStop = true) → (b.stop env s).StopAt s m .ended) := by
  have answer : (b.ask env m .canStop).2 = true ↔ b.Stoppable m ∧ env.can m .canStop = true := by
    unfold ask
    cases found : b.machines[m]? with
    | none => simp [Stoppable, found]
    | some x =>
      have passes : x.canAsk .canStop = true ↔ b.Stoppable m := by
        rw [Machine.canAsk, Bool.and_eq_true, Machine.isLive, beq_iff_eq, Stoppable, found]
        constructor
        · rintro ⟨live, recent⟩
          exact ⟨x, rfl, live, of_decide_eq_true recent⟩
        · rintro ⟨y, same, live, recent⟩
          cases same
          exact ⟨live, decide_eq_true recent⟩
      rw [← passes]
      dsimp only
      split <;> simp [*]
  have turn : b.stop env s = if (b.ask env m .canStop).2 = true
      then (b.ask env m .canStop).1.setStage s .stopping
      else (b.ask env m .canStop).1.endStop s m := by
    rw [stop, show b.stops[s]? = _ from h]
    dsimp only
    obtain ⟨c, answer⟩ := b.ask env m .canStop
    cases answer <;> rfl
  have same := (b.edits_ask env m .canStop).stops_eq rfl
  have told := (b.edits_ask env m .canStop).stopCalls rfl
  rw [turn, ← answer]
  split
  · next yes => exact ⟨told, fun _ => stopAt_setStage h same, fun no => absurd yes no⟩
  · next no =>
    exact ⟨((edits_endStop _ s m).stopCalls rfl).trans told, fun yes => absurd yes no,
      fun _ => stopAt_endStop h same⟩

/-- The second turn: the runtime is told, if the machine can still be told to stop. -/
theorem stop_stopping (env : Environment) (h : b.StopAt s m .stopping) :
    (b.Stoppable m → (∃ call, (b.stop env s).StopAt s m (.waiting call)) ∧
      ∃ c, ∀ k, (b.stop env s).stopCalls k =
        if m = k then b.stopCalls k ++ [c] else b.stopCalls k) ∧
      (¬b.Stoppable m →
        (b.stop env s).StopAt s m .ended ∧ (b.stop env s).stopCalls = b.stopCalls) := by
  constructor
  · intro can
    obtain ⟨x, admitted⟩ := stoppable_iff.1 can
    have begun : b.beginControl m .stop = ((b.beginControl m .stop).1, .ok b.calls.length) :=
      Prod.ext rfl (beginControl_of_admitted admitted).1
    have turn : b.stop env s =
        (b.beginControl m .stop).1.setStage s (.waiting b.calls.length) := by
      rw [stop, show b.stops[s]? = _ from h]
      dsimp only
      rw [begun]
    rw [turn]
    exact ⟨⟨_, stopAt_setStage h ((b.edits_beginControl m .stop).stops_eq rfl)⟩,
      stopCalls_beginControl can⟩
  · intro cannot
    cases admitted : b.admitted m PlatformVersion.forStopAndGraphics with
    | ok x => exact absurd (stoppable_iff.2 ⟨x, admitted⟩) cannot
    | error e =>
      have refused : b.beginControl m .stop = (b, .error e) := beginControl_of_refused admitted
      have turn : b.stop env s = b.endStop s m := by
        rw [stop, show b.stops[s]? = _ from h]
        dsimp only
        rw [refused]
      rw [turn]
      exact ⟨stopAt_endStop h rfl, (b.edits_endStop s m).stopCalls rfl⟩

/-- Nothing that comes after the second turn tells the runtime anything. -/
theorem stop_waiting (env : Environment) {call : Nat} (h : b.StopAt s m (.waiting call)) :
    (b.stop env s).stopCalls = b.stopCalls ∧
      ((b.stop env s).StopAt s m (.waiting call) ∨ (b.stop env s).StopAt s m .ended) := by
  rw [stop, show b.stops[s]? = _ from h]
  dsimp only
  split
  · exact ⟨(b.edits_endStop s m).stopCalls rfl, .inr (stopAt_endStop h rfl)⟩
  · exact ⟨rfl, .inl h⟩

/-- A background stop that has ended does nothing. -/
theorem stop_ended (env : Environment) (h : b.StopAt s m .ended) : b.stop env s = b := by
  rw [stop, show b.stops[s]? = _ from h]

/-! ## all turns -/

/-- Only the turns of a background stop are counted for it. -/
theorem stopRequests_of_other {env : Environment} (other : act.turns s = false) :
    stopRequests s k b env act = [] := by
  rw [stopRequests, other]
  rfl

theorem stopRequests_of_turn {env : Environment} :
    stopRequests s k b env (.stop s) =
      ((b.stop env s).stopCalls k).drop (b.stopCalls k).length := by
  rw [stopRequests, if_pos (show Action.turns s (.stop s) = true from beq_self_eq_true s), step]

theorem stopRequests_of_same {env : Environment}
    (same : (b.stop env s).stopCalls = b.stopCalls) : stopRequests s k b env (.stop s) = [] := by
  rw [stopRequests_of_turn, same, List.drop_length]

/-- A background stop that waits or has ended tells the runtime nothing more. -/
theorem stopRequests_settled {stage : StopStage} (h : b.StopAt s m stage)
    (settled : stage = .ended ∨ ∃ call, stage = .waiting call)
    (rest : List (Environment × Action)) : b.collect (stopRequests s k) rest = [] := by
  induction rest generalizing b stage with
  | nil => rfl
  | cons t rest ih =>
    obtain ⟨env, act⟩ := t
    rw [collect]
    cases turn : act.turns s with
    | false =>
      rw [stopRequests_of_other turn, List.nil_append]
      exact ih (stop_step env turn h) settled
    | true =>
      obtain rfl := Action.eq_stop_of_turns turn
      obtain rfl | ⟨call, rfl⟩ := settled
      · have still : b.step env (.stop s) = b := stop_ended env h
        rw [stopRequests_of_same (by rw [stop_ended env h]), List.nil_append, still]
        exact ih h (.inl rfl)
      · obtain ⟨same, waits | ended⟩ := stop_waiting env h
        · rw [stopRequests_of_same same, List.nil_append]
          exact ih waits (.inr ⟨call, rfl⟩)
        · rw [stopRequests_of_same same, List.nil_append]
          exact ih ended (.inl rfl)

/-- The next turn of a background stop finds that its machine can be told to stop. -/
def Finds (m : Nat) : List (Environment × Bridge) → Prop
  | [] => False
  | (_, c) :: _ => c.Stoppable m

/-- A background stop checks its machine in two turns: in the first, in which the runtime has to
say that the machine can be stopped, and again in the second, in which the runtime is told. -/
def Checks (m : Nat) : List (Environment × Bridge) → Prop
  | [] => False
  | (env, c) :: later => (c.Stoppable m ∧ env.can m .canStop = true) ∧ Finds m later

instance (m : Nat) : ∀ turns, Decidable (Finds m turns)
  | [] => inferInstanceAs (Decidable False)
  | (_, c) :: _ => inferInstanceAs (Decidable (c.Stoppable m))

instance (m : Nat) : ∀ turns, Decidable (Checks m turns)
  | [] => inferInstanceAs (Decidable False)
  | (env, c) :: later => inferInstanceAs
    (Decidable ((c.Stoppable m ∧ env.can m .canStop = true) ∧ Finds m later))

/-- There is one call under a condition, and otherwise there is none. -/
def OneIf (calls : List RuntimeCall) (condition : Prop) : Prop :=
  (condition → calls.length = 1) ∧ (¬condition → calls = [])

theorem oneIf_nil {condition : Prop} (fails : ¬condition) : OneIf [] condition :=
  ⟨fun holds => absurd holds fails, fun _ => rfl⟩

/-- A background stop that found its machine stoppable tells its runtime once, if it still is. -/
theorem stopRequests_stopping (h : b.StopAt s m .stopping) (rest : List (Environment × Action)) :
    OneIf (b.collect (stopRequests s k) rest)
      (k = m ∧ Finds m (b.collect (stopTurns s) rest)) := by
  induction rest generalizing b with
  | nil => exact oneIf_nil fun both => both.2
  | cons t rest ih =>
    obtain ⟨env, act⟩ := t
    rw [collect, collect]
    cases turn : act.turns s with
    | false =>
      rw [stopRequests_of_other turn, stopTurns, turn]
      exact ih (stop_step env turn h)
    | true =>
      obtain rfl := Action.eq_stop_of_turns turn
      rw [stopTurns, turn]
      obtain ⟨told, untold⟩ := stop_stopping env h
      by_cases can : b.Stoppable m
      · obtain ⟨⟨call, waits⟩, c, calls⟩ := told can
        have later := stopRequests_settled (k := k) (b := b.step env (.stop s)) waits
          (.inr ⟨call, rfl⟩) rest
        rw [later, List.append_nil, stopRequests_of_turn, calls k]
        split
        · next own =>
          rw [List.drop_left]
          exact ⟨fun _ => rfl, fun fails => absurd ⟨own.symm, can⟩ fails⟩
        · next other =>
          rw [List.drop_length]
          exact oneIf_nil fun both => other both.1.symm
      · obtain ⟨ended, same⟩ := untold can
        have later := stopRequests_settled (k := k) (b := b.step env (.stop s)) ended (.inl rfl) rest
        rw [later, stopRequests_of_same same]
        exact oneIf_nil fun both => can both.2

/-- In any run from its beginning on, a background stop makes one request, to the runtime of its
machine, if both checks pass. -/
theorem stopRequests_checking (h : b.StopAt s m .checking) (rest : List (Environment × Action)) :
    OneIf (b.collect (stopRequests s k) rest)
      (k = m ∧ Checks m (b.collect (stopTurns s) rest)) := by
  induction rest generalizing b with
  | nil => exact oneIf_nil fun both => both.2
  | cons t rest ih =>
    obtain ⟨env, act⟩ := t
    rw [collect, collect]
    cases turn : act.turns s with
    | false =>
      rw [stopRequests_of_other turn, stopTurns, turn]
      exact ih (stop_step env turn h)
    | true =>
      obtain rfl := Action.eq_stop_of_turns turn
      obtain ⟨same, goesOn, ends⟩ := stop_checking env h
      rw [stopTurns, turn, stopRequests_of_same same, List.nil_append]
      by_cases can : b.Stoppable m ∧ env.can m .canStop = true
      · obtain ⟨one, none⟩ := stopRequests_stopping (k := k) (b := b.step env (.stop s))
          (goesOn can) rest
        exact ⟨fun both => one ⟨both.1, both.2.2⟩, fun fails => none fun both =>
          fails ⟨both.1, can, both.2⟩⟩
      · rw [stopRequests_settled (b := b.step env (.stop s)) (ends can) (.inl rfl) rest]
        exact oneIf_nil fun both => can both.2.1

end Bridge

end MachineBridge
