import MachineBridge.Proofs.Edits

/-!
# MachineBridge.Proofs.Frame

What tokens, windows and applications depend on.  Most operations touch neither the
registry nor the calls, and of a machine they touch only its streams, its
references or the record of its calls: they are *quiet*.  What is left of a machine
when those are forgotten is its `skeleton`, and the proofs about tokens and about
windows look at nothing else.  Whether an operation is quiet, and whether it leaves the
applications alone, is read off the parts that it edits.
-/

namespace MachineBridge

/-- A machine without its streams, its references and the record of its calls. -/
structure MachineSkeleton where
  phase : MachinePhase
  stateToken : Handle
  disconnectToken : Handle
  window : WindowState
  platform : PlatformVersion
deriving DecidableEq

/-- What tokens and windows depend on in a machine. -/
def Machine.skeleton (m : Machine) : MachineSkeleton :=
  ⟨m.phase, m.stateToken, m.disconnect.token, m.window, m.platform⟩

namespace Bridge

def skeleton? (b : Bridge) (m : Nat) : Option MachineSkeleton :=
  b.machines[m]?.map Machine.skeleton

theorem skeleton?_of_found {b : Bridge} {m : Nat} {machine : Machine}
    (found : b.machines[m]? = some machine) : b.skeleton? m = some machine.skeleton := by
  rw [skeleton?, found]
  rfl

/-- `b'` has the registry, the calls and the skeletons of `b`. -/
structure Quiet (b b' : Bridge) : Prop where
  registry : b'.registry = b.registry
  calls : b'.calls = b.calls
  skeletons : b'.skeleton? = b.skeleton?

theorem Quiet.refl (b : Bridge) : Quiet b b := ⟨rfl, rfl, rfl⟩

theorem Quiet.trans {b₁ b₂ b₃ : Bridge} (first : Quiet b₁ b₂) (second : Quiet b₂ b₃) :
    Quiet b₁ b₃ :=
  ⟨second.registry.trans first.registry, second.calls.trans first.calls,
    second.skeletons.trans first.skeletons⟩

/-- What is added to a list is found behind its last element, and all others where they were. -/
theorem getElem?_added {α : Type} (l : List α) (x : α) (k : Nat) :
    (l ++ [x])[k]? = if k = l.length then some x else l[k]? := by
  split
  · next e => rw [e, List.getElem?_concat_length]
  · next ne =>
    obtain lt | gt := Nat.lt_or_gt_of_ne ne
    · rw [List.getElem?_append_left lt]
    · rw [List.getElem?_eq_none (by simp; omega), List.getElem?_eq_none (by omega)]

/-- A modified machine is found where it was. -/
theorem getElem?_modifyMachine (b : Bridge) (m k : Nat) (f : Machine → Machine) :
    (b.modifyMachine m f).machines[k]? =
      if m = k then b.machines[k]?.map f else b.machines[k]? := by
  simp only [modifyMachine, List.getElem?_modify]
  split <;> simp

/-- A modified application is found where it was. -/
theorem getElem?_modifyApplication (b : Bridge) (a k : Nat) (f : Application → Application) :
    (b.modifyApplication a f).applications[k]? =
      if a = k then b.applications[k]?.map f else b.applications[k]? := by
  simp only [modifyApplication, List.getElem?_modify]
  split <;> simp

/-- What a change of a machine does to a view of the machines. -/
theorem map_getElem?_modifyMachine {α : Type} (b : Bridge) (m k : Nat) {f : Machine → Machine}
    {view : Machine → α} {g : α → α} (hf : ∀ x, view (f x) = g (view x)) :
    (b.modifyMachine m f).machines[k]?.map view =
      if m = k then (b.machines[k]?.map view).map g else b.machines[k]?.map view := by
  rw [getElem?_modifyMachine]
  split
  · rw [Option.map_map, Option.map_map, show view ∘ f = g ∘ view from funext hf]
  · rfl

/-- A view of the machines in which a change of a machine does not show. -/
theorem map_getElem?_modifyMachine_of_same {α : Type} (b : Bridge) (m k : Nat)
    {f : Machine → Machine} {view : Machine → α} (hf : ∀ x, view (f x) = view x) :
    (b.modifyMachine m f).machines[k]?.map view = b.machines[k]?.map view := by
  rw [b.map_getElem?_modifyMachine m k (g := id) hf, Option.map_id, id, ite_self]

/-- What a change of a machine does to the skeletons. -/
theorem skeleton?_modifyMachine (b : Bridge) (m k : Nat) {f : Machine → Machine}
    {g : MachineSkeleton → MachineSkeleton} (hf : ∀ x, (f x).skeleton = g x.skeleton) :
    (b.modifyMachine m f).skeleton? k =
      if m = k then (b.skeleton? k).map g else b.skeleton? k :=
  b.map_getElem?_modifyMachine m k hf

/-- A change of a machine goes through quiet changes. -/
theorem Quiet.modifyMachine {b b' : Bridge} (h : Quiet b b') (m : Nat) {f : Machine → Machine}
    {g : MachineSkeleton → MachineSkeleton} (hf : ∀ x, (f x).skeleton = g x.skeleton) :
    Quiet (b.modifyMachine m f) (b'.modifyMachine m f) := by
  refine ⟨h.registry, h.calls, funext fun k => ?_⟩
  rw [skeleton?_modifyMachine b' m k hf, skeleton?_modifyMachine b m k hf, h.skeletons]

/-- Modifying a machine without changing its skeleton is quiet. -/
theorem quiet_modifyMachine (b : Bridge) (m : Nat) {f : Machine → Machine}
    (hf : ∀ x, (f x).skeleton = x.skeleton) : Quiet b (b.modifyMachine m f) :=
  ⟨rfl, rfl, funext fun k => b.map_getElem?_modifyMachine_of_same m k hf⟩

theorem quiet_modifyApplication (b : Bridge) (a : Nat) (f : Application → Application) :
    Quiet b (b.modifyApplication a f) := ⟨rfl, rfl, rfl⟩

/-- A call that is noted in a machine is quiet. -/
theorem quiet_recordCall (b : Bridge) (m : Nat) (c : RuntimeCall) : Quiet b (b.recordCall m c) :=
  b.quiet_modifyMachine m fun _ => rfl

end Bridge

/-! ## edits of other parts -/

/-- The parts that tokens and windows depend on. -/
def Part.ofSkeletons : List Part := [.registry, .calls, .machines, .phases, .windows]

def Part.ofApplications : List Part :=
  [.applications, .posts, .inquiring, .queues, .hosting, .controllers, .toolkit, .closings]

namespace Bridge

variable {b b' : Bridge} {p : Part} {ps : List Part}

/-- An edit of a part that no token depends on is quiet. -/
theorem Edit.quiet (edit : Edit p b b') (apart : p ∉ Part.ofSkeletons) : Quiet b b' := by
  cases edit with
  | registry | calls | machines | phases | windows => simp [Part.ofSkeletons] at apart
  | states only => exact quiet_modifyMachine _ _ fun x =>
    (congrArg Machine.skeleton (only x)).trans rfl
  | references only => exact quiet_modifyMachine _ _ fun x =>
    (congrArg Machine.skeleton (only x)).trans rfl
  | @pipelines _ _ f only token =>
    refine quiet_modifyMachine _ _ fun x => (congrArg Machine.skeleton (only x)).trans ?_
    rw [Machine.skeleton, Machine.skeleton, token x]
  | runtime => exact quiet_recordCall _ _ _
  | _ => exact ⟨rfl, rfl, rfl⟩

/-- Edits of parts that no token depends on are quiet. -/
theorem Edits.quiet (h : Edits ps b b') (apart : Part.apart ps Part.ofSkeletons = true) :
    Quiet b b' :=
  h.keeps .refl .trans Edit.quiet apart

/-- Edits elsewhere leave the control calls. -/
theorem Edits.calls_eq (h : Edits ps b b') (apart : Part.apart ps [.calls] = true) :
    b'.calls = b.calls := by
  refine h.keeps_view (fun {p _ _} edit other => ?_) apart
  cases edit with
  | calls => simp at other
  | _ => rfl

/-- Edits elsewhere leave the applications. -/
theorem Edits.applications_eq (h : Edits ps b b')
    (apart : Part.apart ps Part.ofApplications = true) : b'.applications = b.applications := by
  refine h.keeps_view (fun {p _ _} edit other => ?_) apart
  cases edit with
  | applications | queues | hosting | controllers | toolkit | closings =>
    simp [Part.ofApplications] at other
  | @posts _ _ t => cases t <;> simp [MainTask.part, Part.ofApplications] at other
  | _ => rfl

theorem applications_subscribeStates (b : Bridge) (m : Nat) :
    (b.subscribeStates m).1.applications = b.applications :=
  (b.edits_subscribeStates m).applications_eq rfl

theorem applications_receiveState (b : Bridge) (m i : Nat) :
    (b.receiveState m i).1.applications = b.applications :=
  (b.edits_receiveState m i).applications_eq rfl

theorem applications_openWindow (b : Bridge) (m : Nat) (w : WindowState) (a : Nat)
    (spec : WindowSpec) : (b.openWindow m w a spec).applications = b.applications :=
  (b.edits_openWindow m w a spec).applications_eq rfl

theorem applications_receive (b : Bridge) (e : Callback) :
    (b.receive e).1.applications = b.applications :=
  (b.edits_receive e).applications_eq (by cases e <;> rfl)

/-- Tasks that are discarded leave the applications. -/
theorem applications_discardTasks (b : Bridge) (ts : List MainTask) :
    (ts.foldl discardTask b).applications = b.applications :=
  (b.edits_discardTasks ts).applications_eq rfl

end Bridge

end MachineBridge
