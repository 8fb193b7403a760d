import MachineBridge.Proofs.Lifecycle.Release
import MachineBridge.Proofs.Streams.Uses
import Mathlib.Logic.Relation

/-!
# MachineBridge.Proofs.Changes

What a step of the bridge can do to its machines and its applications, one change at a time.
A machine changes by a `Machine.Change` and an application by an `Application.Change`; each
of them says what it needs: a call into the runtime needs a live machine on a platform that
has it, and a window is shown or closed only while the application has its controller.

`leads_step` says that a step makes no other changes.  A step refers to windows that the
bridge already referred to, and to those of the machines; which windows these are is left
open, as a set `N` of tokens that is closed under what the step does.

An invariant of machines or of applications is then proved with one case for each change,
and not with one for each action (`machine_run`, `application_changed_run`).
-/

namespace MachineBridge

open DisconnectPipeline (Use)
open Relation (ReflTransGen)

/-! ## machines -/

/-- The major release of the platform that a call into the runtime needs. -/
def RuntimeCall.requiredRelease : RuntimeCall → UInt32
  | .create .. => PlatformVersion.forMachines
  | .perform op _ => op.requiredRelease
  | .requestStop => PlatformVersion.anyRelease
  | .query q => q.requiredRelease
  | .release => PlatformVersion.anyRelease

/-- A machine that the runtime has just begun to create. -/
def Machine.begun (platform : PlatformVersion) (c : MachineConfiguration)
    (state disconnect : Handle) : Machine where
  platform
  configuration := c
  stateToken := state
  disconnect := { token := disconnect }
  calls := [.create state disconnect]

/-- What can happen to a machine. -/
inductive Machine.Change (x : Machine) : Machine → Prop
  /-- A state is published, or somebody listens to the states. -/
  | streams {s : StateStream} : Change x { x with state := s }
  /-- The pipeline for lost attachments is used; only a subscription can start its worker. -/
  | uses {u : Use} (ongoing : u ≠ .shutdown)
      (starts : u = .subscribe → x.skeleton.Admits PlatformVersion.forStopAndGraphics) :
      Change x { x with disconnect := x.disconnect.use x.configuration u }
  | counted {n : Nat} : Change x { x with references := n }
  | calls {c : RuntimeCall} (admits : x.skeleton.Admits c.requiredRelease) (other : c ≠ .release) :
      Change x (x.record c)
  | opens {id : Handle} {a : Nat} {spec : WindowSpec}
      (admits : x.skeleton.Admits PlatformVersion.forStopAndGraphics) :
      Change x { x with window := x.window.opened id a spec }
  | shuts : Change x { x with window := x.window.closed }
  | created {n : Nat} (creating : x.phase = .creating) :
      Change x { x with phase := .live, references := n }
  | failed (creating : x.phase = .creating) : Change x { x with phase := .abandoned }
  | released (live : x.phase = .live) :
      Change x ({ x with phase := .releasing, window := {} }.record .release)
  | finished (releasing : x.phase = .releasing) :
      Change x { x with
        phase := .finalized
        disconnect := x.disconnect.shutdown
        state := x.state.close }

/-! ## applications -/

def ToolkitCall.window : ToolkitCall → Handle
  | .create id _ => id
  | .show id => id
  | .bringToFront id => id
  | .isVisible id => id
  | .close id => id

/-- The window that a task is about. An inquiry knows its window itself. -/
def MainTask.window? : MainTask → Option Handle
  | .present id _ _ _ => some id
  | .bringToFront id => some id
  | .forget id => some id
  | .closeForStop id _ => some id
  | .inquire _ => none
  | .host _ => none

namespace Application

variable {N : Handle → Prop} {x : Application} {id : Handle}

/-- The calls into the toolkit that leave the controllers alone: a window that the
application has is shown, and any window can be raised or looked at. -/
def Allows (N : Handle → Prop) (x : Application) : ToolkitCall → Prop
  | .show id => (x.watcher? id).isSome = true
  | .bringToFront id => N id
  | .isVisible id => N id
  | .create .. => False
  | .close _ => False

/-- What can happen to an application. -/
inductive Change (N : Handle → Prop) (x : Application) : Application → Prop
  /-- Tasks leave the queue, or the host's task begins or ends. -/
  | rests (queue : MainQueue MainTask) (job : Option Nat)
      (tasks : ∀ t ∈ queue.tasks, t ∈ x.queue.tasks) : Change N x { x with queue, job }
  | posts {t : MainTask} (named : ∀ id, t.window? = some id → N id) : Change N x (x.post t)
  | calls {c : ToolkitCall} (allowed : x.Allows N c) : Change N x (x.record c)
  | creates {id : Handle} {w : Nat} {spec : WindowSpec} (absent : x.watcher? id = none)
      (named : N id) : Change N x ((x.insertController id w).record (.create id spec))
  | closes {id : Handle} {w : Nat} (held : x.watcher? id = some w) :
      Change N x ((x.eraseController id).record (.close id))
  | closedByUser {id : Handle} {w : Nat} (held : x.watcher? id = some w) :
      Change N x { x.eraseController id with history := x.history ++ [.closedByUser id] }

theorem recordUpToPanic_cons (x : Application) (panics : ToolkitCall → Bool) (c : ToolkitCall)
    (cs : List ToolkitCall) : x.recordUpToPanic panics (c :: cs) =
      if panics c then x.record c else (x.record c).recordUpToPanic panics cs := by
  rw [recordUpToPanic, upToPanic]
  split <;> rfl

/-- Calls that leave the controllers alone. -/
theorem changed_recordUpToPanic (panics : ToolkitCall → Bool) {cs : List ToolkitCall}
    (allowed : ∀ c ∈ cs, x.Allows N c) :
    ReflTransGen (Change N) x (x.recordUpToPanic panics cs) := by
  induction cs generalizing x with
  | nil => exact .refl
  | cons c rest ih =>
    have first : Change N x (x.record c) := .calls (allowed c List.mem_cons_self)
    rw [recordUpToPanic_cons]
    split
    · exact .single first
    · refine .head first (ih fun d mem => ?_)
      have later := allowed d (List.mem_cons_of_mem c mem)
      cases d <;> exact later

/-- A window is created, shown and raised, up to the first panic. -/
theorem changed_creates (panics : ToolkitCall → Bool) (absent : x.watcher? id = none)
    (named : N id) (w : Nat) (spec : WindowSpec) :
    ReflTransGen (Change N) x ((x.insertController id w).recordUpToPanic panics
      [.create id spec, .show id, .bringToFront id]) := by
  have first : Change N x ((x.insertController id w).record (.create id spec)) :=
    .creates absent named
  rw [recordUpToPanic_cons]
  split
  · exact .single first
  · refine .head first (changed_recordUpToPanic panics fun c mem => ?_)
    rw [List.mem_cons, List.mem_singleton] at mem
    obtain rfl | rfl := mem
    · show ((x.insertController id w).watcher? id).isSome = true
      rw [watcher?_insertController, if_pos rfl]
      rfl
    · exact named

/-- A window is closed, whether or not the call panics. -/
theorem changed_closes (panics : ToolkitCall → Bool) {w : Nat} (held : x.watcher? id = some w) :
    ReflTransGen (Change N) x ((x.eraseController id).recordUpToPanic panics [.close id]) := by
  rw [recordUpToPanic_cons]
  split <;> exact .single (.closes held)

/-! ## the windows that an application refers to -/

/-- All windows that an application refers to are in a set. -/
structure Within (N : Handle → Prop) (x : Application) : Prop where
  tasks : ∀ t ∈ x.queue.tasks, ∀ id, t.window? = some id → N id
  held : ∀ id, (x.watcher? id).isSome = true → N id
  called : ∀ c, .called c ∈ x.history → N c.window

/-- An application without windows refers to none. -/
theorem within_empty : Within N {} := ⟨by simp [MainQueue.tasks], by simp [watcher?], by simp⟩

/-- A call that is allowed is about a window of the set. -/
theorem Within.named (h : x.Within N) : ∀ {c : ToolkitCall}, x.Allows N c → N c.window
  | .show id, held => h.held id held
  | .bringToFront _, named => named
  | .isVisible _, named => named
  | .create .., never => never.elim
  | .close _, never => never.elim

/-- An application goes on with the windows of the set only. -/
theorem Within.change {x' : Application} (h : x.Within N) (change : Change N x x') :
    x'.Within N := by
  have after (c : ToolkitCall) (named : N c.window) (d : ToolkitCall)
      (mem : .called d ∈ x.history ++ [.called c]) : N d.window := by
    obtain earlier | last := List.mem_append.1 mem
    · exact h.called d earlier
    · cases List.mem_singleton.1 last
      exact named
  have erased {id : Handle} (k : Handle) (kept : ((x.eraseController id).watcher? k).isSome = true) :
      N k := by
    rw [watcher?_eraseController] at kept
    split at kept
    · cases kept
    · exact h.held k kept
  cases change with
  | rests queue job tasks => exact ⟨fun t mem => h.tasks t (tasks t mem), h.held, h.called⟩
  | posts named =>
    refine ⟨fun t mem => ?_, h.held, h.called⟩
    rw [tasks_post, List.mem_append, List.mem_singleton] at mem
    obtain earlier | rfl := mem
    · exact h.tasks t earlier
    · exact named
  | @calls c allowed => exact ⟨h.tasks, h.held, after c (h.named allowed)⟩
  | @creates id w spec absent named =>
    refine ⟨h.tasks, fun k held => ?_, after (.create id spec) named⟩
    have held : ((x.insertController id w).watcher? k).isSome = true := held
    rw [watcher?_insertController] at held
    split at held
    · next same => exact same ▸ named
    · exact h.held k held
  | @closes id w held =>
    exact ⟨h.tasks, erased, after (.close id) (h.held id (by rw [held]; rfl))⟩
  | closedByUser held =>
    refine ⟨h.tasks, erased, fun c mem => h.called c ?_⟩
    simpa using mem

end Application

namespace Bridge

/-- The application of a number; one that there is not yet has done nothing. -/
def application (b : Bridge) (a : Nat) : Application := b.applications[a]?.getD {}

/-- A watcher or an inquiry is about a window. -/
def Concerns (b : Bridge) (id : Handle) : Prop :=
  (∃ w ∈ b.watchers, w.id = id) ∨ ∃ q ∈ b.inquiries, q.id = id

/-- All windows that the bridge refers to are in a set. -/
structure Within (N : Handle → Prop) (b : Bridge) : Prop where
  applications : ∀ a, (b.application a).Within N
  concerned : ∀ id, b.Concerns id → N id

/-- The windows of all machines are in a set. -/
def Owned (N : Handle → Prop) (b : Bridge) : Prop :=
  ∀ m s id, b.skeleton? m = some s → s.window.token = some id → N id

/-- `b'` comes from `b` by changes of machines and applications that there are. -/
structure Leads (N : Handle → Prop) (b b' : Bridge) : Prop where
  machines : ∀ (m : Nat) x', b'.machines[m]? = some x' →
    ∃ x, b.machines[m]? = some x ∧ ReflTransGen Machine.Change x x'
  applications : ∀ a, ReflTransGen (Application.Change N) (b.application a) (b'.application a)
  concerned : ∀ id, b'.Concerns id → b.Concerns id ∨ N id

variable {N : Handle → Prop} {b b' : Bridge} {a m : Nat} {id : Handle}

theorem application_of_found {x : Application} (found : b.applications[a]? = some x) :
    b.application a = x := by
  rw [application, found]
  rfl

theorem Leads.refl (b : Bridge) : Leads N b b where
  machines _ x' found := ⟨x', found, .refl⟩
  applications _ := .refl
  concerned _ := .inl

/-- What one step leads to, and the next, the two lead to. -/
theorem Leads.trans {b₁ b₂ b₃ : Bridge} (first : Leads N b₁ b₂) (second : Leads N b₂ b₃) :
    Leads N b₁ b₃ where
  machines m x₃ found := by
    obtain ⟨x₂, found₂, later⟩ := second.machines m x₃ found
    obtain ⟨x₁, found₁, earlier⟩ := first.machines m x₂ found₂
    exact ⟨x₁, found₁, earlier.trans later⟩
  applications a := (first.applications a).trans (second.applications a)
  concerned id concerns := by
    obtain concerns | named := second.concerned id concerns
    · exact first.concerned id concerns
    · exact .inr named

/-- Whatever changes, the bridge refers to windows of the set only. -/
theorem Leads.within (h : Leads N b b') (within : b.Within N) : b'.Within N where
  applications a := by
    have changed := h.applications a
    generalize b'.application a = x' at changed
    induction changed with
    | refl => exact within.applications a
    | tail _ change ih => exact ih.change change
  concerned id concerns := (h.concerned id concerns).elim (within.concerned id) fun named => named

/-- Machines, applications, watchers and inquiries stay as they are. -/
theorem Leads.of_same (machines : b'.machines = b.machines)
    (applications : b'.applications = b.applications) (watchers : b'.watchers = b.watchers)
    (inquiries : b'.inquiries = b.inquiries) : Leads N b b' where
  machines m x' found := ⟨x', machines ▸ found, .refl⟩
  applications a := by
    rw [application, application, applications]
  concerned id concerns := by
    rw [Concerns, watchers, inquiries] at concerns
    exact .inl concerns

/-- A machine is changed. -/
theorem leads_modifyMachine (b : Bridge) (m : Nat) {f : Machine → Machine}
    (change : ∀ x, b.machines[m]? = some x → Machine.Change x (f x)) :
    Leads N b (b.modifyMachine m f) where
  machines k x' found := by
    rw [getElem?_modifyMachine] at found
    split at found
    · next own =>
      subst own
      obtain ⟨x, known, rfl⟩ := Option.map_eq_some_iff.1 found
      exact ⟨x, known, .single (change x known)⟩
    · exact ⟨x', found, .refl⟩
  applications _ := .refl
  concerned _ := .inl

/-- A change of one machine. -/
theorem leads_of_found {x : Machine} (found : b.machines[m]? = some x) {f : Machine → Machine}
    (change : Machine.Change x (f x)) : Leads N b (b.modifyMachine m f) :=
  b.leads_modifyMachine m fun y known => by
    cases found.symm.trans known
    exact change

/-- An application is changed, and nothing else. -/
theorem Leads.of_change {f : Application → Application} (machines : b'.machines = b.machines)
    (watchers : ∀ w' ∈ b'.watchers, N w'.id ∨ ∃ w ∈ b.watchers, w.id = w'.id)
    (inquiries : b'.inquiries = b.inquiries)
    (after : ∀ k, b'.applications[k]? =
      if a = k then b.applications[k]?.map f else b.applications[k]?)
    (change : ∀ x, b.applications[a]? = some x → ReflTransGen (Application.Change N) x (f x)) :
    Leads N b b' where
  machines m x' found := ⟨x', machines ▸ found, .refl⟩
  applications k := by
    rw [application, application, after k]
    split
    · next own =>
      subst own
      cases found : b.applications[a]? with
      | none => exact .refl
      | some x => exact change x found
    · exact .refl
  concerned id concerns := by
    rw [Concerns, inquiries] at concerns
    obtain ⟨w', mem, rfl⟩ | asked := concerns
    · obtain named | known := watchers w' mem
      · exact .inr named
      · exact .inl (.inl known)
    · exact .inl (.inr asked)

/-- Some changes of one application. -/
theorem leads_modifyApplication (b : Bridge) (a : Nat) {f : Application → Application}
    (change : ∀ x, b.applications[a]? = some x → ReflTransGen (Application.Change N) x (f x)) :
    Leads N b (b.modifyApplication a f) :=
  .of_change rfl (fun w mem => .inr ⟨w, mem, rfl⟩) rfl (b.getElem?_modifyApplication a · f) change

/-- A watcher changes, and stays the watcher of its window. -/
theorem watchers_modifyWatcher {w : Nat} {f : Watcher → Watcher} (same : ∀ x, (f x).id = x.id) :
    ∀ x' ∈ (b.modifyWatcher w f).watchers, N x'.id ∨ ∃ x ∈ b.watchers, x.id = x'.id := by
  intro x' mem
  obtain ⟨k, found⟩ := List.mem_iff_getElem?.1 mem
  rw [modifyWatcher, List.getElem?_modify] at found
  obtain ⟨x, known, rfl⟩ := Option.map_eq_some_iff.1 found
  refine .inr ⟨x, List.mem_of_getElem? known, ?_⟩
  split
  · exact (same x).symm
  · rfl

/-- A watcher goes on watching the same window. -/
theorem leads_modifyWatcher (b : Bridge) (w : Nat) {f : Watcher → Watcher}
    (same : ∀ x, (f x).id = x.id) : Leads N b (b.modifyWatcher w f) :=
  .of_change (a := 0) (f := id) rfl (watchers_modifyWatcher same) rfl (by simp [modifyWatcher])
    fun _ _ => .refl

theorem leads_addApplication (b : Bridge) : Leads N b b.addApplication.1 where
  machines _ x' found := ⟨x', found, .refl⟩
  applications a := by
    have same : b.addApplication.1.application a = b.application a := by
      show ((b.applications ++ [({} : Application)])[a]?).getD {} = (b.applications[a]?).getD {}
      obtain lt | ge := Nat.lt_or_ge a b.applications.length
      · rw [List.getElem?_append_left lt]
      · rw [List.getElem?_append_right ge, List.getElem?_eq_none ge]
        cases a - b.applications.length <;> rfl
    rw [same]
  concerned _ := .inl

end Bridge

/-- The parts whose changes depend on what machines and applications are like, or on windows. -/
def Part.ofChanges : List Part :=
  [.inquiries, .watchers, .machines, .phases, .windows, .pipelines, .operations, .queries,
    .releases, .posts, .inquiring, .controllers, .toolkit, .closings]

namespace Bridge

/-- An edit of a part that no change is about leads nowhere new. -/
theorem Edit.leads {p : Part} (edit : Edit p b b') (apart : p ∉ Part.ofChanges) : Leads N b b' := by
  cases edit with
  | registry | calls | stops | jobs => exact .of_same rfl rfl rfl rfl
  | watching only => exact b.leads_modifyWatcher _ fun x => by rw [only x]
  | states only => exact b.leads_modifyMachine _ fun x _ => only x ▸ .streams
  | references only => exact b.leads_modifyMachine _ fun x _ => only x ▸ .counted
  | applications => exact b.leads_addApplication
  | queues only fewer =>
    exact b.leads_modifyApplication _ fun x _ => only x ▸ .single (.rests _ _ (fewer x))
  | hosting only =>
    exact b.leads_modifyApplication _ fun x _ => only x ▸ .single (.rests _ _ fun _ mem => mem)
  | @runtime _ _ c => cases c <;> simp [RuntimeCall.part, Part.ofChanges] at apart
  | @posts _ _ t => cases t <;> simp [MainTask.part, Part.ofChanges] at apart
  | _ => simp [Part.ofChanges] at apart

/-- Edits of parts that no change is about lead nowhere new. -/
theorem Edits.leads {ps : List Part} (h : Edits ps b b')
    (apart : Part.apart ps Part.ofChanges = true) : Leads N b b' :=
  h.keeps .refl .trans Edit.leads apart

/-- An inquiry is answered, and stays about its window. -/
theorem leads_answerInquiry (b : Bridge) (i : Nat) (v : Visibility) :
    Leads N b (b.answerInquiry i v) where
  machines _ x' found := ⟨x', found, .refl⟩
  applications _ := .refl
  concerned id concerns := by
    refine .inl (concerns.imp_right ?_)
    rintro ⟨q, mem, rfl⟩
    obtain ⟨k, found⟩ := List.mem_iff_getElem?.1 mem
    rw [answerInquiry, List.getElem?_modify] at found
    obtain ⟨asked, known, rfl⟩ := Option.map_eq_some_iff.1 found
    refine ⟨asked, List.mem_of_getElem? known, ?_⟩
    split <;> rfl

end Bridge

end MachineBridge
