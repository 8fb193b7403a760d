import MachineBridge.Proofs.Turns
import Mathlib.Data.List.Basic

/-!
# MachineBridge.Proofs.Edits

Which parts of the bridge an operation changes.  An operation is a chain of *edits*: each of
them changes one part, such as the registry, the windows that the machines have, or the tasks
that are queued.  There is one lemma for each operation that lists the parts it edits, and
`edits_step` lists them for each action.

What depends on some parts only is left alone by the edits of all others (`Edits.keeps`).  So
what an operation leaves alone is read off its list, and no other proof unfolds it for that.
-/

namespace MachineBridge

/-- An application with one more task behind all others. -/
def Application.post (x : Application) (t : MainTask) : Application :=
  { x with queue := { x.queue with messages := x.queue.messages ++ [.run t] } }

/-- A part of the bridge. -/
inductive Part where
  | registry
  | calls
  | stops
  | inquiries
  | jobs
  /-- The watchers that were started. -/
  | watchers
  /-- Whether a watcher is open and running. -/
  | watching
  /-- The machines that were begun. -/
  | machines
  | phases
  | windows
  | states
  | pipelines
  | references
  /-- The operations, the queries and the releases that a runtime was called for. -/
  | operations
  | queries
  | releases
  /-- The applications that were added. -/
  | applications
  /-- The tasks that were handed over, apart from those that answer an inquiry. -/
  | posts
  | inquiring
  /-- The tasks that left their queue. -/
  | queues
  /-- The task of the host that occupies a main thread. -/
  | hosting
  | controllers
  /-- The calls into a toolkit, and the events that close a window. -/
  | toolkit
  | closings
deriving DecidableEq

namespace Part

/-- No part is on both lists. -/
def apart (ps qs : List Part) : Bool := ps.all (!qs.contains ·)

/-- A part of one list is not on a list apart from it. -/
theorem not_mem_of_apart {ps qs : List Part} {p : Part} (h : apart ps qs = true) (mem : p ∈ ps) :
    p ∉ qs := by
  simpa using List.all_eq_true.1 h p mem

end Part

/-- Where a call into a runtime is noted. -/
def RuntimeCall.part : RuntimeCall → Part
  | .create .. => .machines
  | .perform .. => .operations
  | .requestStop => .queries
  | .query _ => .queries
  | .release => .releases

/-- Where a task is noted that is handed over. -/
def MainTask.part : MainTask → Part
  | .inquire _ => .inquiring
  | _ => .posts

namespace Bridge

/-! ## edits -/

/-- A change of one part of the bridge. -/
inductive Edit : Part → Bridge → Bridge → Prop
  | registry {b : Bridge} {registry : Registry} : Edit .registry b { b with registry }
  | calls {b : Bridge} {calls : List ControlCall} : Edit .calls b { b with calls }
  | stops {b : Bridge} {stops : List BackgroundStop} : Edit .stops b { b with stops }
  | inquiries {b : Bridge} {inquiries : List Inquiry} : Edit .inquiries b { b with inquiries }
  | jobs {b : Bridge} {jobs : List JobStatus} : Edit .jobs b { b with jobs }
  | watchers {b : Bridge} {w : Watcher} : Edit .watchers b { b with watchers := b.watchers ++ [w] }
  | watching {b : Bridge} {w : Nat} {f : Watcher → Watcher}
      (only : ∀ x, f x = { x with isOpen := (f x).isOpen, running := (f x).running }) :
      Edit .watching b (b.modifyWatcher w f)
  | machines {b : Bridge} {x : Machine} : Edit .machines b { b with machines := b.machines ++ [x] }
  | phases {b : Bridge} {m : Nat} {f : Machine → Machine}
      (only : ∀ x, f x = { x with phase := (f x).phase }) : Edit .phases b (b.modifyMachine m f)
  | windows {b : Bridge} {m : Nat} {f : Machine → Machine}
      (only : ∀ x, f x = { x with window := (f x).window }) : Edit .windows b (b.modifyMachine m f)
  | states {b : Bridge} {m : Nat} {f : Machine → Machine}
      (only : ∀ x, f x = { x with state := (f x).state }) : Edit .states b (b.modifyMachine m f)
  | pipelines {b : Bridge} {m : Nat} {f : Machine → Machine}
      (only : ∀ x, f x = { x with disconnect := (f x).disconnect })
      (token : ∀ x, (f x).disconnect.token = x.disconnect.token) :
      Edit .pipelines b (b.modifyMachine m f)
  | references {b : Bridge} {m : Nat} {f : Machine → Machine}
      (only : ∀ x, f x = { x with references := (f x).references }) :
      Edit .references b (b.modifyMachine m f)
  | runtime {b : Bridge} {m : Nat} {c : RuntimeCall} : Edit c.part b (b.recordCall m c)
  | applications {b : Bridge} : Edit .applications b b.addApplication.1
  | posts {b : Bridge} {a : Nat} {t : MainTask} :
      Edit t.part b (b.modifyApplication a (·.post t))
  | queues {b : Bridge} {a : Nat} {f : Application → Application}
      (only : ∀ x, f x = { x with queue := (f x).queue })
      (fewer : ∀ x, ∀ t ∈ (f x).queue.tasks, t ∈ x.queue.tasks) :
      Edit .queues b (b.modifyApplication a f)
  | hosting {b : Bridge} {a : Nat} {f : Application → Application}
      (only : ∀ x, f x = { x with job := (f x).job }) : Edit .hosting b (b.modifyApplication a f)
  | controllers {b : Bridge} {a : Nat} {f : Application → Application}
      (only : ∀ x, f x = { x with controllers := (f x).controllers }) :
      Edit .controllers b (b.modifyApplication a f)
  | toolkit {env : Environment} {b : Bridge} {a : Nat} {cs : List ToolkitCall}
      (shows : ∀ c ∈ cs, ∀ id, c ≠ .close id) : Edit .toolkit b (b.callToolkit env a cs)
  | closings {b : Bridge} {a : Nat} {f : Application → Application}
      (only : ∀ x, f x = { x with history := (f x).history }) :
      Edit .closings b (b.modifyApplication a f)

/-- The bridges that come from `b` by edits of some parts. -/
inductive Edits (ps : List Part) (b : Bridge) : Bridge → Prop
  | refl : Edits ps b b
  | last {b₁ b₂ : Bridge} {p : Part} (edit : Edit p b₁ b₂) (listed : p ∈ ps)
      (before : Edits ps b b₁) : Edits ps b b₂

namespace Edits

variable {ps qs : List Part} {b b' b₁ b₂ b₃ : Bridge} {p : Part}

theorem one (edit : Edit p b b') : Edits [p] b b' := .last edit (.head _) .refl

theorem trans (first : Edits ps b₁ b₂) (second : Edits ps b₂ b₃) : Edits ps b₁ b₃ := by
  induction second with
  | refl => exact first
  | last edit listed _ ih => exact .last edit listed ih

/-- Further parts may be listed. -/
theorem mono (h : Edits ps b b') (more : ∀ p ∈ ps, p ∈ qs) : Edits qs b b' := by
  induction h with
  | refl => exact .refl
  | last edit listed _ ih => exact .last edit (more _ listed) ih

/-- What every edit of other parts keeps is kept by all edits of other parts together. -/
theorem keeps {R : Bridge → Bridge → Prop} (refl : ∀ b, R b b)
    (trans : ∀ {b₁ b₂ b₃}, R b₁ b₂ → R b₂ b₃ → R b₁ b₃)
    (kept : ∀ {p b b'}, Edit p b b' → p ∉ qs → R b b') (h : Edits ps b b')
    (apart : Part.apart ps qs = true) : R b b' := by
  induction h with
  | refl => exact refl b
  | last edit listed _ ih => exact trans ih (kept edit (Part.not_mem_of_apart apart listed))

/-- A view of the bridge that no edit of other parts changes. -/
theorem keeps_view {α : Type} {view : Bridge → α}
    (kept : ∀ {p b b'}, Edit p b b' → p ∉ qs → view b' = view b) (h : Edits ps b b')
    (apart : Part.apart ps qs = true) : view b' = view b :=
  h.keeps (R := fun b b' => view b' = view b) (fun _ => rfl)
    (fun first second => second.trans first) kept apart

end Edits

/-! ## streams -/

variable {env : Environment} {b : Bridge} {a m : Nat} {id : Handle}

theorem edits_dropStates (b : Bridge) (m i : Nat) : Edits [.states] b (b.dropStates m i) :=
  .one (.states fun _ => rfl)

theorem edits_subscribeStates (b : Bridge) (m : Nat) :
    Edits [.states] b (b.subscribeStates m).1 := by
  unfold subscribeStates
  split
  · exact .refl
  · exact .one (.states fun _ => rfl)

theorem edits_receiveState (b : Bridge) (m i : Nat) : Edits [.states] b (b.receiveState m i).1 := by
  unfold receiveState
  split
  · exact .refl
  · exact .one (.states fun _ => rfl)

theorem edits_subscribeDisconnects (b : Bridge) (m : Nat) :
    Edits [.pipelines] b (b.subscribeDisconnects m).1 := by
  unfold subscribeDisconnects
  split
  · exact .refl
  · exact .one (.pipelines (fun _ => rfl) fun _ => rfl)

theorem edits_receiveDisconnect (b : Bridge) (m i : Nat) :
    Edits [.pipelines] b (b.receiveDisconnect m i).1 := by
  unfold receiveDisconnect
  split
  · exact .refl
  · exact .one (.pipelines (fun _ => rfl) fun _ => rfl)

theorem edits_dropDisconnects (b : Bridge) (m i : Nat) :
    Edits [.pipelines] b (b.dropDisconnects m i) := .one (.pipelines (fun _ => rfl) fun _ => rfl)

theorem edits_work (b : Bridge) (m : Nat) : Edits [.pipelines] b (b.work m) := by
  refine .one (.pipelines (fun _ => rfl) fun x => ?_)
  show (x.disconnect.work x.configuration).token = x.disconnect.token
  unfold DisconnectPipeline.work
  split
  · split
    · rfl
    · split <;> rfl
  · rfl

/-! ## calls into the runtime -/

theorem edits_beginControl (b : Bridge) (m : Nat) (op : Operation) :
    Edits [.registry, .calls, .operations] b (b.beginControl m op).1 := by
  unfold beginControl
  split
  · exact .refl
  · exact .last .runtime (by simp [RuntimeCall.part])
      (.last .calls (by simp) (.last .registry (by simp) .refl))

theorem edits_requestStop (env : Environment) (b : Bridge) (m : Nat) :
    Edits [.queries] b (b.requestStop env m).1 := by
  unfold requestStop
  split
  · exact .refl
  · exact .one (.runtime (c := .requestStop))

theorem edits_ask (env : Environment) (b : Bridge) (m : Nat) (q : Query) :
    Edits [.queries] b (b.ask env m q).1 := by
  unfold ask
  split
  · exact .refl
  · split
    · exact .one (.runtime (c := .query q))
    · exact .refl

/-! ## tokens -/

theorem edits_registerNumber (b : Bridge) (n : Int32) :
    Edits [.registry] b (b.registerNumber n).1 := .one .registry

theorem edits_releaseToken (b : Bridge) (h : Handle) :
    Edits [.registry, .calls] b (b.releaseToken h).1 := by
  unfold releaseToken
  split
  · exact .refl
  · exact .last .calls (by simp) (.last .registry (by simp) .refl)
  · exact .last .registry (by simp) .refl

theorem edits_windowToken (b : Bridge) (m : Nat) (w : WindowState) :
    Edits [.registry] b (b.windowToken m w).1 := by
  unfold windowToken
  split
  · exact .refl
  · exact .one .registry

/-! ## reports of the runtime -/

end Bridge

def Callback.parts : Callback → List Part
  | .completion .. => [.registry, .calls]
  | .stateChanged .. => [.states]
  | .disconnected .. => [.pipelines]
  | .disconnectsEnded _ => [.pipelines]
  | .windowClosed _ => [.windows]

namespace Bridge

/-- A report edits the part that its kind of report is about. -/
theorem edits_receive (b : Bridge) (e : Callback) : Edits e.parts b (b.receive e).1 := by
  unfold receive
  split
  · exact .refl
  · split
    · exact .refl
    · cases e with
      | completion token error =>
        simp only [deliver]
        split
        · exact .refl
        · exact .last .calls (.tail _ (.head _)) (.last .registry (.head _) .refl)
      | stateChanged token code =>
        simp only [deliver]
        split
        · exact .refl
        · exact .one (.states fun _ => rfl)
      | disconnected token index error =>
        refine .one (.pipelines (fun _ => rfl) fun x => ?_)
        show (x.disconnect.push _).token = x.disconnect.token
        unfold DisconnectPipeline.push
        split <;> rfl
      | disconnectsEnded token => exact .one (.pipelines (fun _ => rfl) fun _ => rfl)
      | windowClosed token => exact .one (.windows fun _ => rfl)

/-! ## tasks -/

/-- A task is handed over to an application that accepts it, behind all others. -/
theorem dispatch_cases (b : Bridge) (a : Nat) (t : MainTask) :
    (∃ x, b.applications[a]? = some x ∧ x.queue.isOpen = true ∧
        b.dispatch a t = (b.modifyApplication a fun y =>
          { y with queue := { x.queue with messages := x.queue.messages ++ [.run t] } }, .ok ())) ∨
      (∀ x, b.applications[a]? = some x → x.queue.isOpen = false) ∧
        ∃ e, b.dispatch a t = (b, .error e) := by
  unfold dispatch
  cases found : b.applications[a]? with
  | none => exact .inr ⟨by simp, _, rfl⟩
  | some x =>
    by_cases accepts : x.queue.isOpen = true
    · refine .inl ⟨x, rfl, accepts, ?_⟩
      simp only [MainQueue.dispatch, accepts, if_true]
    · refine .inr ⟨?_, .mainLoopNotRunning, ?_⟩
      · rintro y ⟨⟩
        simpa using accepts
      · simp only [MainQueue.dispatch, if_neg accepts]

/-- A task is queued behind all others, or nothing changes. -/
theorem dispatch_post (b : Bridge) (a : Nat) (t : MainTask) :
    (∃ e, b.dispatch a t = (b, .error e)) ∨
      b.dispatch a t = (b.modifyApplication a (·.post t), .ok ()) := by
  obtain ⟨x, found, -, posted⟩ | ⟨-, refused⟩ := b.dispatch_cases a t
  · refine .inr (posted.trans ?_)
    have same : b.applications.modify a (fun y =>
          { y with queue := { x.queue with messages := x.queue.messages ++ [.run t] } }) =
        b.applications.modify a (·.post t) := by
      rw [List.modify_eq_set_getElem?, List.modify_eq_set_getElem?, found]
      rfl
    rw [modifyApplication, same]
    rfl
  · exact .inl refused

/-- A task that is handed over is noted where its kind of task is. -/
theorem edits_dispatch (b : Bridge) (a : Nat) (t : MainTask) :
    Edits [t.part] b (b.dispatch a t).1 := by
  obtain ⟨e, refused⟩ | posted := b.dispatch_post a t
  · rw [refused]
    exact .refl
  · rw [posted]
    exact .one .posts

theorem edits_discardTask (b : Bridge) (t : MainTask) :
    Edits [.states, .inquiries, .jobs] b (b.discardTask t) := by
  cases t with
  | present id spec m i => exact .last (.states fun _ => rfl) (by simp) .refl
  | inquire i => exact .last .inquiries (by simp) .refl
  | host j => exact .last .jobs (by simp) .refl
  | bringToFront id | forget id | closeForStop id w => exact .refl

/-- Tasks that are discarded drop subscriptions, and free who waits for them. -/
theorem edits_discardTasks (b : Bridge) (ts : List MainTask) :
    Edits [.states, .inquiries, .jobs] b (ts.foldl discardTask b) := by
  induction ts generalizing b with
  | nil => exact .refl
  | cons t ts ih => exact (b.edits_discardTask t).trans (ih _)

theorem edits_postJob (b : Bridge) (a : Nat) : Edits [.posts, .jobs] b (b.postJob a).1 := by
  have posted : Edits [.posts, .jobs] b (b.dispatch a (.host b.jobs.length)).1 :=
    (b.edits_dispatch a _).mono (by simp [MainTask.part])
  unfold postJob
  split
  · next h =>
    rw [h] at posted
    exact .last .jobs (by simp) posted
  · next h =>
    rw [h] at posted
    exact posted

theorem edits_leaveJob (b : Bridge) (a : Nat) (s : JobStatus) :
    Edits [.jobs, .hosting] b (b.leaveJob a s) := by
  unfold leaveJob
  split
  · exact .refl
  · exact .last (.hosting fun _ => rfl) (by simp) (.last .jobs (by simp) .refl)

/-- A main loop takes a message off its queue, and none comes. -/
theorem mem_tasks_of_take {q : MainQueue MainTask} {t : MainTask} (mem : t ∈ q.take.1.tasks) :
    t ∈ q.tasks := by
  obtain ⟨u, rest, task, took⟩ | ⟨-, ts, took⟩ | took := take_cases q
  · rw [took] at mem
    simp only [MainQueue.tasks, task] at mem ⊢
    exact List.mem_cons_of_mem u mem
  · rw [took] at mem
    simp [MainQueue.finish, MainQueue.tasks] at mem
  · rwa [took] at mem

theorem edits_dequeue (b : Bridge) (a : Nat) : Edits [.queues] b (b.dequeue a) :=
  .one (.queues (fun _ => rfl) fun _ _ => mem_tasks_of_take)

theorem edits_quit (b : Bridge) (a : Nat) : Edits [.queues] b (b.quit a) := by
  refine .one (.queues (fun _ => rfl) fun x t mem => ?_)
  have same : x.queue.quit.tasks = x.queue.tasks := by
    unfold MainQueue.quit
    split
    · simp [MainQueue.tasks, MainQueue.Message.task?]
    · rfl
  exact same ▸ mem

/-! ## inquiries -/

theorem edits_look (env : Environment) (b : Bridge) (i : Nat) :
    Edits [.toolkit, .inquiries] b (b.look env i) := by
  unfold look
  split
  · exact .refl
  · exact .last .inquiries (by simp) (.last (.toolkit (by simp)) (by simp) .refl)

/-- An inquiry on the main thread may end the task that makes it. -/
theorem edits_lookInPlace (env : Environment) (b : Bridge) (a i : Nat) (id : Handle) :
    Edits [.toolkit, .inquiries, .jobs, .hosting] b (b.lookInPlace env a i id) := by
  have looked : Edits [.toolkit, .inquiries, .jobs, .hosting] b (b.look env i) :=
    (b.edits_look env i).mono (by simp)
  unfold lookInPlace
  split
  · exact looked.trans ((edits_leaveJob _ a _).mono (by simp))
  · exact looked

/-- An inquiry from another thread is handed over, and one on the main thread is made at once. -/
theorem edits_inquire (env : Environment) (b : Bridge) (a : Nat) (id : Handle)
    (place : Option Nat) :
    Edits [.inquiries, .inquiring, .toolkit, .jobs, .hosting] b (b.inquire env a id place).1 := by
  let asked : Bridge := { b with inquiries := b.inquiries ++ [{ application := a, id }] }
  have noted : Edits [.inquiries, .inquiring, .toolkit, .jobs, .hosting] b asked :=
    .last .inquiries (by simp) .refl
  have posted := noted.trans ((asked.edits_dispatch a (.inquire b.inquiries.length)).mono
    (by simp [MainTask.part]))
  unfold inquire
  dsimp only
  split
  · exact noted.trans ((asked.edits_lookInPlace env a _ id).mono (by simp))
  · split
    · next h =>
      rw [h] at posted
      exact posted
    · next h =>
      rw [h] at posted
      exact .last .inquiries (by simp) posted

theorem edits_beginFront (env : Environment) (b : Bridge) (m : Nat) (place : Option Nat) :
    Edits [.inquiries, .inquiring, .toolkit, .jobs, .hosting] b (b.beginFront env m place).1 := by
  unfold beginFront
  split
  · exact .refl
  · split
    · exact .refl
    · exact b.edits_inquire env _ _ place

theorem edits_beginHasWindow (env : Environment) (b : Bridge) (m : Nat) (place : Option Nat) :
    Edits [.inquiries, .inquiring, .toolkit, .jobs, .hosting] b
      (b.beginHasWindow env m place).1 := by
  unfold beginHasWindow
  split
  · exact .refl
  · exact b.edits_inquire env _ _ place

theorem edits_finishFront (b : Bridge) (i : Nat) (v : Visibility) :
    Edits [.posts] b (b.finishFront i v).1 := by
  unfold finishFront
  split
  · exact b.edits_dispatch _ (.bringToFront _)
  · exact .refl
  · exact .refl

/-! ## requests for windows -/

/-- Mark the window of a machine open in an application, with a token of its own. -/
def openWindow (b : Bridge) (m : Nat) (w : WindowState) (a : Nat) (spec : WindowSpec) : Bridge :=
  (b.windowToken m w).1.modifyMachine m fun x =>
    { x with window := x.window.opened (b.windowToken m w).2 a spec }

def closeWindow (b : Bridge) (m : Nat) : Bridge :=
  b.modifyMachine m fun x => { x with window := x.window.closed }

/-- A window that is opened may need a token first. -/
theorem edits_openWindow (b : Bridge) (m : Nat) (w : WindowState) (a : Nat) (spec : WindowSpec) :
    Edits [.registry, .windows] b (b.openWindow m w a spec) :=
  .last (.windows fun _ => rfl) (by simp) ((b.edits_windowToken m w).mono (by simp))

theorem edits_closeWindow (b : Bridge) (m : Nat) : Edits [.windows] b (b.closeWindow m) :=
  .one (.windows fun _ => rfl)

/-- A window is presented with a subscription, which is dropped if nobody takes the task. -/
theorem edits_present (b : Bridge) (m a : Nat) (id : Handle) (spec : WindowSpec) :
    Edits [.states, .posts, .windows] b (b.present m a id spec).1 := by
  have subscribed : Edits [.states, .posts, .windows] b (b.subscribeStates m).1 :=
    (b.edits_subscribeStates m).mono (by simp)
  have posted := subscribed.trans
    ((edits_dispatch _ a (.present id spec m (b.subscribeStates m).2)).mono
      (by simp [MainTask.part]))
  unfold present
  dsimp only
  split
  · next h =>
    rw [h] at posted
    exact posted
  · next h =>
    rw [h] at posted
    exact .last (.windows fun _ => rfl) (by simp) (.last (.states fun _ => rfl) (by simp) posted)

/-- A request for a window opens and presents it. -/
theorem edits_startGraphics (b : Bridge) (m a : Nat) (width height : Float)
    (options : GraphicsOptions) :
    Edits [.registry, .windows, .states, .posts] b
      (b.startGraphics m a width height options).1 := by
  unfold startGraphics
  split
  · exact .refl
  · next machine _ =>
    split
    · have opened : Edits [.registry, .windows, .states, .posts] b
          (b.openWindow m machine.window a (.ofOptions width height options)) :=
        (b.edits_openWindow m machine.window a _).mono (by simp)
      exact opened.trans ((edits_present _ m a _ _).mono (by simp))
    · exact .refl

theorem edits_showWindow (b : Bridge) (m : Nat) :
    Edits [.windows, .states, .posts] b (b.showWindow m).1 := by
  unfold showWindow
  split
  · exact .refl
  · split
    · exact .refl
    · next a id spec _ =>
      have opened : Edits [.windows, .states, .posts] b
          (b.modifyMachine m fun x => { x with window := x.window.opened id a spec }) :=
        .last (.windows fun _ => rfl) (by simp) .refl
      exact opened.trans ((edits_present _ m a id spec).mono (by simp))

/-! ## machines that begin and end -/

/-- Two changes of a machine are one. -/
theorem modifyMachine_modifyMachine (b : Bridge) (m : Nat) (f g : Machine → Machine) :
    (b.modifyMachine m f).modifyMachine m g = b.modifyMachine m (g ∘ f) := by
  rw [modifyMachine, modifyMachine, modifyMachine, List.modify_modify_eq]

/-- A machine that is begun gets its two persistent tokens. -/
theorem edits_beginCreate (b : Bridge) (platform : PlatformVersion) (c : MachineConfiguration) :
    Edits [.registry, .machines] b (b.beginCreate platform c).1 := by
  unfold beginCreate
  split
  · exact .refl
  · split
    · exact .refl
    · exact .last .machines (by simp) (.last .registry (by simp) .refl)

/-- A creation that ends leaves a live machine, or takes its tokens away. -/
theorem edits_finishCreate (b : Bridge) (m : Nat) (failure : Option BridgeError) :
    Edits [.registry, .phases, .references] b (b.finishCreate m failure) := by
  unfold finishCreate
  split
  · exact .refl
  · split
    · split
      · have edited : Edits [.registry, .phases, .references] b
            ((b.modifyMachine m fun x => { x with phase := .live }).modifyMachine m
              fun x => { x with references := 1 }) :=
          .last (.references fun _ => rfl) (by simp) (.last (.phases fun _ => rfl) (by simp) .refl)
        rwa [modifyMachine_modifyMachine] at edited
      · exact .last (.phases fun _ => rfl) (by simp) (.last .registry (by simp) .refl)
    · exact .refl

theorem edits_addReference (b : Bridge) (m : Nat) : Edits [.references] b (b.addReference m) :=
  .one (.references fun x => by split <;> rfl)

/-- A teardown tells the runtime and the application, and withdraws the window token. -/
theorem edits_beginTeardown (b : Bridge) (m : Nat) :
    Edits [.phases, .windows, .releases, .posts, .registry] b (b.beginTeardown m) := by
  unfold beginTeardown
  split
  · exact .refl
  · split
    · have released : Edits [.phases, .windows, .releases, .posts, .registry] b
          (((b.modifyMachine m fun x => { x with phase := .releasing }).modifyMachine m
            fun x => { x with window := {} }).recordCall m .release) :=
        .last .runtime (by simp [RuntimeCall.part]) (.last (.windows fun _ => rfl) (by simp)
          (.last (.phases fun _ => rfl) (by simp) .refl))
      rw [recordCall, modifyMachine_modifyMachine, modifyMachine_modifyMachine] at released
      dsimp only
      split
      · exact released
      · next id _ =>
        split
        · next a _ =>
          have posted := released.trans
            ((edits_dispatch _ a (.forget id)).mono (by simp [MainTask.part]))
          exact .last .registry (by simp) posted
        · exact .last .registry (by simp) released
    · exact .refl

/-- A teardown that ends withdraws the persistent tokens and ends both streams. -/
theorem edits_finishTeardown (b : Bridge) (m : Nat) :
    Edits [.registry, .phases, .pipelines, .states] b (b.finishTeardown m) := by
  unfold finishTeardown
  split
  · exact .refl
  · next machine _ =>
    split
    · let cleared : Bridge :=
        { b with registry := (b.registry.erase machine.disconnect.token).erase machine.stateToken }
      have token (x : Machine) : x.disconnect.shutdown.token = x.disconnect.token := by
        unfold DisconnectPipeline.shutdown
        split <;> rfl
      have edited : Edits [.registry, .phases, .pipelines, .states] b
          (((cleared.modifyMachine m fun x => { x with phase := .finalized }).modifyMachine m
            fun x => { x with disconnect := x.disconnect.shutdown }).modifyMachine m
              fun x => { x with state := x.state.close }) :=
        .last (.states fun _ => rfl) (by simp) (.last (.pipelines (fun _ => rfl) token) (by simp)
          (.last (.phases fun _ => rfl) (by simp) (.last .registry (by simp) .refl)))
      rwa [modifyMachine_modifyMachine, modifyMachine_modifyMachine] at edited
    · exact .refl

/-- The last reference that is dropped begins a teardown. -/
theorem edits_dropReference (b : Bridge) (m : Nat) :
    Edits [.references, .phases, .windows, .releases, .posts, .registry] b
      (b.dropReference m) := by
  have dropped : Edits [.references, .phases, .windows, .releases, .posts, .registry] b
      (b.modifyMachine m fun x => { x with references := x.references - 1 }) :=
    .last (.references fun _ => rfl) (by simp) .refl
  unfold dropReference
  split
  · exact .refl
  · dsimp only
    split
    · exact dropped.trans ((edits_beginTeardown _ m).mono (by simp))
    · exact dropped

/-! ## the main thread -/

theorem edits_removeController (b : Bridge) (a : Nat) (id : Handle) (w : Nat) :
    Edits [.controllers, .watching] b (b.removeController a id w) :=
  .last (.watching fun _ => rfl) (by simp) (.last (.controllers fun _ => rfl) (by simp) .refl)

theorem edits_beginStop (b : Bridge) (m : Nat) : Edits [.stops, .references] b (b.beginStop m) :=
  .trans (.last .stops (by simp) .refl) ((edits_addReference _ m).mono (by simp))

/-- A window that the user closed is closed for its machine, and a background stop begins. -/
theorem edits_userClosed (b : Bridge) (a : Nat) (id : Handle) :
    Edits [.controllers, .watching, .closings, .stops, .references, .windows] b
      (b.userClosed a id) := by
  unfold userClosed
  split
  · exact .refl
  · next w _ =>
    have removed : Edits [.controllers, .watching, .closings, .stops, .references, .windows] b
        ((b.removeController a id w).modifyApplication a fun x =>
          { x with history := x.history ++ [.closedByUser id] }) :=
      .last (.closings fun _ => rfl) (by simp)
        ((b.edits_removeController a id w).mono (by simp))
    have closed (c : Bridge) : Edits [.controllers, .watching, .closings, .stops, .references,
        .windows] c (c.receive (.windowClosed id)).1 :=
      (c.edits_receive (.windowClosed id)).mono (by simp [Callback.parts])
    dsimp only
    split
    · exact (removed.trans ((edits_beginStop _ _).mono (by simp))).trans (closed _)
    · exact removed.trans (closed _)

/-- A window is closed with its controller. -/
theorem edits_close (env : Environment) (b : Bridge) (a : Nat) (id : Handle) (w : Nat) :
    Edits [.controllers, .watching, .closings] b
      ((b.removeController a id w).callToolkit env a [.close id]) := by
  refine .last (.closings fun x => ?_) (by simp)
    ((b.edits_removeController a id w).mono (by simp))
  rw [Application.recordUpToPanic, Application.upToPanic]
  split <;> rfl

end Bridge

def MainTask.parts : MainTask → List Part
  | .present .. => [.toolkit, .states, .watchers, .controllers]
  | .bringToFront _ => [.toolkit]
  | .inquire _ => [.toolkit, .inquiries]
  | .forget _ => [.controllers, .watching, .closings]
  | .closeForStop .. => [.controllers, .watching, .closings, .windows]
  | .host _ => [.jobs, .hosting]

namespace Bridge

/-- A task edits what its kind of task does. -/
theorem edits_runTask (env : Environment) (b : Bridge) (a : Nat) (t : MainTask) :
    Edits t.parts b (b.runTask env a t) := by
  cases t with
  | present id spec m i =>
    rw [runTask, runPresent, MainTask.parts]
    split
    · exact .last (.states fun _ => rfl) (by simp) (.last (.toolkit (by simp)) (by simp) .refl)
    · exact .last (.toolkit (by simp)) (by simp) (.last (.controllers fun _ => rfl) (by simp)
        (.last .watchers (by simp) .refl))
  | bringToFront id => exact .one (.toolkit (by simp))
  | inquire i => exact b.edits_look env i
  | forget id =>
    rw [runTask, runForget, MainTask.parts]
    split
    · exact .refl
    · exact b.edits_close env a id _
  | closeForStop id w =>
    rw [runTask, runCloseForStop, MainTask.parts]
    split
    · have closed : Edits [.controllers, .watching, .closings, .windows] b
          ((b.removeController a id w).callToolkit env a [.close id]) :=
        (b.edits_close env a id w).mono (by simp)
      dsimp only
      split
      · exact closed
      · exact closed.trans
          ((edits_receive _ (.windowClosed id)).mono (by simp [Callback.parts]))
    · exact .refl
  | host j => exact .last (.hosting fun _ => rfl) (.tail _ (.head _)) (.last .jobs (.head _) .refl)

end Bridge

/-- The parts that a turn of a main loop edits. -/
def Part.ofTurns : List Part :=
  [.queues, .toolkit, .states, .watchers, .controllers, .inquiries, .watching, .closings, .windows,
    .jobs, .hosting]

namespace Bridge

/-- A turn of a main loop edits what its tasks may. -/
theorem edits_mainTurn (env : Environment) (b : Bridge) (a : Nat) :
    Edits Part.ofTurns b (b.mainTurn env a) := by
  have taken : Edits Part.ofTurns b (b.dequeue a) := (b.edits_dequeue a).mono (by decide)
  have turned := b.turnStep_mainTurn env a
  generalize b.mainTurn env a = b' at turned ⊢
  cases turned with
  | waits _ => exact .refl
  | @runs _ t _ _ _ _ =>
    exact taken.trans ((edits_runTask env _ a t).mono (by
      cases t <;> simp [MainTask.parts, Part.ofTurns]))
  | ends _ _ _ _ => exact taken.trans ((edits_discardTasks _ _).mono (by decide))

/-! ## threads of the bridge -/

theorem edits_endWatcher (b : Bridge) (w : Nat) (watcher : Watcher) :
    Edits [.watching, .states] b (b.endWatcher w watcher) :=
  .last (.states fun _ => rfl) (by simp) (.last (.watching fun _ => rfl) (by simp) .refl)

/-- A watcher receives a state, closes for a stop or ends. -/
theorem edits_watch (b : Bridge) (w : Nat) :
    Edits [.watching, .states, .posts] b (b.watch w) := by
  have received (m i : Nat) : Edits [.watching, .states, .posts] b (b.receiveState m i).1 :=
    (b.edits_receiveState m i).mono (by simp)
  have ended (c : Bridge) (watcher : Watcher) :
      Edits [.watching, .states, .posts] c (c.endWatcher w watcher) :=
    (c.edits_endWatcher w watcher).mono (by simp)
  have turned := b.watchStep_watch w
  generalize b.watch w = b' at turned ⊢
  cases turned with
  | waits _ => exact .refl
  | passes _ _ _ _ _ => exact received _ _
  | @stops watcher _ _ _ _ _ _ =>
    have posted := (received watcher.machine watcher.subscription).trans
      ((edits_dispatch _ watcher.application (.closeForStop watcher.id w)).mono
        (by simp [MainTask.part]))
    exact posted.trans (ended _ _)
  | ends _ _ _ _ => exact (received _ _).trans (ended _ _)
  | closed _ _ _ => exact ended _ _

theorem edits_setStage (b : Bridge) (s : Nat) (stage : StopStage) :
    Edits [.stops] b (b.setStage s stage) := .one .stops

/-- A background stop that ends drops its reference. -/
theorem edits_endStop (b : Bridge) (s m : Nat) :
    Edits [.stops, .references, .phases, .windows, .releases, .posts, .registry] b
      (b.endStop s m) :=
  .trans (.last .stops (by simp) .refl) ((edits_dropReference _ m).mono (by simp))

end Bridge

/-- The parts that a turn of a background stop edits. -/
def Part.ofStops : List Part :=
  [.stops, .queries, .registry, .calls, .operations, .references, .phases, .windows, .releases,
    .posts]

namespace Bridge

/-- A turn of a background stop edits what its stages may. -/
theorem edits_stop (env : Environment) (b : Bridge) (s : Nat) :
    Edits Part.ofStops b (b.stop env s) := by
  have staged {c : Bridge} (h : Edits Part.ofStops b c) (stage : StopStage) :
      Edits Part.ofStops b (c.setStage s stage) := .last .stops (by decide) h
  have asked (m : Nat) : Edits Part.ofStops b (b.ask env m .canStop).1 :=
    (b.edits_ask env m .canStop).mono (by decide)
  have ended (c : Bridge) (m : Nat) : Edits Part.ofStops c (c.endStop s m) :=
    (c.edits_endStop s m).mono (by decide)
  have turned := b.stopTurn_stop env s
  generalize b.stop env s = b' at turned ⊢
  cases turned with
  | waits => exact .refl
  | asks m => exact staged (asked m) _
  | @begins m _ _ _ => exact staged ((b.edits_beginControl m .stop).mono (by decide)) _
  | ends m => exact ended b m
  | givesUp m => exact (asked m).trans (ended _ m)

/-! ## every step -/

end Bridge

def Action.parts : Action → List Part
  | .beginCreate .. => [.registry, .machines]
  | .finishCreate .. => [.registry, .phases, .references]
  | .addReference _ => [.references]
  | .dropReference _ => [.references, .phases, .windows, .releases, .posts, .registry]
  | .finalize _ => [.phases, .windows, .releases, .posts, .registry]
  | .finishTeardown _ => [.registry, .phases, .pipelines, .states]
  | .control .. => [.registry, .calls, .operations]
  | .requestStop _ => [.queries]
  | .ask .. => [.queries]
  | .subscribeStates _ => [.states]
  | .receiveState .. => [.states]
  | .dropStates .. => [.states]
  | .subscribeDisconnects _ => [.pipelines]
  | .receiveDisconnect .. => [.pipelines]
  | .dropDisconnects .. => [.pipelines]
  | .startGraphics .. => [.registry, .windows, .states, .posts]
  | .showWindow _ => [.windows, .states, .posts]
  | .beginFront .. => [.inquiries, .inquiring, .toolkit, .jobs, .hosting]
  | .finishFront _ => [.posts]
  | .beginHasWindow .. => [.inquiries, .inquiring, .toolkit, .jobs, .hosting]
  | .userClosed .. => [.controllers, .watching, .closings, .stops, .references, .windows]
  | .receive e => e.parts
  | .registerNumber _ => [.registry]
  | .releaseToken _ => [.registry, .calls]
  | .addApplication => [.applications]
  | .quit _ => [.queues]
  | .postJob _ => [.posts, .jobs]
  | .leaveJob _ => [.jobs, .hosting]
  | .mainTurn _ => Part.ofTurns
  | .watch _ => [.watching, .states, .posts]
  | .work _ => [.pipelines]
  | .stop _ => Part.ofStops

namespace Bridge

/-- A step edits the parts that are listed for its action. -/
theorem edits_step (env : Environment) (b : Bridge) (act : Action) :
    Edits act.parts b (b.step env act) := by
  cases act with
  | beginCreate platform c => exact b.edits_beginCreate platform c
  | finishCreate m failure => exact b.edits_finishCreate m failure
  | addReference m => exact b.edits_addReference m
  | dropReference m => exact b.edits_dropReference m
  | finalize m => exact b.edits_beginTeardown m
  | finishTeardown m => exact b.edits_finishTeardown m
  | control m op => exact b.edits_beginControl m op
  | requestStop m => exact b.edits_requestStop env m
  | ask m q => exact b.edits_ask env m q
  | subscribeStates m => exact b.edits_subscribeStates m
  | receiveState m i => exact b.edits_receiveState m i
  | dropStates m i => exact b.edits_dropStates m i
  | subscribeDisconnects m => exact b.edits_subscribeDisconnects m
  | receiveDisconnect m i => exact b.edits_receiveDisconnect m i
  | dropDisconnects m i => exact b.edits_dropDisconnects m i
  | startGraphics m a width height options => exact b.edits_startGraphics m a width height options
  | showWindow m => exact b.edits_showWindow m
  | beginFront m place => exact b.edits_beginFront env m place
  | finishFront i =>
    rw [step]
    split
    · exact b.edits_finishFront i _
    · exact .refl
  | beginHasWindow m place => exact b.edits_beginHasWindow env m place
  | userClosed a id => exact b.edits_userClosed a id
  | receive e => exact b.edits_receive e
  | registerNumber n => exact b.edits_registerNumber n
  | releaseToken h => exact b.edits_releaseToken h
  | addApplication => exact .one .applications
  | quit a => exact b.edits_quit a
  | postJob a => exact b.edits_postJob a
  | leaveJob a => exact b.edits_leaveJob a _
  | mainTurn a => exact b.edits_mainTurn env a
  | watch w => exact b.edits_watch w
  | work m => exact b.edits_work m
  | stop s => exact b.edits_stop env s

end Bridge

end MachineBridge
