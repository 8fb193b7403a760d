import MachineBridge.Proofs.Streams.References

/-!
# MachineBridge.Proofs.Windows.Views

What the windows of all applications look like from the bridge: the controllers that hold
them, the events that closed some, the tasks that are queued, and the watchers.  Most
operations leave windows and watchers *undisturbed*.  What is left are the turns of main threads
and of watchers, and windows that the user closes.
-/

namespace MachineBridge

/-- The window that an event closes. -/
def WindowEvent.closes? : WindowEvent → Option Handle
  | .called (.close id) => some id
  | .closedByUser id => some id
  | _ => none

namespace Application

/-- The events that closed windows of an application, in order. -/
def closings (x : Application) : List WindowEvent := x.history.filter (·.closes?.isSome)

theorem closings_foldl_record (x : Application) (cs : List ToolkitCall) :
    (cs.foldl record x).closings =
      x.closings ++ (cs.map WindowEvent.called).filter (·.closes?.isSome) := by
  induction cs generalizing x with
  | nil => exact (List.append_nil _).symm
  | cons c rest ih =>
    have first : (x.record c).closings =
        x.closings ++ [WindowEvent.called c].filter (·.closes?.isSome) := List.filter_append ..
    rw [List.foldl_cons, ih, first, List.append_assoc, ← List.filter_append]
    rfl

/-- A panic only skips calls. -/
theorem upToPanic_subset (panics : ToolkitCall → Bool) (cs : List ToolkitCall) :
    upToPanic panics cs ⊆ cs := by
  induction cs with
  | nil => exact List.Subset.refl _
  | cons c rest ih =>
    rw [upToPanic]
    split
    · exact List.cons_subset_cons c (List.nil_subset rest)
    · exact List.cons_subset_cons c ih

/-- Calls into the toolkit that close no window. -/
theorem closings_recordUpToPanic (x : Application) (panics : ToolkitCall → Bool)
    {cs : List ToolkitCall} (quiet : ∀ c ∈ cs, (WindowEvent.called c).closes? = none) :
    (x.recordUpToPanic panics cs).closings = x.closings := by
  have none : ((upToPanic panics cs).map WindowEvent.called).filter (·.closes?.isSome) = [] := by
    refine List.filter_eq_nil_iff.2 fun e mem => ?_
    obtain ⟨c, made, rfl⟩ := List.mem_map.1 mem
    rw [quiet c (upToPanic_subset panics cs made)]
    exact Bool.false_ne_true
  rw [recordUpToPanic, closings_foldl_record, none, List.append_nil]

/-- The call that closes a window is made, whether or not it panics. -/
theorem closings_close (x : Application) (panics : ToolkitCall → Bool) (id : Handle) :
    (x.recordUpToPanic panics [.close id]).closings = x.closings ++ [.called (.close id)] := by
  have made : upToPanic panics [.close id] = [.close id] := by
    rw [upToPanic]
    split <;> rfl
  rw [recordUpToPanic, made, closings_foldl_record]
  rfl

theorem watcher?_recordUpToPanic (x : Application) (panics : ToolkitCall → Bool)
    (cs : List ToolkitCall) (id : Handle) :
    (x.recordUpToPanic panics cs).watcher? id = x.watcher? id :=
  x.watcher?_foldl_record _ id

end Application

namespace Bridge

def watcherOf? (b : Bridge) (a : Nat) (id : Handle) : Option Nat :=
  (b.applications[a]?).bind (·.watcher? id)

/-- The events that closed windows of an application, in order. -/
def closings (b : Bridge) (a : Nat) : List WindowEvent := (b.applications[a]?).elim [] (·.closings)

def tasks (b : Bridge) (a : Nat) : List MainTask := (b.applications[a]?).elim [] (·.queue.tasks)

variable {b b' : Bridge} {a k w : Nat} {id : Handle}

theorem watcherOf?_of_found {x : Application} (there : b.applications[a]? = some x) (id : Handle) :
    b.watcherOf? a id = x.watcher? id := by
  rw [watcherOf?, there]
  rfl

theorem tasks_of_found {x : Application} (there : b.applications[a]? = some x) :
    b.tasks a = x.queue.tasks := by
  rw [tasks, there]
  rfl

/-- The tasks of an application depend on the application. -/
theorem tasks_congr (same : b'.applications[a]? = b.applications[a]?) : b'.tasks a = b.tasks a := by
  rw [tasks, tasks, same]

/-- A task is queued in the queue of some application. -/
theorem queues_iff {t : MainTask} : b.Queues t ↔ ∃ a, t ∈ b.tasks a := by
  constructor
  · rintro ⟨a, x, there, mem⟩
    exact ⟨a, by rw [tasks_of_found there]; exact mem⟩
  · rintro ⟨a, mem⟩
    cases there : b.applications[a]? with
    | none => rw [tasks, there] at mem; cases mem
    | some x => exact ⟨a, x, there, tasks_of_found there ▸ mem⟩

theorem watcherOf?_modifyApplication (b : Bridge) (a k : Nat) (f : Application → Application)
    (id : Handle) : (b.modifyApplication a f).watcherOf? k id =
      if a = k then (b.applications[k]?).bind fun x => (f x).watcher? id
      else b.watcherOf? k id := by
  rw [watcherOf?, getElem?_modifyApplication]
  split
  · rw [Option.bind_map]
    rfl
  · rfl

theorem closings_modifyApplication (b : Bridge) (a k : Nat) (f : Application → Application) :
    (b.modifyApplication a f).closings k =
      if a = k then (b.applications[k]?).elim [] fun x => (f x).closings else b.closings k := by
  rw [closings, getElem?_modifyApplication]
  split
  · cases b.applications[k]? <;> rfl
  · rfl

/-! ## what leaves the windows alone -/

/-- The windows of all applications and their watchers are left alone. -/
structure Undisturbed (b b' : Bridge) : Prop where
  watchers : b'.watchers = b.watchers
  held : ∀ a id, b'.watcherOf? a id = b.watcherOf? a id
  closings : ∀ a, b'.closings a = b.closings a

theorem Undisturbed.of_eq (applications : b'.applications = b.applications)
    (watchers : b'.watchers = b.watchers) : Undisturbed b b' where
  watchers := watchers
  held _ _ := by rw [watcherOf?, watcherOf?, applications]
  closings _ := by rw [Bridge.closings, Bridge.closings, applications]

theorem Undisturbed.refl (b : Bridge) : Undisturbed b b := .of_eq rfl rfl

theorem Undisturbed.trans {b₁ b₂ b₃ : Bridge} (first : Undisturbed b₁ b₂)
    (second : Undisturbed b₂ b₃) : Undisturbed b₁ b₃ where
  watchers := second.watchers.trans first.watchers
  held a id := (second.held a id).trans (first.held a id)
  closings a := (second.closings a).trans (first.closings a)

theorem undisturbed_modifyApplication (b : Bridge) (a : Nat) {f : Application → Application}
    (held : ∀ x id, (f x).watcher? id = x.watcher? id)
    (closings : ∀ x, (f x).closings = x.closings) :
    Undisturbed b (b.modifyApplication a f) where
  watchers := rfl
  held k id := by
    rw [watcherOf?_modifyApplication]
    split
    · exact congrArg (b.applications[k]?).bind (funext fun x => held x id)
    · rfl
  closings k := by
    rw [closings_modifyApplication]
    split
    · rw [Bridge.closings]
      exact congrArg ((b.applications[k]?).elim []) (funext closings)
    · rfl

/-- Calls that close no window leave windows and watchers. -/
theorem undisturbed_callToolkit (env : Environment) (b : Bridge) (a : Nat) (cs : List ToolkitCall)
    (quiet : ∀ c ∈ cs, (WindowEvent.called c).closes? = none) :
    Undisturbed b (b.callToolkit env a cs) :=
  b.undisturbed_modifyApplication a (fun x => x.watcher?_recordUpToPanic _ cs)
    fun x => x.closings_recordUpToPanic _ quiet

/-- A new application has no window. -/
theorem undisturbed_addApplication (b : Bridge) : Undisturbed b b.addApplication.1 := by
  have same {α : Type} (view : Option Application → α) (fresh : view (some {}) = view none)
      (k : Nat) : view (b.addApplication.1.applications[k]?) = view (b.applications[k]?) := by
    rw [addApplication, List.getElem?_append]
    split
    · rfl
    · next beyond =>
      rw [List.getElem?_eq_none (Nat.le_of_not_lt beyond)]
      cases k - b.applications.length with
      | zero => exact fresh
      | succ _ => rfl
  exact ⟨rfl, fun k id => same (·.bind (·.watcher? id)) rfl k,
    fun k => same (·.elim [] (·.closings)) rfl k⟩

/-- An edit elsewhere leaves windows and watchers. -/
theorem Edit.undisturbed {p : Part} (edit : Edit p b b')
    (apart : p ∉ [.watchers, .watching, .controllers, .closings]) : Undisturbed b b' := by
  have same {a : Nat} {f : Application → Application}
      (only : ∀ x, (f x).controllers = x.controllers ∧ (f x).history = x.history) :
      Undisturbed b (b.modifyApplication a f) :=
    b.undisturbed_modifyApplication a
      (fun x id => by rw [Application.watcher?, Application.watcher?, (only x).1])
      fun x => by rw [Application.closings, Application.closings, (only x).2]
  cases edit with
  | watchers | watching | controllers | closings => simp at apart
  | applications => exact b.undisturbed_addApplication
  | posts => exact same fun _ => ⟨rfl, rfl⟩
  | queues only _ | hosting only => exact same fun x => by rw [only x]; exact ⟨rfl, rfl⟩
  | toolkit shows =>
    refine b.undisturbed_callToolkit _ _ _ fun c mem => ?_
    cases c with
    | close id => exact absurd rfl (shows _ mem id)
    | _ => rfl
  | _ => exact .of_eq rfl rfl

/-- Only watchers, controllers and events that close a window disturb windows. -/
theorem Edits.undisturbed {ps : List Part} (h : Edits ps b b')
    (apart : Part.apart ps [.watchers, .watching, .controllers, .closings] = true) :
    Undisturbed b b' :=
  h.keeps .refl .trans Edit.undisturbed apart

theorem watchers_receiveState (b : Bridge) (m i : Nat) :
    (b.receiveState m i).1.watchers = b.watchers :=
  ((b.edits_receiveState m i).undisturbed rfl).watchers

theorem tasks_receiveState (b : Bridge) (m i k : Nat) :
    (b.receiveState m i).1.tasks k = b.tasks k :=
  tasks_congr (by rw [applications_receiveState])

end Bridge

end MachineBridge
