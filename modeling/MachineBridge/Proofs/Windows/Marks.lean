import MachineBridge.Application

/-!
# MachineBridge.Proofs.Windows.Marks

The windows of one application.  Of what happens between an application and its toolkit,
the creations and the closings of a window are its *marks*; a window is closed by the
application or by the user, which counts alike.

A change of an application opens one window, closes one, or leaves all of them.  Whatever
changes follow each other, the marks of a window are *rounds* of a creation and a closing,
and one creation more exactly while the application has the controller of the window.
-/

namespace MachineBridge

/-- A window appears or disappears. -/
inductive Mark where
  | opened
  | closed
deriving DecidableEq, Repr

/-- What an event means for a window. -/
def WindowEvent.mark? (id : Handle) : WindowEvent → Option Mark
  | .called (.create k _) => if k = id then some .opened else none
  | .called (.close k) => if k = id then some .closed else none
  | .closedByUser k => if k = id then some .closed else none
  | _ => none

/-- A number of windows that were opened and closed, and one that is still open. -/
def rounds (n : Nat) (isOpen : Bool) : List Mark :=
  (List.replicate n [Mark.opened, .closed]).flatten ++ if isOpen then [.opened] else []

theorem rounds_succ (n : Nat) : rounds (n + 1) false = rounds n true ++ [.closed] := by
  simp [rounds, List.replicate_succ', List.flatten_append]

theorem rounds_true (n : Nat) : rounds n true = rounds n false ++ [.opened] := by
  simp [rounds]

/-- A window is open exactly when its last mark is its creation. -/
theorem getLast?_rounds (n : Nat) (isOpen : Bool) :
    (rounds n isOpen).getLast? = some .opened ↔ isOpen = true := by
  cases isOpen with
  | true => rw [rounds_true, List.getLast?_concat]; simp
  | false =>
    cases n with
    | zero => simp [rounds]
    | succ n => rw [rounds_succ, List.getLast?_concat]; simp

namespace Application

/-- What happened to a window, in order. -/
def marks (x : Application) (id : Handle) : List Mark := x.history.filterMap (WindowEvent.mark? id)

/-! ## changes of the windows -/

/-- All windows are left alone. -/
structure SameWindows (x x' : Application) : Prop where
  watchers : ∀ id, x'.watcher? id = x.watcher? id
  marks : ∀ id, x'.marks id = x.marks id

/-- A window that was not there is opened. -/
structure Opens (x : Application) (id : Handle) (x' : Application) : Prop where
  absent : x.watcher? id = none
  held : (x'.watcher? id).isSome = true
  marked : x'.marks id = x.marks id ++ [.opened]
  others : ∀ k, k ≠ id → x'.watcher? k = x.watcher? k ∧ x'.marks k = x.marks k

/-- A window that was there is closed. -/
structure Closes (x : Application) (id : Handle) (x' : Application) : Prop where
  held : (x.watcher? id).isSome = true
  absent : x'.watcher? id = none
  marked : x'.marks id = x.marks id ++ [.closed]
  others : ∀ k, k ≠ id → x'.watcher? k = x.watcher? k ∧ x'.marks k = x.marks k

theorem SameWindows.refl (x : Application) : x.SameWindows x := ⟨fun _ => rfl, fun _ => rfl⟩

/-- The marks of a window are rounds. -/
def Alternates (x : Application) (id : Handle) : Prop :=
  ∃ n, x.marks id = rounds n (x.watcher? id).isSome

/-- Windows that are left alone keep their marks in turn. -/
theorem SameWindows.alternates {x x' : Application} (h : x.SameWindows x') {id : Handle}
    (hx : x.Alternates id) : x'.Alternates id := by
  obtain ⟨n, hn⟩ := hx
  exact ⟨n, by rw [h.marks, h.watchers, hn]⟩

theorem Opens.alternates {x x' : Application} {id : Handle} (h : x.Opens id x') {k : Handle}
    (hx : x.Alternates k) : x'.Alternates k := by
  obtain ⟨n, hn⟩ := hx
  by_cases same : k = id
  · subst same
    rw [h.absent] at hn
    exact ⟨n, by rw [h.marked, h.held, hn, rounds_true]; rfl⟩
  · exact ⟨n, by rw [(h.others k same).1, (h.others k same).2, hn]⟩

theorem Closes.alternates {x x' : Application} {id : Handle} (h : x.Closes id x') {k : Handle}
    (hx : x.Alternates k) : x'.Alternates k := by
  obtain ⟨n, hn⟩ := hx
  by_cases same : k = id
  · subst same
    rw [h.held] at hn
    exact ⟨n + 1, by rw [h.marked, h.absent, hn, ← rounds_succ]; rfl⟩
  · exact ⟨n, by rw [(h.others k same).1, (h.others k same).2, hn]⟩

/-! ## tasks -/

/-- A task finds nothing to do. -/
def Skips (x : Application) : MainTask → Prop
  | .present id _ _ _ => (x.watcher? id).isSome = true
  | .forget id => x.watcher? id = none
  | .closeForStop id w => x.watcher? id ≠ some w
  | _ => True

/-- What a task of the main thread does to the windows. -/
inductive Runs (x : Application) : MainTask → Application → Prop
  | opens {id : Handle} {spec : WindowSpec} {m i : Nat} {x' : Application} (h : x.Opens id x') :
      Runs x (.present id spec m i) x'
  | forgets {id : Handle} {x' : Application} (h : x.Closes id x') : Runs x (.forget id) x'
  | stops {id : Handle} {w : Nat} {x' : Application} (held : x.watcher? id = some w)
      (h : x.Closes id x') : Runs x (.closeForStop id w) x'
  | leaves {t : MainTask} {x' : Application} (skips : x.Skips t) (h : x.SameWindows x') :
      Runs x t x'

/-- What a task does to the windows does not depend on the queue. -/
theorem Runs.of_queue {x x' : Application} {q : MainQueue MainTask} {t : MainTask}
    (h : Runs { x with queue := q } t x') : x.Runs t x' := by
  cases h with
  | opens h => exact .opens ⟨h.absent, h.held, h.marked, h.others⟩
  | forgets h => exact .forgets ⟨h.held, h.absent, h.marked, h.others⟩
  | stops held h => exact .stops held ⟨h.held, h.absent, h.marked, h.others⟩
  | leaves skips h =>
    refine .leaves ?_ ⟨h.watchers, h.marks⟩
    cases t <;> exact skips

/-- A task keeps openings and closings in turn. -/
theorem Runs.alternates {x x' : Application} {t : MainTask} (h : x.Runs t x') {id : Handle}
    (hx : x.Alternates id) : x'.Alternates id := by
  cases h with
  | opens h => exact h.alternates hx
  | forgets h => exact h.alternates hx
  | stops _ h => exact h.alternates hx
  | leaves _ h => exact h.alternates hx

/-! ## what the operations of an application do -/

theorem watcher?_insertController (x : Application) (id k : Handle) (w : Nat) :
    (x.insertController id w).watcher? k = if k = id then some w else x.watcher? k := by
  by_cases h : k = id
  · simp [insertController, watcher?, h]
  · simp [insertController, watcher?, List.lookup_cons, h, beq_eq_false_iff_ne.2 h]

theorem watcher?_eraseController (x : Application) (id k : Handle) :
    (x.eraseController id).watcher? k = if k = id then none else x.watcher? k := by
  simp only [eraseController, watcher?]
  induction x.controllers with
  | nil => simp
  | cons c rest ih =>
    obtain ⟨other, w⟩ := c
    by_cases ho : other = id
    · subst ho
      by_cases hk : k = other
      · subst hk; simpa using ih
      · simp [List.lookup_cons, beq_eq_false_iff_ne.2 hk, hk] at ih ⊢
        exact ih
    · by_cases hk : k = other
      · subst hk; simp [ho]
      · simp [ho, List.lookup_cons, beq_eq_false_iff_ne.2 hk]
        simpa using ih

/-- Calls into the toolkit change no controller. -/
theorem watcher?_foldl_record (x : Application) (cs : List ToolkitCall) (id : Handle) :
    (cs.foldl record x).watcher? id = x.watcher? id := by
  induction cs generalizing x with
  | nil => rfl
  | cons c rest ih => exact (ih (x.record c)).trans rfl

/-- Calls into the toolkit are marked one by one. -/
theorem marks_foldl_record (x : Application) (cs : List ToolkitCall) (id : Handle) :
    (cs.foldl record x).marks id =
      x.marks id ++ cs.filterMap fun c => WindowEvent.mark? id (.called c) := by
  induction cs generalizing x with
  | nil => simp
  | cons c rest ih =>
    rw [List.foldl_cons, ih, record, marks, marks, List.filterMap_append, List.append_assoc]
    cases h : WindowEvent.mark? id (.called c) <;> simp [h]

/-- Showing, raising and looking at windows leaves them alone. -/
theorem sameWindows_recordUpToPanic (x : Application) (panics : ToolkitCall → Bool)
    {cs : List ToolkitCall} (quiet : ∀ c ∈ cs, ∀ id, WindowEvent.mark? id (.called c) = none) :
    x.SameWindows (x.recordUpToPanic panics cs) where
  watchers id := x.watcher?_foldl_record _ id
  marks id := by
    have none : ∀ c ∈ upToPanic panics cs, WindowEvent.mark? id (.called c) = none := by
      induction cs with
      | nil => simp [upToPanic]
      | cons c rest ih =>
        rw [upToPanic]
        split
        · simpa using quiet c (by simp) id
        · intro d hd
          obtain rfl | hd := List.mem_cons.1 hd
          · exact quiet d (by simp) id
          · exact ih (fun e he => quiet e (List.mem_cons_of_mem c he)) d hd
    rw [recordUpToPanic, marks_foldl_record, List.filterMap_eq_nil_iff.2 none, List.append_nil]

/-- A window is created with its controller, whether or not the toolkit panics. -/
theorem opens_insertController {x : Application} {id : Handle} (absent : x.watcher? id = none)
    (w : Nat) (panics : ToolkitCall → Bool) (spec : WindowSpec) :
    x.Opens id ((x.insertController id w).recordUpToPanic panics
      [.create id spec, .show id, .bringToFront id]) := by
  have made : ∀ k, (upToPanic panics [.create id spec, .show id, .bringToFront id]).filterMap
      (fun c => WindowEvent.mark? k (.called c)) = if id = k then [.opened] else [] := by
    intro k
    simp only [upToPanic]
    split
    · by_cases h : id = k <;> simp [WindowEvent.mark?, h]
    · split <;> by_cases h : id = k <;> simp [WindowEvent.mark?, h]
  constructor
  · exact absent
  · rw [recordUpToPanic, watcher?_foldl_record, watcher?_insertController, if_pos rfl]
    rfl
  · rw [recordUpToPanic, marks_foldl_record, made, if_pos rfl]
    rfl
  · intro k hk
    rw [recordUpToPanic, watcher?_foldl_record, watcher?_insertController, if_neg hk,
      marks_foldl_record, made, if_neg (Ne.symm hk), List.append_nil]
    exact ⟨rfl, rfl⟩

/-- A window is closed with its controller, whether or not the toolkit panics. -/
theorem closes_eraseController {x : Application} {id : Handle} {w : Nat}
    (held : x.watcher? id = some w) (panics : ToolkitCall → Bool) :
    x.Closes id ((x.eraseController id).recordUpToPanic panics [.close id]) := by
  have made : ∀ k, (upToPanic panics [.close id]).filterMap
      (fun c => WindowEvent.mark? k (.called c)) = if id = k then [.closed] else [] := by
    intro k
    simp only [upToPanic, ite_self]
    by_cases h : id = k <;> simp [WindowEvent.mark?, h]
  constructor
  · rw [held]; rfl
  · rw [recordUpToPanic, watcher?_foldl_record, watcher?_eraseController, if_pos rfl]
  · rw [recordUpToPanic, marks_foldl_record, made, if_pos rfl]
    rfl
  · intro k hk
    rw [recordUpToPanic, watcher?_foldl_record, watcher?_eraseController, if_neg hk,
      marks_foldl_record, made, if_neg (Ne.symm hk), List.append_nil]
    exact ⟨rfl, rfl⟩

/-- A window that the user closes loses its controller. -/
theorem closes_closedByUser {x : Application} {id : Handle} {w : Nat}
    (held : x.watcher? id = some w) :
    x.Closes id { x.eraseController id with history := x.history ++ [.closedByUser id] } := by
  constructor
  · rw [held]; rfl
  · exact (x.watcher?_eraseController id id).trans (if_pos rfl)
  · simp [marks, WindowEvent.mark?]
  · intro k hk
    refine ⟨(x.watcher?_eraseController id k).trans (if_neg hk), ?_⟩
    simp [marks, WindowEvent.mark?, Ne.symm hk]

end Application

end MachineBridge
