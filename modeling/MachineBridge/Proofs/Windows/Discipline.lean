import MachineBridge.Proofs.Changes.Step
import Mathlib.Data.Set.Card

/-!
# MachineBridge.Proofs.Windows.Discipline

In which order an application calls its toolkit.  Windows are presented, closed by the user,
closed for a stopped machine and forgotten at teardown, some of them by queued tasks and some
at once, and whatever comes first, each window is created and closed by turns, it is shown
and closed only while it is open, and the application counts the windows that are open.

Every change of an application keeps this (`Orderly.change`), so it holds after every run
(`disciplined_run`).
-/

namespace MachineBridge

/-- The window that has to be open for an event. -/
def WindowEvent.needs? : WindowEvent → Option Handle
  | .called (.show id) => some id
  | .called (.close id) => some id
  | .closedByUser id => some id
  | _ => none

/-- Whether a window is open after some events: the last thing that happened to it, of its
creations and its closings, is a creation. -/
def OpenAfter (events : List WindowEvent) (id : Handle) : Prop :=
  (events.filterMap (WindowEvent.mark? id)).getLast? = some .opened

/-- Every event comes when its window is open, if it needs that. -/
def Timely (events : List WindowEvent) : Prop :=
  ∀ before e after, events = before ++ e :: after → ∀ id, e.needs? = some id → OpenAfter before id

/-- Events stay timely if the next one finds its window open. -/
theorem Timely.append {events : List WindowEvent} (h : Timely events) {e : WindowEvent}
    (last : ∀ id, e.needs? = some id → OpenAfter events id) : Timely (events ++ [e]) := by
  intro before e' after split
  obtain rfl | ⟨rest, d, rfl⟩ := after.eq_nil_or_concat
  · obtain ⟨rfl, same⟩ := List.append_inj' split rfl
    cases same
    exact last
  · rw [List.concat_eq_append, ← List.cons_append, ← List.append_assoc] at split
    exact h before e' rest (List.append_inj' split rfl).1

namespace Application

variable {N : Handle → Prop} {x x' : Application} {id : Handle}

/-- An application goes on with its toolkit in good order. -/
structure Disciplined (x : Application) : Prop where
  /-- A window is created and closed by turns, and created first. -/
  alternates : ∀ id, ∃ n isOpen, x.marks id = rounds n isOpen
  /-- A window is shown only while it is open. -/
  shown : ∀ id before after, x.history = before ++ .called (.show id) :: after →
    OpenAfter before id
  /-- The application closes a window only while it is open. -/
  closed : ∀ id before after, x.history = before ++ .called (.close id) :: after →
    OpenAfter before id
  /-- The user closes a window only while it is open. -/
  closedByUser : ∀ id before after, x.history = before ++ .closedByUser id :: after →
    OpenAfter before id
  /-- The windows that are open are counted. -/
  counted : {id | OpenAfter x.history id}.encard = x.windowCount

/-- What the changes of an application keep. -/
structure Orderly (x : Application) : Prop where
  alternates : ∀ id, x.Alternates id
  timely : Timely x.history
  distinct : (x.controllers.map Prod.fst).Nodup

/-! ## the windows of an application -/

theorem marks_append (x : Application) (e : WindowEvent) (id : Handle) :
    ({ x with history := x.history ++ [e] } : Application).marks id =
      x.marks id ++ (e.mark? id).toList := by
  rw [marks, marks, List.filterMap_append]
  cases h : e.mark? id <;> simp [h]

/-- A change opens one window, closes one, or leaves all of them. -/
theorem Change.windows (h : Change N x x') :
    x.SameWindows x' ∨ (∃ id, x.Opens id x') ∨ ∃ id, x.Closes id x' := by
  cases h with
  | rests | posts => exact .inl ⟨fun _ => rfl, fun _ => rfl⟩
  | @calls c allowed =>
    refine .inl ⟨fun _ => rfl, fun id => ?_⟩
    have unmarked : WindowEvent.mark? id (.called c) = none := by
      cases c <;> first | rfl | exact allowed.elim
    rw [record, marks_append, unmarked]
    exact List.append_nil _
  | @creates id w spec absent named =>
    refine .inr (.inl ⟨id, absent, ?_, ?_, fun k other => ⟨?_, ?_⟩⟩)
    · show ((x.insertController id w).watcher? id).isSome = true
      rw [watcher?_insertController, if_pos rfl]
      rfl
    · rw [record, marks_append]
      simp [WindowEvent.mark?, marks, insertController]
    · exact (x.watcher?_insertController id k w).trans (if_neg other)
    · rw [record, marks_append]
      simp [WindowEvent.mark?, marks, insertController, Ne.symm other]
  | @closes id w held =>
    have closed := closes_eraseController held fun _ => true
    exact .inr (.inr ⟨id, closed⟩)
  | closedByUser held => exact .inr (.inr ⟨_, closes_closedByUser held⟩)

/-- The controllers are those of the windows that the application has. -/
theorem mem_controllers_iff : id ∈ x.controllers.map Prod.fst ↔ (x.watcher? id).isSome = true := by
  rw [watcher?, List.lookup_isSome_iff]
  simp

/-- A window is open after a history exactly if the application has it. -/
theorem Alternates.openAfter_iff (h : x.Alternates id) :
    OpenAfter x.history id ↔ (x.watcher? id).isSome = true := by
  obtain ⟨n, marks⟩ := h
  rw [OpenAfter, ← Application.marks, marks, getLast?_rounds]

/-! ## what is kept -/

theorem orderly_empty : ({} : Application).Orderly where
  alternates _ := ⟨0, rfl⟩
  timely before e after split := by simp at split
  distinct := List.nodup_nil

/-- A window that loses its controller leaves the others theirs. -/
theorem nodup_eraseController (h : (x.controllers.map Prod.fst).Nodup) (id : Handle) :
    ((x.eraseController id).controllers.map Prod.fst).Nodup :=
  h.sublist ((List.filter_sublist ..).map Prod.fst)

/-- What can happen to an application keeps it in order. -/
theorem Orderly.change (h : x.Orderly) (change : Change N x x') : x'.Orderly := by
  have alternates (id : Handle) : x'.Alternates id := by
    obtain same | ⟨k, opens⟩ | ⟨k, closes⟩ := change.windows
    · exact same.alternates (h.alternates id)
    · exact opens.alternates (h.alternates id)
    · exact closes.alternates (h.alternates id)
  have isOpen {id : Handle} (held : (x.watcher? id).isSome = true) : OpenAfter x.history id :=
    (h.alternates id).openAfter_iff.2 held
  cases change with
  | rests | posts => exact ⟨alternates, h.timely, h.distinct⟩
  | @calls c allowed =>
    refine ⟨alternates, h.timely.append fun id needs => ?_, h.distinct⟩
    cases c <;> cases needs
    · exact isOpen allowed
    · exact allowed.elim
  | @creates id w spec absent named =>
    refine ⟨alternates, h.timely.append fun _ none => (by cases none), ?_⟩
    refine List.nodup_cons.2 ⟨fun held => ?_, h.distinct⟩
    rw [mem_controllers_iff, absent] at held
    cases held
  | @closes id w held =>
    refine ⟨alternates, h.timely.append fun k needs => ?_, nodup_eraseController h.distinct id⟩
    cases needs
    exact isOpen (by rw [held]; rfl)
  | @closedByUser id w held =>
    refine ⟨alternates, h.timely.append fun k needs => ?_, nodup_eraseController h.distinct id⟩
    cases needs
    exact isOpen (by rw [held]; rfl)

theorem Orderly.disciplined (h : x.Orderly) : x.Disciplined where
  alternates id := by
    obtain ⟨n, marks⟩ := h.alternates id
    exact ⟨n, _, marks⟩
  shown id before after split := h.timely before _ after split id rfl
  closed id before after split := h.timely before _ after split id rfl
  closedByUser id before after split := h.timely before _ after split id rfl
  counted := by
    have held : {id | OpenAfter x.history id} =
        ((x.controllers.map Prod.fst).toFinset : Set Handle) := by
      ext id
      rw [List.coe_toFinset, Set.mem_ofPred_eq, Set.mem_ofPred_eq, mem_controllers_iff]
      exact (h.alternates id).openAfter_iff
    rw [held, Set.encard_coe_eq_coe_finsetCard, List.toFinset_card_of_nodup h.distinct,
      List.length_map]
    rfl

end Application

namespace Bridge

/-- Every application goes on with its toolkit in good order, over every run. -/
theorem disciplined_run {actions : List (Environment × Action)} {a : Nat} {x : Application}
    (found : (({} : Bridge).run actions).applications[a]? = some x) : x.Disciplined := by
  have orderly := application_changed_run (P := Application.Orderly) Application.orderly_empty
    (fun _ _ change h => h.change change) actions a
  rw [application_of_found found] at orderly
  exact orderly.disciplined

/-- A run in which the user closes a window, the stop of its machine closes the next one, the
one after that is shown twice, and the teardown closes it. -/
def comings : List (Environment × Action) :=
  creation ++ [(.idle, .addApplication), (.idle, .startGraphics 0 0 800 600 {}),
    (.idle, .mainTurn 0), (.idle, .userClosed 0 ⟨3⟩), (.idle, .showWindow 0), (.idle, .mainTurn 0),
    (.idle, .receive (.stateChanged ⟨1⟩ 0)), (.idle, .watch 1), (.idle, .mainTurn 0),
    (.idle, .showWindow 0), (.idle, .mainTurn 0), (.idle, .showWindow 0), (.idle, .mainTurn 0),
    (.idle, .finalize 0), (.idle, .mainTurn 0)]

/-- The window comes and goes three times, and none is left. -/
theorem disciplined_run_comings :
    ∃ x, (({} : Bridge).run comings).applications[0]? = some x ∧
      x.marks ⟨3⟩ = [.opened, .closed, .opened, .closed, .opened, .closed] ∧
      {id | OpenAfter x.history id}.encard = 0 := by
  have seen : (({} : Bridge).run comings).applications.map
      (fun x => (x.marks ⟨3⟩, x.windowCount)) =
        [([.opened, .closed, .opened, .closed, .opened, .closed], 0)] := by decide +kernel
  obtain ⟨x, only, same⟩ := List.map_eq_singleton_iff.1 seen
  obtain ⟨marks, count⟩ := Prod.mk.inj same
  have found : (({} : Bridge).run comings).applications[0]? = some x := by rw [only]; rfl
  have counted := (disciplined_run found).counted
  rw [count] at counted
  exact ⟨x, found, marks, counted⟩

end Bridge

end MachineBridge
