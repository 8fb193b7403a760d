import MachineBridge.Proofs.Windows.Queue

/-!
# MachineBridge.Proofs.Windows.Inquiry

How a machine answers whether it has a window.  If its flag says so, the toolkit is asked on
the main thread of the application: at once if the caller is there, else by a task, which is
the next to run when nothing else is queued.
-/

namespace MachineBridge.Bridge

variable {b : Bridge} {env : Environment} {m a : Nat} {x : Application} {id : Handle}

/-- Ask whether a machine has a window on screen and let the main thread of an application
answer. `place` is the application on whose main thread the caller is, if it is on one. -/
def hasWindow (env : Environment) (b : Bridge) (m a : Nat) (place : Option Nat) : Bool :=
  match b.beginHasWindow env m place with
  | (_, none) => false
  | (asked, some i) => ((asked.mainTurn env a).visibility? i).any Visibility.hasWindow

/-! ## a main loop at rest -/

/-- A main loop without tasks does nothing. -/
theorem mainTurn_of_empty (there : b.applications[a]? = some x) (alive : Alive x)
    (empty : x.queue.messages = []) : b.mainTurn env a = b := by
  have still : b.canTurn a = false := by
    rw [canTurn, there]
    simp [empty, alive.handled]
  rw [mainTurn, if_neg (by simp [still])]

/-- A free main loop runs the only task in its queue. -/
theorem mainTurn_of_single {t : MainTask} (there : b.applications[a]? = some (x.post t))
    (alive : Alive x) (empty : x.queue.messages = []) (free : x.job = none) :
    b.mainTurn env a =
      (b.modifyApplication a fun x => { x with queue := x.queue.take.1 }).runTask env a t := by
  have messages : (x.post t).queue.messages = [.run t] := by rw [Application.post, empty]; rfl
  have turns : b.canTurn a = true := by
    rw [canTurn, there]
    simp [Application.post, free, alive.running]
  rw [mainTurn, if_pos turns, there]
  dsimp only
  rw [show (x.post t).queue.take.2 = .run t by rw [MainQueue.take, messages]]

/-! ## inquiries -/

def inquired (b : Bridge) (a : Nat) (id : Handle) : Bridge :=
  { b with inquiries := b.inquiries ++ [{ application := a, id }] }

theorem getElem?_inquired (b : Bridge) (a : Nat) (id : Handle) :
    (b.inquired a id).inquiries[b.inquiries.length]? = some { application := a, id } :=
  List.getElem?_concat_length ..

/-- An inquiry is answered by the toolkit, if it does not panic. -/
theorem visibility?_look {i : Nat} {inquiry : Inquiry} (asked : b.inquiries[i]? = some inquiry)
    (calm : ∀ c, env.panics inquiry.application c = false) :
    (b.look env i).visibility? i =
      some (.known (env.isVisible inquiry.application inquiry.id)) := by
  rw [look, asked]
  simp only [calm, Bool.false_eq_true, if_false]
  rw [visibility?, answerInquiry]
  dsimp only
  rw [List.getElem?_modify_eq,
    show (b.callToolkit env inquiry.application _).inquiries = b.inquiries from rfl, asked]
  rfl

/-- On the main thread an inquiry is answered at once. -/
theorem visibility?_of_here (there : b.applications[a]? = some x) (alive : Alive x)
    (empty : x.queue.messages = []) (calm : ∀ c, env.panics a c = false) :
    ((b.inquire env a id (some a)).1.mainTurn env a).visibility? b.inquiries.length =
      some (.known (env.isVisible a id)) := by
  have last := b.getElem?_inquired a id
  have looked : (b.inquire env a id (some a)).1 =
      (b.inquired a id).look env b.inquiries.length := by
    rw [inquire, if_pos rfl]
    dsimp only
    rw [lookInPlace, if_neg (by simp [calm])]
    rfl
  have after : ((b.inquired a id).look env b.inquiries.length).applications[a]? =
      some (x.recordUpToPanic (env.panics a) [.isVisible id]) := by
    rw [look, last]
    exact ((b.inquired a id).getElem?_modifyApplication a a _).trans
      (by rw [if_pos rfl, inquired, there]; rfl)
  have queue := queue_recordUpToPanic x (env.panics a) [.isVisible id]
  rw [looked, mainTurn_of_empty after (alive.of_queue queue) (by rw [queue]; exact empty)]
  exact visibility?_look last calm

/-- From elsewhere an inquiry is answered when the main thread turns to it. -/
theorem visibility?_of_elsewhere {place : Option Nat} (elsewhere : place ≠ some a)
    (there : b.applications[a]? = some x) (alive : Alive x) (empty : x.queue.messages = [])
    (free : x.job = none) (calm : ∀ c, env.panics a c = false) :
    ((b.inquire env a id place).1.mainTurn env a).visibility? b.inquiries.length =
      some (.known (env.isVisible a id)) := by
  have last := b.getElem?_inquired a id
  let queued := (b.inquired a id).modifyApplication a fun y =>
    { y with queue := { x.queue with
      messages := x.queue.messages ++ [.run (.inquire b.inquiries.length)] } }
  have posted : (b.inquire env a id place).1 = queued := by
    rw [inquire, if_neg elsewhere]
    obtain ⟨y, thereY, -, dispatched⟩ | ⟨refuses, -⟩ :=
      (b.inquired a id).dispatch_cases a (.inquire b.inquiries.length)
    · cases there.symm.trans thereY
      rw [inquired] at dispatched
      rw [dispatched]
      rfl
    · have accepts := alive.isOpen
      rw [refuses x there] at accepts
      contradiction
  have thereQueued : queued.applications[a]? = some (x.post (.inquire b.inquiries.length)) :=
    ((b.inquired a id).getElem?_modifyApplication a a _).trans
      (by rw [if_pos rfl, inquired, there]; rfl)
  rw [posted, mainTurn_of_single thereQueued alive empty free]
  exact visibility?_look (b := queued.modifyApplication a fun x =>
    { x with queue := x.queue.take.1 }) last calm

/-! ## answers -/

/-- With a flag that says open, a machine answers what the toolkit says. -/
theorem hasWindow_of_open {place : Option Nat} {machine : Machine}
    (found : b.machines[m]? = some machine) (opened : machine.window.openIn? = some (a, id))
    (there : b.applications[a]? = some x) (alive : Alive x) (empty : x.queue.messages = [])
    (free : place = some a ∨ x.job = none) (calm : ∀ c, env.panics a c = false) :
    b.hasWindow env m a place = env.isVisible a id := by
  have begun : b.beginHasWindow env m place =
      ((b.inquire env a id place).1, some b.inquiries.length) := by
    rw [beginHasWindow, found, Option.bind_some, opened]
    dsimp only
    rw [inquire]
    split
    · rfl
    · split <;> rfl
  have answered : ((b.inquire env a id place).1.mainTurn env a).visibility? b.inquiries.length =
      some (.known (env.isVisible a id)) := by
    by_cases here : place = some a
    · rw [here]
      exact visibility?_of_here there alive empty calm
    · exact visibility?_of_elsewhere here there alive empty (free.resolve_left here) calm
  rw [hasWindow, begun]
  dsimp only
  rw [answered]
  rfl

/-- A machine whose flag says closed has no window. -/
theorem hasWindow_of_closed {place : Option Nat}
    (closed : (b.machines[m]?).bind (·.window.openIn?) = none) :
    b.hasWindow env m a place = false := by
  rw [hasWindow, beginHasWindow, closed]

end MachineBridge.Bridge
