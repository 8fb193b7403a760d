import MachineBridge.Proofs.Changes
import MachineBridge.Proofs.Lifecycle.Teardown
import MachineBridge.Proofs.Windows.Inquiry
import Mathlib.Data.List.Basic

/-!
# MachineBridge.Proofs.Lifecycle.Refusals

Which operations of a machine are refused, and that a refused one leaves no trace.  The checks
of an operation have an order: the machine is live, its platform is new enough, and what the
operation itself needs, of its arguments or of the window, is there.  `Request.refusal?` reads
them off the state in which the operation begins, and the operation reports exactly the first
that fails.

An operation with a completion and the request to raise a window go on after their checks.
The former reports no refusal any more; the latter may, once the toolkit has said that the
window is not visible, and until then it has done nothing but ask.

What is refused can be left out of a run (`run_unrefused`).
-/

namespace MachineBridge

/-! ## refusals -/

/-- Whether an error refuses an operation, for its arguments, the platform or the state of the
machine. Any other error tells what became of an operation that was begun. -/
def BridgeError.isRefusal : BridgeError → Bool
  | .validation _ => true
  | .unsupportedOnPlatform .. => true
  | .precondition _ => true
  | .foreign .. => false
  | .handle _ => false
  | .internal _ => false
  | .io _ => false

def BridgeError.of? {α : Type} : Except BridgeError α → Option BridgeError
  | .ok _ => none
  | .error e => some e

/-- What becomes of a control call that was begun is no refusal. -/
theorem no_refusal_of_result {call : ControlCall} {e : BridgeError}
    (result : call.result? = some (.error e)) : e.isRefusal = false := by
  obtain ⟨outcome, -, fails⟩ := Option.map_eq_some_iff.1 result
  cases outcome with
  | fired error =>
    cases error with
    | none => cases fails
    | some error =>
      cases fails
      rfl
  | dropped =>
    cases fails
    rfl

namespace Bridge

/-- A step that can fail, with its error instead of its result. -/
def withError {α : Type} (p : Bridge × Except BridgeError α) : Bridge × Option BridgeError :=
  (p.1, BridgeError.of? p.2)

/-- A task that cannot be handed over is no refusal of the operation. -/
theorem no_refusal_of_dispatch {b : Bridge} {a : Nat} {t : MainTask} {e : BridgeError}
    (failed : (b.dispatch a t).2 = .error e) : e.isRefusal = false := by
  unfold dispatch at failed
  split at failed
  · cases failed
    rfl
  · next x found =>
    cases accepts : x.queue.isOpen with
    | true =>
      rw [MainQueue.dispatch, if_pos accepts] at failed
      cases failed
    | false =>
      rw [MainQueue.dispatch, if_neg (by simp [accepts])] at failed
      cases failed
      rfl

/-- A window that cannot be presented is not refused by a check. -/
theorem no_refusal_of_present {b : Bridge} {m a : Nat} {id : Handle} {spec : WindowSpec}
    {e : BridgeError} (failed : BridgeError.of? (b.present m a id spec).2 = some e) :
    e.isRefusal = false := by
  unfold present at failed
  dsimp only at failed
  split at failed
  · cases failed
  · next h =>
    cases failed
    exact no_refusal_of_dispatch (congrArg Prod.snd h)

end Bridge

/-! ## requests -/

/-- An operation of a machine. -/
inductive Request where
  | control (operation : Operation)
  | requestStop
  | subscribeDisconnects
  | startGraphics (application : Nat) (width height : Float) (options : GraphicsOptions)
  | showWindow
  | bringToFront (place : Option Nat)

namespace Request

def action (m : Nat) : Request → Action
  | control op => .control m op
  | requestStop => .requestStop m
  | subscribeDisconnects => .subscribeDisconnects m
  | startGraphics a width height options => .startGraphics m a width height options
  | showWindow => .showWindow m
  | bringToFront place => .beginFront m place

/-- The operation that an action begins, with its machine. -/
def ofAction? : Action → Option (Nat × Request)
  | .control m op => some (m, control op)
  | .requestStop m => some (m, requestStop)
  | .subscribeDisconnects m => some (m, subscribeDisconnects)
  | .startGraphics m a width height options => some (m, startGraphics a width height options)
  | .showWindow m => some (m, showWindow)
  | .beginFront m place => some (m, bringToFront place)
  | _ => none

/-- An action that begins an operation is the action of that operation. -/
theorem action_of_ofAction {act : Action} {m : Nat} {r : Request}
    (begins : ofAction? act = some (m, r)) : r.action m = act := by
  unfold ofAction? at begins
  split at begins <;> cases begins <;> rfl

/-- The bridge after that action, and the error that the operation returns with it. -/
def answer (env : Environment) (b : Bridge) (m : Nat) : Request → Bridge × Option BridgeError
  | control op => Bridge.withError (b.beginControl m op)
  | requestStop => Bridge.withError (b.requestStop env m)
  | subscribeDisconnects => Bridge.withError (b.subscribeDisconnects m)
  | startGraphics a width height options =>
    Bridge.withError (b.startGraphics m a width height options)
  | showWindow => Bridge.withError (b.showWindow m)
  | bringToFront place => Bridge.withError (b.beginFront env m place)

/-- An operation leaves the bridge as its action does. -/
theorem answer_fst (env : Environment) (b : Bridge) (m : Nat) (r : Request) :
    (r.answer env b m).1 = b.step env (r.action m) := by
  cases r <;> rfl

/-- The major release of the platform that an operation needs. -/
def requiredRelease : Request → UInt32
  | control op => op.requiredRelease
  | requestStop => PlatformVersion.anyRelease
  | subscribeDisconnects => PlatformVersion.forStopAndGraphics
  | startGraphics .. => PlatformVersion.forStopAndGraphics
  | showWindow => PlatformVersion.forStopAndGraphics
  | bringToFront _ => PlatformVersion.forStopAndGraphics

/-- What is wrong with the arguments of an operation, or with the window that it is for. -/
def fault? (w : WindowState) : Request → Option BridgeError
  | startGraphics _ width height _ =>
    if WindowSpec.isPositiveSize width height then none
    else some (.validation (.windowSize (Decimal.floatText width) (Decimal.floatText height)))
  | showWindow =>
    match w.reopening? with
    | none => some (.precondition .neverPresented)
    | some _ => none
  | bringToFront _ =>
    match w.openIn? with
    | none => some (.precondition .noWindow)
    | some _ => none
  | _ => none

/-- Why an operation is refused: the first check that fails. -/
def refusal? (b : Bridge) (m : Nat) (r : Request) : Option BridgeError :=
  match b.machines[m]? with
  | none => some .finalized
  | some x =>
    if x.phase ≠ .live then some .finalized
    else if x.platform.major < r.requiredRelease then
      some (.unsupportedOnPlatform r.requiredRelease x.platform.text)
    else r.fault? x.window

variable {env : Environment} {b : Bridge} {m : Nat} {r : Request} {x : Machine} {e : BridgeError}

theorem isRefusal_of_fault {w : WindowState} (fault : r.fault? w = some e) :
    e.isRefusal = true := by
  cases r <;> simp only [fault?, reduceCtorEq] at fault <;> split at fault <;> cases fault <;> rfl

/-- What a check answers is a refusal. -/
theorem isRefusal_of_refusal (refused : r.refusal? b m = some e) : e.isRefusal = true := by
  unfold refusal? at refused
  split at refused
  · cases refused
    rfl
  · split at refused
    · cases refused
      rfl
    · split at refused
      · cases refused
        rfl
      · exact isRefusal_of_fault refused

/-! ## the checks -/

/-- A machine that refuses an operation at its gate gives the reason. -/
theorem refusal?_of_refused (refused : b.admitted m r.requiredRelease = .error e) :
    r.refusal? b m = some e := by
  unfold Bridge.admitted at refused
  unfold refusal?
  cases found : b.machines[m]? with
  | none =>
    rw [found] at refused
    cases refused
    rfl
  | some x =>
    rw [found] at refused
    dsimp only at refused ⊢
    rw [Machine.gate, Machine.isLive] at refused
    by_cases live : x.phase = .live
    · rw [if_pos (beq_iff_eq.2 live), PlatformVersion.require] at refused
      rw [if_neg (not_not_intro live)]
      split at refused
      · cases refused
      · next old =>
        have old : ¬r.requiredRelease ≤ x.platform.major := fun recent =>
          old (decide_eq_true recent)
        rw [if_pos (UInt32.not_le.1 old)]
        cases refused
        rfl
    · rw [if_neg (by simpa using live)] at refused
      rw [if_pos live]
      cases refused
      rfl

/-- Past the gate there are the arguments and the window. -/
theorem refusal?_of_admitted (admitted : b.admitted m r.requiredRelease = .ok x) :
    r.refusal? b m = r.fault? x.window := by
  obtain ⟨found, live, recent⟩ := Bridge.admitted_eq_ok_iff.1 admitted
  have live : x.phase = .live := live
  have recent : r.requiredRelease ≤ x.platform.major := of_decide_eq_true recent
  rw [refusal?, found]
  dsimp only
  rw [if_neg (not_not_intro live), if_neg (UInt32.not_lt.2 recent)]

/-! ## every operation -/

/-- An operation that is refused at its gate does nothing. -/
theorem answer_of_refused (refused : b.admitted m r.requiredRelease = .error e) :
    r.answer env b m = (b, some e) := by
  cases r with
  | control op => exact congrArg Bridge.withError (Bridge.beginControl_of_refused refused)
  | requestStop | subscribeDisconnects | startGraphics | showWindow | bringToFront =>
    rw [requiredRelease] at refused
    simp only [answer, Bridge.requestStop, Bridge.subscribeDisconnects, Bridge.startGraphics,
      Bridge.showWindow, Bridge.beginFront, refused]
    rfl

/-- An operation that its arguments or the window forbid does nothing. -/
theorem answer_of_fault (admitted : b.admitted m r.requiredRelease = .ok x)
    (fault : r.fault? x.window = some e) : r.answer env b m = (b, some e) := by
  cases r with
  | control _ | requestStop | subscribeDisconnects => cases fault
  | startGraphics a width height options =>
    rw [requiredRelease] at admitted
    rw [fault?] at fault
    split at fault
    · cases fault
    · next size =>
      cases fault
      rw [answer, Bridge.startGraphics, admitted]
      dsimp only
      rw [if_neg size]
      rfl
  | showWindow =>
    rw [requiredRelease] at admitted
    rw [fault?] at fault
    split at fault
    · next unknown =>
      cases fault
      rw [answer, Bridge.showWindow, admitted]
      dsimp only
      rw [unknown]
      rfl
    · cases fault
  | bringToFront place =>
    rw [requiredRelease] at admitted
    rw [fault?] at fault
    split at fault
    · next closed =>
      cases fault
      rw [answer, Bridge.beginFront, admitted]
      dsimp only
      rw [closed]
      rfl
    · cases fault

/-- An operation that passes all checks is not refused after all. -/
theorem no_refusal_of_passed (admitted : b.admitted m r.requiredRelease = .ok x)
    (sound : r.fault? x.window = none) (failed : (r.answer env b m).2 = some e) :
    e.isRefusal = false := by
  cases r with
  | control op =>
    have begun := (Bridge.beginControl_of_admitted admitted).1
    rw [answer, Bridge.withError, begun] at failed
    cases failed
  | requestStop =>
    rw [requiredRelease] at admitted
    rw [answer, Bridge.withError, Bridge.requestStop, admitted] at failed
    dsimp only at failed
    cases answered : env.requestStop m with
    | ok done =>
      rw [answered] at failed
      cases failed
    | error cause =>
      rw [answered] at failed
      cases failed
      rfl
  | subscribeDisconnects =>
    rw [requiredRelease] at admitted
    rw [answer, Bridge.withError, Bridge.subscribeDisconnects, admitted] at failed
    cases failed
  | startGraphics a width height options =>
    rw [requiredRelease] at admitted
    rw [fault?] at sound
    split at sound
    · next size =>
      rw [answer, Bridge.withError, Bridge.startGraphics, admitted] at failed
      dsimp only at failed
      rw [if_pos size] at failed
      exact Bridge.no_refusal_of_present failed
    · cases sound
  | showWindow =>
    rw [requiredRelease] at admitted
    rw [fault?] at sound
    split at sound
    · cases sound
    · next window known =>
      obtain ⟨a, id, spec⟩ := window
      rw [answer, Bridge.withError, Bridge.showWindow, admitted] at failed
      dsimp only at failed
      rw [known] at failed
      exact Bridge.no_refusal_of_present failed
  | bringToFront place =>
    rw [requiredRelease] at admitted
    rw [fault?] at sound
    split at sound
    · cases sound
    · next window opened =>
      obtain ⟨a, id⟩ := window
      rw [answer, Bridge.withError, Bridge.beginFront, admitted] at failed
      dsimp only at failed
      rw [opened] at failed
      cases failed

/-- An operation that a check refuses changes nothing. -/
theorem answer_of_refusal (refused : r.refusal? b m = some e) :
    r.answer env b m = (b, some e) := by
  cases admitted : b.admitted m r.requiredRelease with
  | error e' =>
    rw [refusal?_of_refused admitted] at refused
    cases refused
    exact answer_of_refused admitted
  | ok x =>
    rw [refusal?_of_admitted admitted] at refused
    exact answer_of_fault admitted refused

/-- An operation that passes its checks is not refused. -/
theorem no_refusal_of_sound (sound : r.refusal? b m = none)
    (failed : (r.answer env b m).2 = some e) : e.isRefusal = false := by
  cases admitted : b.admitted m r.requiredRelease with
  | error e' =>
    rw [refusal?_of_refused admitted] at sound
    cases sound
  | ok x =>
    rw [refusal?_of_admitted admitted] at sound
    exact no_refusal_of_passed admitted sound failed

/-- An operation is refused exactly if a check fails, and reports the first that does. -/
theorem answer_isRefusal_iff :
    ((r.answer env b m).2 = some e ∧ e.isRefusal = true) ↔ r.refusal? b m = some e := by
  constructor
  · rintro ⟨failed, refusal⟩
    cases h : r.refusal? b m with
    | none =>
      rw [no_refusal_of_sound h failed] at refusal
      cases refusal
    | some e' =>
      rw [answer_of_refusal h] at failed
      exact failed
  · intro refused
    exact ⟨by rw [answer_of_refusal refused], isRefusal_of_refusal refused⟩

/-- A window that was never asked for is missed only as long as the machine is live. -/
example : showWindow.refusal? (({} : Bridge).run creation) 0 =
      some (.precondition .neverPresented) ∧
    showWindow.refusal? (({} : Bridge).run (creation ++ [(.idle, .finalize 0)])) 0 =
      some .finalized := by decide

end Request

namespace Bridge

variable {env : Environment} {b : Bridge} {m a i : Nat} {id : Handle} {e : BridgeError}

/-! ## asking the toolkit -/

/-- The toolkit of an application is asked whether a window is visible, at once or by a task
behind all others, or nobody is left to ask.  Nothing else changes but the inquiry itself. -/
inductive Asks (b : Bridge) (a : Nat) (id : Handle) (i : Nat) : Bridge → Prop
  | noted {inquiries : List Inquiry} (others : ∀ k ≠ i, inquiries[k]? = b.inquiries[k]?) :
      Asks b a id i { b with inquiries }
  | queued {inquiries : List Inquiry} (others : ∀ k ≠ i, inquiries[k]? = b.inquiries[k]?) :
      Asks b a id i { b.modifyApplication a (·.post (.inquire i)) with inquiries }
  | looked {inquiries : List Inquiry} (others : ∀ k ≠ i, inquiries[k]? = b.inquiries[k]?) :
      Asks b a id i { b.modifyApplication a (·.record (.isVisible id)) with inquiries }

theorem getElem?_answerInquiry (b : Bridge) {i k : Nat} (other : k ≠ i) (v : Visibility) :
    (b.answerInquiry i v).inquiries[k]? = b.inquiries[k]? :=
  List.getElem?_modify_ne _ _ (Ne.symm other)

/-- An inquiry is noted behind all others. -/
theorem getElem?_inquired_of_ne (b : Bridge) (a : Nat) (id : Handle) {k : Nat}
    (other : k ≠ b.inquiries.length) : (b.inquired a id).inquiries[k]? = b.inquiries[k]? := by
  rw [inquired, List.getElem?_append]
  split
  · rfl
  · next ge =>
    rw [List.getElem?_eq_none (by simp; omega), List.getElem?_eq_none (by omega)]

/-- The task that asks makes one call into the toolkit and answers its inquiry. -/
theorem look_of_found {q : Inquiry} (env : Environment) (found : b.inquiries[i]? = some q) :
    ∃ v, b.look env i =
      (b.modifyApplication q.application (·.record (.isVisible q.id))).answerInquiry i v := by
  have single (x : Application) :
      x.recordUpToPanic (env.panics q.application) [.isVisible q.id] =
        x.record (.isVisible q.id) := by
    rw [Application.recordUpToPanic_cons]
    split <;> rfl
  rw [look, found]
  dsimp only
  rw [callToolkit, funext single]
  exact ⟨_, rfl⟩

/-- An inquiry that is looked at asks the toolkit once. -/
theorem asks_look {q : Inquiry} (env : Environment) (found : b.inquiries[i]? = some q) :
    b.Asks q.application q.id i (b.look env i) := by
  obtain ⟨v, looked⟩ := look_of_found env found
  rw [looked]
  exact .looked fun k other => getElem?_answerInquiry _ other v

/-- An inquiry that is noted and then asked is asked. -/
theorem Asks.of_inquired {b' : Bridge}
    (asks : (b.inquired a id).Asks a id b.inquiries.length b') :
    b.Asks a id b.inquiries.length b' := by
  have before {k : Nat} (other : k ≠ b.inquiries.length) := b.getElem?_inquired_of_ne a id other
  cases asks with
  | noted others => exact .noted fun k other => (others k other).trans (before other)
  | queued others => exact .queued fun k other => (others k other).trans (before other)
  | looked others => exact .looked fun k other => (others k other).trans (before other)

/-- An inquiry on the main thread asks the toolkit once, and a panic there ends the task. -/
theorem asks_inquire (env : Environment) (b : Bridge) (a : Nat) (id : Handle)
    (place : Option Nat) : ∃ asked, b.Asks a id (b.inquire env a id place).2 asked ∧
      (b.inquire env a id place).1 =
        if place = some a ∧ env.panics a (.isVisible id) = true then asked.leaveJob a .dropped
        else asked := by
  unfold inquire
  dsimp only
  rw [← inquired]
  split
  · next here =>
    refine ⟨_, .of_inquired (asks_look env (b.getElem?_inquired a id)), ?_⟩
    rw [lookInPlace]
    by_cases panics : env.panics a (.isVisible id) = true
    · rw [if_pos panics, if_pos ⟨here, panics⟩]
    · rw [if_neg panics, if_neg fun h => panics h.2]
  · next elsewhere =>
    simp only [if_neg fun h : place = some a ∧ _ => elsewhere h.1]
    obtain ⟨e, refused⟩ | posted :=
      (b.inquired a id).dispatch_post a (.inquire b.inquiries.length)
    · rw [refused]
      exact ⟨_, .of_inquired (.noted fun k other => getElem?_answerInquiry _ other _), rfl⟩
    · rw [posted]
      exact ⟨_, .of_inquired (.queued fun _ _ => rfl), rfl⟩

/-! ## what a refused operation leaves behind -/

/-- A window that cannot be raised is left alone. -/
theorem finishFront_of_error {v : Visibility} (failed : (b.finishFront i v).2 = .error e) :
    (b.finishFront i v).1 = b := by
  unfold finishFront at failed ⊢
  split
  · next q found =>
    rw [found] at failed
    dsimp only at failed
    obtain ⟨e, refused⟩ | posted := b.dispatch_post q.application (.bringToFront q.id)
    · rw [refused]
    · rw [posted] at failed
      cases failed
  · rfl
  · rfl

/-- A refused operation changes nothing. -/
theorem step_of_refusal {r : Request} (env : Environment) (refused : r.refusal? b m = some e) :
    b.step env (r.action m) = b := by
  rw [← r.answer_fst, Request.answer_of_refusal refused]

/-- The operations of a machine leave no trace when they are refused. -/
structure LeavesNoTrace (b : Bridge) (m : Nat) : Prop where
  /-- An operation is refused exactly if a check fails, and reports the first that does. -/
  reports : ∀ (env : Environment) (r : Request) (e : BridgeError),
    ((r.answer env b m).2 = some e ∧ e.isRefusal = true) ↔ r.refusal? b m = some e
  /-- A refused operation changes nothing. -/
  unchanged : ∀ (env : Environment) (r : Request) (e : BridgeError),
    r.refusal? b m = some e → b.step env (r.action m) = b
  /-- An operation that waits for its completion is not refused any more. -/
  completes : ∀ call ∈ b.calls, ∀ e, call.result? = some (.error e) → e.isRefusal = false
  /-- The request to raise a window asks whether the open window is visible.  A panic in the
  toolkit ends the task of the host that asked in place. -/
  asks : ∀ env place i, (b.beginFront env m place).2 = .ok i →
    ∃ a id asked, (b.machines[m]?).bind (·.window.openIn?) = some (a, id) ∧
      b.Asks a id i asked ∧
      (b.beginFront env m place).1 =
        if place = some a ∧ env.panics a (.isVisible id) = true then asked.leaveJob a .dropped
        else asked
  /-- The task that it may have queued does nothing else. -/
  looks : ∀ env i q, b.inquiries[i]? = some q →
    b.Asks q.application q.id i (b.runTask env q.application (.inquire i))
  /-- A window that is not visible is not raised, and nothing changes. -/
  hidden : ∀ i, b.finishFront i (.known false) =
    (b, .error (.precondition .windowNotAvailable))
  /-- Whatever else keeps the window from being raised, nothing changes. -/
  finishes : ∀ i v e, (b.finishFront i v).2 = .error e → (b.finishFront i v).1 = b

/-- In whatever state the bridge is, a refused operation of a machine leaves no trace. -/
theorem leaves_no_trace (b : Bridge) (m : Nat) : b.LeavesNoTrace m where
  reports _ _ _ := Request.answer_isRefusal_iff
  unchanged env _ _ := step_of_refusal env
  completes _ _ _ := no_refusal_of_result
  asks env place i begun := by
    unfold beginFront at begun ⊢
    split at begun
    · cases begun
    · next machine admitted =>
      obtain ⟨found, -⟩ := admitted_eq_ok_iff.1 admitted
      split at begun
      · cases begun
      · next a id opened =>
        obtain ⟨asked, asks, same⟩ := b.asks_inquire env a id place
        cases begun
        refine ⟨a, id, asked, ?_, asks, ?_⟩
        · rw [found, Option.bind_some, opened]
        · rw [← same]
  looks env _ _ := asks_look env
  hidden _ := rfl
  finishes _ _ _ := finishFront_of_error

/-! ## runs without refused operations -/

/-- Whether an action begins an operation that is refused. -/
def refuses (b : Bridge) (act : Action) : Bool :=
  (Request.ofAction? act).any fun (m, r) => (r.refusal? b m).isSome

/-- A run without the operations that are refused. -/
def unrefused (b : Bridge) : List (Environment × Action) → List (Environment × Action)
  | [] => []
  | (env, act) :: rest =>
    if b.refuses act then b.unrefused rest else (env, act) :: (b.step env act).unrefused rest

/-- A refused operation leaves the bridge as it is. -/
theorem step_of_refuses {act : Action} (env : Environment) (refuses : b.refuses act = true) :
    b.step env act = b := by
  obtain ⟨⟨m, r⟩, begins, refused⟩ := (Option.any_eq_true ..).1 refuses
  obtain ⟨e, refused⟩ := Option.isSome_iff_exists.1 refused
  rw [← Request.action_of_ofAction begins]
  exact b.step_of_refusal env refused

/-- Nobody can tell later that an operation was refused: without those that are, a run leads
to the same bridge. -/
theorem run_unrefused (b : Bridge) (actions : List (Environment × Action)) :
    b.run (b.unrefused actions) = b.run actions := by
  induction actions generalizing b with
  | nil => rfl
  | cons s rest ih =>
    obtain ⟨env, act⟩ := s
    rw [unrefused]
    split
    · next refuses =>
      show b.run (b.unrefused rest) = (b.step env act).run rest
      rw [ih, step_of_refuses env refuses]
    · exact ih (b.step env act)

end Bridge

end MachineBridge
