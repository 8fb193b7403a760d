import MachineBridge.Proofs.Lifecycle.Refusals
import MachineBridge.Proofs.Windows.Presence

/-!
# MachineBridge.Proofs.Windows.Failure

What becomes of an open window when another request for it fails.  A request that is refused
leaves everything as it was.  A request that passes its checks takes over the flag, the
application and the description before its task is queued; when the main loop of the
application is gone, only the flag is cleared again, and nothing of what was there before is
put back (`answer_failed_cases`).

So the machine keeps an open window exactly if the request was refused (`keeps_window_iff`).
Otherwise the window stays on screen where it was, but the machine does not report it and
cannot raise it until a request is accepted again.
-/

namespace MachineBridge

/-- An operation that asks for the window of a machine to be presented. -/
def Request.isForWindow : Request → Bool
  | startGraphics .. => true
  | showWindow => true
  | _ => false

namespace Bridge

variable {env : Environment} {b : Bridge} {m a : Nat} {id : Handle} {spec : WindowSpec}
  {r : Request} {e : BridgeError} {machine : Machine}

/-! ## a request that cannot be handed over -/

/-- The bridge after a request whose task the application did not accept. -/
def unpresented (b : Bridge) (m : Nat) : Bridge :=
  ((b.subscribeStates m).1.dropStates m (b.subscribeStates m).2).closeWindow m

/-- A window that nobody presents is closed for its machine, and the subscription is dropped. -/
theorem present_of_refusing (refusing : ¬b.Accepting a) (id : Handle) (spec : WindowSpec) :
    b.present m a id spec = (b.unpresented m, .error .mainLoopNotRunning) := by
  have dispatched : (b.subscribeStates m).1.dispatch a
      (.present id spec m (b.subscribeStates m).2) =
        ((b.subscribeStates m).1, .error .mainLoopNotRunning) := by
    unfold dispatch
    rw [applications_subscribeStates]
    cases found : b.applications[a]? with
    | none => rfl
    | some x =>
      have closed : ¬x.queue.isOpen = true := fun accepts => refusing ⟨x, found, accepts⟩
      simp [MainQueue.dispatch, closed]
  rw [present]
  dsimp only
  rw [dispatched]
  rfl

/-- A main loop that goes on takes the task. -/
theorem present_of_accepting (accepting : b.Accepting a) (id : Handle) (spec : WindowSpec) :
    (b.present m a id spec).2 = .ok () := by
  obtain ⟨x, found, accepts⟩ := accepting
  rw [present]
  dsimp only
  obtain ⟨_, _, _, dispatched⟩ | ⟨refuses, -⟩ := (b.subscribeStates m).1.dispatch_cases a
    (.present id spec m (b.subscribeStates m).2)
  · rw [dispatched]
  · rw [applications_subscribeStates] at refuses
    rw [refuses x found] at accepts
    contradiction

theorem applications_unpresented (b : Bridge) (m : Nat) :
    (b.unpresented m).applications = b.applications :=
  applications_subscribeStates b m

theorem quiet_unpresented (b : Bridge) (m : Nat) : Quiet (b.closeWindow m) (b.unpresented m) := by
  have dropped : Quiet b ((b.subscribeStates m).1.dropStates m (b.subscribeStates m).2) :=
    ((b.edits_subscribeStates m).trans (edits_dropStates _ m _)).quiet rfl
  exact dropped.modifyMachine m (g := fun s => { s with window := s.window.closed }) fun _ => rfl

/-! ## the requests -/

/-- A request that passes its checks opens the window and hands over the task. -/
theorem answer_of_requests (env : Environment)
    (admitted : b.admitted m PlatformVersion.forStopAndGraphics = .ok machine)
    (request : r.isForWindow = true) (sound : r.fault? machine.window = none) :
    ∃ a spec, Requests m machine.window a spec (r.action m) ∧
      r.answer env b m = withError
        ((b.openWindow m machine.window a spec).present m a (b.windowToken m machine.window).2
          spec) := by
  cases r with
  | control _ | requestStop | subscribeDisconnects | bringToFront _ => cases request
  | startGraphics a width height options =>
    rw [Request.fault?] at sound
    split at sound
    · next positive =>
      refine ⟨a, _, .start positive rfl, ?_⟩
      rw [Request.answer, startGraphics, admitted]
      dsimp only
      rw [if_pos positive]
      rfl
    · cases sound
  | showWindow =>
    rw [Request.fault?] at sound
    split at sound
    · cases sound
    · next window known =>
      obtain ⟨a, id, spec⟩ := window
      refine ⟨a, spec, .again known, ?_⟩
      rw [Request.answer, showWindow, admitted, openWindow, windowToken_of_reopening m known]
      dsimp only
      rw [known]

/-- A request that fails is refused, or the main loop of the application is gone. -/
theorem answer_failed_cases (request : r.isForWindow = true)
    (failed : (r.answer env b m).2 = some e) :
    r.refusal? b m = some e ∨
      e = .mainLoopNotRunning ∧ ∃ machine a spec,
        b.admitted m PlatformVersion.forStopAndGraphics = .ok machine ∧
        Requests m machine.window a spec (r.action m) ∧ ¬b.Accepting a ∧
        (r.answer env b m).1 = (b.openWindow m machine.window a spec).unpresented m := by
  cases refused : r.refusal? b m with
  | some e' =>
    rw [Request.answer_of_refusal refused] at failed
    exact .inl failed
  | none =>
    right
    have release : r.requiredRelease = PlatformVersion.forStopAndGraphics := by
      cases r <;> first | rfl | cases request
    cases admitted : b.admitted m r.requiredRelease with
    | error e' =>
      rw [Request.refusal?_of_refused admitted] at refused
      contradiction
    | ok machine =>
      rw [Request.refusal?_of_admitted admitted] at refused
      rw [release] at admitted
      obtain ⟨a, spec, requests, answered⟩ := answer_of_requests env admitted request refused
      have same : (b.openWindow m machine.window a spec).Accepting a ↔ b.Accepting a := by
        rw [Accepting, applications_openWindow]
        rfl
      by_cases accepting : b.Accepting a
      · rw [answered, withError, present_of_accepting (same.2 accepting)] at failed
        contradiction
      · rw [answered, withError, present_of_refusing (mt same.1 accepting)] at failed
        refine ⟨(Option.some.inj failed).symm, machine, a, spec, admitted, requests, accepting, ?_⟩
        rw [answered, withError, present_of_refusing (mt same.1 accepting)]

/-! ## the window of a machine -/

/-- The application and the token of a window, if the machine holds it for open. -/
def reported? (b : Bridge) (m : Nat) : Option (Nat × Handle) :=
  (b.machines[m]?).bind (·.window.openIn?)

theorem reported?_eq (b : Bridge) (m : Nat) :
    b.reported? m = (b.skeleton? m).bind (·.window.openIn?) := by
  rw [reported?, skeleton?, Option.bind_map]
  rfl

theorem token_of_openIn {w : WindowState} (opened : w.openIn? = some (a, id)) :
    w.token = some id := by
  unfold WindowState.openIn? at opened
  split at opened
  · next token =>
    cases opened
    exact token
  · contradiction

/-- A machine that reports no window goes on to report none, unless a request for its window
passes the checks and is handed over. -/
theorem reported?_step {act : Action} (unreported : b.reported? m = none)
    (unserved : ∀ a, b.acceptedRequest? m act = some a → ¬b.Accepting a) :
    (b.step env act).reported? m = none := by
  rw [reported?_eq] at unreported ⊢
  have step := b.skeletonStep_step env act m
  generalize (b.step env act).skeleton? m = after at step
  cases step with
  | same => exact unreported
  | begun | released => rfl
  | created found | finished found =>
    rw [found] at unreported
    exact unreported
  | opened found admits requests accepting =>
    exact absurd accepting (unserved _ (acceptedRequest?_of_requests found admits requests))
  | refused | closed => rfl

/-- A machine that reports no window goes on so while its requests are refused. -/
theorem reported?_run {later : List (Environment × Action)} (unreported : b.reported? m = none)
    (unserved : b.Along (fun b _ act => ∀ a, b.acceptedRequest? m act = some a → ¬b.Accepting a)
      later) : (b.run later).reported? m = none := by
  induction later generalizing b with
  | nil => exact unreported
  | cons s later ih => exact ih (reported?_step unreported unserved.1) unserved.2

/-- The machine has lost its window to a request that could not be handed over. -/
structure Loses (b : Bridge) (m : Nat) (r : Request) (id : Handle) (e : BridgeError)
    (b' : Bridge) : Prop where
  cause : e = .mainLoopNotRunning
  /-- The application and the description of the request stay, and the token. -/
  window : ∃ machine a spec, b.admitted m PlatformVersion.forStopAndGraphics = .ok machine ∧
    Requests m machine.window a spec (r.action m) ∧ ¬b.Accepting a ∧
    (b'.machines[m]?).map (·.window) = some ⟨false, some id, some a, some spec⟩
  /-- The window stays on screen where it was. -/
  screen : b'.applications = b.applications
  /-- The toolkit is not asked for the window any more. -/
  unreported : ∀ env place, b'.beginHasWindow env m place = (b', none)
  unraised : ∀ env place, b'.beginFront env m place = (b', .error (.precondition .noWindow))
  unshown : (b'.showWindow m).2 = .error .mainLoopNotRunning
  lasts : ∀ later : List (Environment × Action),
    b'.Along (fun b _ act => ∀ a, b.acceptedRequest? m act = some a → ¬b.Accepting a) later →
      (b'.run later).reported? m = none

/-- A request that no main loop takes has the machine lose the window that it reported. -/
theorem loses_unpresented {a₀ : Nat} (reported : b.reported? m = some (a₀, id))
    (admitted : b.admitted m PlatformVersion.forStopAndGraphics = .ok machine)
    (requests : Requests m machine.window a spec (r.action m)) (refusing : ¬b.Accepting a) :
    b.Loses m r id .mainLoopNotRunning ((b.openWindow m machine.window a spec).unpresented m) := by
  have screen : ((b.openWindow m machine.window a spec).unpresented m).applications =
      b.applications := by
    rw [applications_unpresented, applications_openWindow]
  obtain ⟨found, admits⟩ := admitted_eq_ok_iff.1 admitted
  have token : machine.window.token = some id := by
    rw [reported?, found] at reported
    exact token_of_openIn reported
  have skeleton : ((b.openWindow m machine.window a spec).unpresented m).skeleton? m =
      some { machine.skeleton with window := ⟨false, some id, some a, some spec⟩ } := by
    rw [(quiet_unpresented _ m).skeletons, skeleton?_closeWindow, if_pos rfl,
      (openWindow_of_admitted admitted a spec).2, Function.update_self, token]
    rfl
  generalize (b.openWindow m machine.window a spec).unpresented m = b' at *
  obtain ⟨machine', found', same⟩ := Option.map_eq_some_iff.1 skeleton
  have admitted' : b'.admitted m PlatformVersion.forStopAndGraphics = .ok machine' :=
    admitted_eq_ok_iff.2 ⟨found', by rw [same]; exact admits⟩
  have window : machine'.window = ⟨false, some id, some a, some spec⟩ :=
    congrArg MachineSkeleton.window same
  have reported' : b'.reported? m = none := by
    rw [reported?, found', Option.bind_some, window]
    rfl
  refine ⟨rfl, ⟨machine, a, spec, admitted, requests, refusing, ?_⟩, screen, ?_, ?_, ?_, ?_⟩
  · rw [found', Option.map_some, window]
  · intro env place
    rw [beginHasWindow, ← reported?, reported']
  · intro env place
    rw [beginFront, admitted']
    dsimp only
    rw [window]
    rfl
  · have refusing' : ¬(b'.openWindow m machine'.window a spec).Accepting a := by
      rw [Accepting, applications_openWindow, screen]
      exact refusing
    rw [showWindow, admitted']
    dsimp only
    rw [window] at refusing' ⊢
    exact congrArg Prod.snd (present_of_refusing refusing' id spec)
  · exact fun later unserved => reported?_run reported' unserved

/-- When a request for the window of a machine fails, an open window of the machine is kept
exactly if the request was refused by one of its checks.  Then nothing has changed; otherwise
the machine has lost the window, which stays on screen. -/
theorem keeps_window_iff {a₀ : Nat} (request : r.isForWindow = true)
    (failed : (r.answer env b m).2 = some e) (reported : b.reported? m = some (a₀, id)) :
    ((r.answer env b m).1.reported? m = some (a₀, id) ↔ e.isRefusal = true) ∧
      (e.isRefusal = true → (r.answer env b m).1 = b) ∧
      (e.isRefusal = false → b.Loses m r id e (r.answer env b m).1) := by
  obtain refused | ⟨rfl, machine, a, spec, admitted, requests, refusing, answered⟩ :=
    answer_failed_cases request failed
  · have refusal := Request.isRefusal_of_refusal refused
    have unchanged : (r.answer env b m).1 = b := by rw [Request.answer_of_refusal refused]
    rw [unchanged]
    simp [reported, refusal]
  · have loses := loses_unpresented reported admitted requests refusing
    have unreported := loses.lasts [] trivial
    rw [← answered] at loses unreported
    rw [show (r.answer env b m).1.reported? m = none from unreported]
    exact ⟨⟨nofun, nofun⟩, nofun, fun _ => loses⟩

/-- A run after which a window is open in the first of two applications and the main loop of
the second one is gone. -/
def halfGone : List (Environment × Action) :=
  creation ++ [(.idle, .addApplication), (.idle, .addApplication),
    (.idle, .startGraphics 0 0 800 600 {}), (.idle, .mainTurn 0), (.idle, .quit 1),
    (.idle, .mainTurn 1)]

/-- A window that cannot be shown in the second application is lost in the first one, and one
of no width is not. -/
theorem keeps_window_iff_second :
    (({} : Bridge).run halfGone).Loses 0 (.startGraphics 1 800 600 {}) ⟨3⟩ .mainLoopNotRunning
        ((({} : Bridge).run halfGone).startGraphics 0 1 800 600 {}).1 ∧
      ((({} : Bridge).run halfGone).startGraphics 0 1 0 600 {}).1.reported? 0 =
        some (0, ⟨3⟩) := by
  have reported : (({} : Bridge).run halfGone).reported? 0 = some (0, ⟨3⟩) := by decide
  have gone : ((Request.startGraphics 1 800 600 {}).answer .idle (({} : Bridge).run halfGone)
      0).2 = some .mainLoopNotRunning := by decide
  obtain ⟨e, narrow, refusal⟩ : ∃ e, ((Request.startGraphics 1 0 600 {}).answer .idle
      (({} : Bridge).run halfGone) 0).2 = some e ∧ e.isRefusal = true := ⟨_, rfl, rfl⟩
  exact ⟨(keeps_window_iff rfl gone reported).2.2 rfl,
    (keeps_window_iff rfl narrow reported).1.2 refusal⟩

/-- A window is on screen and reported.  A request for it in an application whose main loop is
gone fails; the window is still on screen, but reported no longer. -/
theorem window_lost_by_failed_request :
    (({} : Bridge).run halfGone).hasWindow (.showing ⟨3⟩) 0 0 none = true ∧
      ((({} : Bridge).run halfGone).startGraphics 0 1 800 600 {}).2 =
        .error .mainLoopNotRunning ∧
      ((({} : Bridge).run halfGone).startGraphics 0 1 800 600 {}).1.applications.map
        (·.holds ⟨3⟩) = [true, false] ∧
      ((({} : Bridge).run halfGone).startGraphics 0 1 800 600 {}).1.hasWindow (.showing ⟨3⟩) 0 0
        none = false := by
  decide

end Bridge

end MachineBridge
