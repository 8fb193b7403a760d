import MachineBridge.Proofs.History
import MachineBridge.Proofs.Tokens.Account
import MachineBridge.Proofs.Windows.Inquiry

/-!
# MachineBridge.Proofs.Windows.Presence

What a machine answers when it is asked for its window, against the window that its
application has.  The machine keeps a flag, which a request sets at once and a closing of
the window clears, while the window itself comes and goes on the main thread.  A closing
*overtakes* a request when the task that presents the window is still queued behind it; the
window that the task creates is then unknown to the machine until the next request.

With one application and nothing else that clears the flag, this is the only way in which
flag and window disagree (`hasWindow_iff`).
-/

namespace MachineBridge

/-- An environment that can do nothing but says that one window is visible. -/
def Environment.showing (id : Handle) : Environment :=
  { Environment.idle with isVisible := fun _ shown => shown = id }

namespace Bridge

/-! ## requests and closings -/

/-- The application in which an action asks for the window of a machine, if it is a request
that passes all checks. -/
def acceptedRequest? (b : Bridge) (m : Nat) : Action → Option Nat
  | .startGraphics k a width height options =>
    (b.acceptedStart? m (.startGraphics k a width height options)).map (·.1)
  | .showWindow k =>
    match b.admitted k PlatformVersion.forStopAndGraphics with
    | .ok machine => if k = m then machine.window.reopening?.map (·.1) else none
    | .error _ => none
  | _ => none

/-- A step that closes the window of a machine in an application says whether it overtakes a
request; a request that is accepted overtakes nothing. -/
def overtaking? (m a : Nat) (b : Bridge) (env : Environment) (act : Action) : Option Bool :=
  if (b.acceptedRequest? m act).isSome then some false
  else
    match (b.machines[m]?).bind (·.window.token), b.applications[a]?,
      (b.step env act).applications[a]? with
    | some id, some x, some x' =>
      if x.holds id = true ∧ x'.holds id = false then some (x'.isPresenting id) else none
    | _, _, _ => none

/-- The latest closing of the window of a machine in an application overtook a request, and no
request was accepted since. -/
def overtaken (m a : Nat) (actions : List (Environment × Action)) : Bool :=
  ({} : Bridge).latest? (overtaking? m a) actions == some true

/-- A step is ordinary for a machine and an application: windows of the machine are asked for
in this application, which is there, is not asked to quit and has a toolkit that does not
panic; nobody but the application says that the window is closed, and no caller releases a
token that is not his own. -/
structure Ordinary (m a : Nat) (b : Bridge) (env : Environment) (act : Action) : Prop where
  requested : ∀ k width height options, act = .startGraphics m k width height options →
    k = a ∧ (b.applications[a]?).isSome = true
  unasked : act ≠ .quit a
  calm : ∀ c, env.panics a c = false
  unreported : ∀ id, act = .receive (.windowClosed id) →
    b.registry.get? id ≠ some (.windowBinding m)
  own : b.ReleasesOwn env act

variable {b b' : Bridge} {act : Action} {env : Environment} {m a : Nat} {x x' : Application}
  {id : Handle} {s s' : MachineSkeleton}

/-! ## requests -/

/-- An accepted request opens the window in an application that accepts the task. -/
theorem skeleton?_of_acceptedRequest (env : Environment) (h : b.acceptedRequest? m act = some a) :
    ∃ s isOpen spec, b.skeleton? m = some s ∧ (b.Accepting a → isOpen = true) ∧
      (b.step env act).skeleton? m = some { s with
        window :=
          ⟨isOpen, some (s.window.token.getD ⟨b.registry.next⟩), some a, some spec⟩ } := by
  unfold acceptedRequest? at h
  split at h
  · next k a' width height options =>
    obtain ⟨⟨a', spec⟩, accepted, rfl⟩ := Option.map_eq_some_iff.1 h
    obtain ⟨s, isOpen, found, -, accepting, after⟩ := skeleton?_of_acceptedStart env accepted
    exact ⟨s, isOpen, spec, found, accepting, after⟩
  · next k =>
    split at h
    · next machine admitted =>
      split at h
      · next same =>
        subst same
        obtain ⟨⟨a', id, spec⟩, known, rfl⟩ := Option.map_eq_some_iff.1 h
        obtain ⟨isOpen, accepting, after⟩ := skeleton?_present admitted a' spec
        refine ⟨machine.skeleton, isOpen, spec, (skeleton?_of_admitted admitted).1, accepting, ?_⟩
        rw [openWindow, windowToken_of_reopening k known] at after
        rw [step, showWindow, admitted]
        simp only [known]
        exact after
      · contradiction
    · contradiction
  · contradiction

/-- A request that is let pass is accepted. -/
theorem acceptedRequest?_of_requests {spec : WindowSpec} (found : b.skeleton? m = some s)
    (admits : s.Admits PlatformVersion.forStopAndGraphics)
    (requests : Requests m s.window a spec act) : b.acceptedRequest? m act = some a := by
  cases requests with
  | start positive same =>
    rw [acceptedRequest?, acceptedStart?_startGraphics found admits positive]
    rfl
  | again known =>
    rw [skeleton?, Option.map_eq_some_iff] at found
    obtain ⟨machine, found, rfl⟩ := found
    rw [acceptedRequest?, admitted_eq_ok_iff.2 ⟨found, admits⟩]
    simp only [if_true]
    rw [show machine.window.reopening? = _ from known]
    rfl

/-! ## closings -/

/-- The report of a closed window reaches the machine that its token names. -/
theorem skeleton?_receive_windowClosed (hb : b.registry.Records b.token?)
    (named : b.registry.get? id = some (.windowBinding m)) (found : b.skeleton? m = some s) :
    (b.receive (.windowClosed id)).1.skeleton? m =
      some { s with window := s.window.closed } := by
  have valid : id ≠ .invalid := by
    rintro rfl
    exact Nat.lt_irrefl 0 (hb.issued _ _ (hb.named _ _ named rfl)).1
  have resolved : b.registry.resolve .windowBinding id = .ok (.windowBinding m) :=
    Registry.resolve_eq_ok_iff.2 ⟨named, rfl⟩
  have received : (b.receive (.windowClosed id)).1 = b.closeWindow m := by
    rw [receive, if_neg (by simpa using valid)]
    simp only [Callback.kind, Callback.token, resolved, deliver, Value.owner]
    rfl
  rw [received, skeleton?_closeWindow, if_pos rfl, found]
  rfl

/-- Closing a window, and telling the machine, takes it from its application. -/
theorem userClosed_of_held {w : Nat} (hb : b.registry.Records b.token?)
    (found : b.skeleton? m = some s) (named : b.registry.get? id = some (.windowBinding m))
    (there : b.applications[a]? = some x) (held : x.watcher? id = some w) :
    (b.userClosed a id).skeleton? m = some { s with window := s.window.closed } ∧
      ∃ x', (b.userClosed a id).applications[a]? = some x' ∧ x'.holds id = false := by
  let removed := (b.removeController a id w).modifyApplication a fun x =>
    { x with history := x.history ++ [.closedByUser id] }
  let stopping := removed.beginStop m
  have quiet : Quiet b stopping :=
    (((b.edits_removeController a id w).quiet rfl).trans (quiet_modifyApplication _ a _)).trans
      ((removed.edits_beginStop m).quiet rfl)
  have closed : b.userClosed a id = (stopping.receive (.windowClosed id)).1 := by
    have resolved : removed.registry.resolve .windowBinding id = .ok (.windowBinding m) :=
      Registry.resolve_eq_ok_iff.2 ⟨named, rfl⟩
    rw [userClosed, there, Option.bind_some, held]
    dsimp only
    rw [show ((b.removeController a id w).modifyApplication a _).registry.resolve _ id = _ from
      resolved]
    rfl
  rw [closed]
  constructor
  · refine skeleton?_receive_windowClosed ?_ ?_ ?_
    · rw [quiet.registry, quiet.token?_eq]; exact hb
    · rw [quiet.registry]; exact named
    · rw [quiet.skeletons]; exact found
  · have after := b.getElem?_modifyApplication_twice a a (·.eraseController id) fun x =>
      { x with history := x.history ++ [.closedByUser id] }
    rw [if_pos rfl, there, Option.map_some] at after
    refine ⟨_, by rw [applications_receive]; exact after, ?_⟩
    exact congrArg Option.isSome (Application.closes_closedByUser held).absent

theorem mainTurn_of_closeForStop {w : Nat} {rest : List (Message MainTask)}
    (hb : b.registry.Records b.token?) (found : b.skeleton? m = some s)
    (named : b.registry.get? id = some (.windowBinding m)) (there : b.applications[a]? = some x)
    (turns : b.canTurn a = true) (task : x.queue.messages = .run (.closeForStop id w) :: rest)
    (held : x.watcher? id = some w) (calm : env.panics a (.close id) = false) :
    (b.mainTurn env a).skeleton? m = some { s with window := s.window.closed } ∧
      ∃ x', (b.mainTurn env a).applications[a]? = some x' ∧ x'.holds id = false := by
  let taken := b.modifyApplication a fun x => { x with queue := x.queue.take.1 }
  have took : x.queue.take.2 = .run (.closeForStop id w) := by rw [MainQueue.take, task]
  have first : taken.applications[a]? = some { x with queue := x.queue.take.1 } := by
    rw [getElem?_modifyApplication, if_pos rfl, there]; rfl
  have turned : b.mainTurn env a = taken.runCloseForStop env a id w := by
    rw [mainTurn, if_pos turns, there]
    dsimp only
    rw [took]
    rfl
  rw [turned]
  constructor
  · let closed := (taken.removeController a id w).callToolkit env a [.close id]
    have quiet : Quiet b closed :=
      (b.quiet_modifyApplication a _).trans ((edits_close env taken a id w).quiet rfl)
    have told : taken.runCloseForStop env a id w = (closed.receive (.windowClosed id)).1 := by
      have still : (taken.applications[a]?).bind (·.watcher? id) = some w := by
        rw [first]; exact held
      rw [runCloseForStop, if_pos still]
      dsimp only
      rw [if_neg (by simp [calm])]
    rw [told]
    refine skeleton?_receive_windowClosed ?_ ?_ ?_
    · rw [quiet.registry, quiet.token?_eq]; exact hb
    · rw [quiet.registry]; exact named
    · rw [quiet.skeletons]; exact found
  · obtain ⟨y, x', -, foundY, found', -, runs⟩ | ⟨elsewhere, -⟩ :=
      taken.runsAt_runTask env a (.closeForStop id w) a
    · cases first.symm.trans foundY
      refine ⟨x', found', ?_⟩
      cases runs with
      | stops _ closes => rw [Application.holds, closes.absent]; rfl
      | leaves skips _ => exact absurd held skips
    · rw [elsewhere rfl] at first
      contradiction

/-! ## flag and window -/

/-- What holds of a bridge after an ordinary run, before anything is said of the flag. -/
structure Sound (b : Bridge) (m a : Nat) : Prop where
  reachable : b.Reachable
  holds : b.registry.Holds b.token?
  alive : ∀ x, b.applications[a]? = some x → Alive x
  issued : ∀ (k : Nat) (x : Application) (id : Handle), b.applications[k]? = some x →
    x.Mentions id → id.raw < b.registry.next
  retired : ∀ (k : Nat) (x : Application) (id : Handle), b.applications[k]? = some x →
    .forget id ∈ x.queue.tasks → b.Retired id
  idle : ∀ s, b.skeleton? m = some s → s.phase ≠ .live → s.window = {}

/-- How the flag of a machine and its window in an application agree, given whether the latest
closing of the window overtook a request. -/
structure Presence (b : Bridge) (m a : Nat) (s : MachineSkeleton) (id : Handle)
    (latest : Option Bool) : Prop where
  named : s.window.application = some a
  elsewhere : ∀ (k : Nat) (x : Application), k ≠ a → b.applications[k]? = some x →
    ¬x.Mentions id
  there : ∃ x, b.applications[a]? = some x
  overtaken : latest = some true → s.window.isOpen = false
  shown : ∀ x, b.applications[a]? = some x → x.Mentions id → latest ≠ some true →
    s.window.isOpen = true

/-- The registry knows the machine of a window. -/
theorem Sound.named (sound : b.Sound m a) (found : b.skeleton? m = some s)
    (token : s.window.token = some id) : b.registry.get? id = some (.windowBinding m) :=
  sound.holds _ _ (by rw [token?, found]; exact token)

/-- A window is presented in an application by an accepted request in it only. -/
theorem mentions_unrequested (reachable : b.Reachable) {k : Nat}
    (found' : (b.step env act).skeleton? m = some s') (token' : s'.window.token = some id)
    (change : AppChange b act k (b.step env act) x x')
    (unrequested : b.acceptedRequest? m act ≠ some k) (hx : x'.Mentions id) : x.Mentions id := by
  obtain earlier | ⟨spec, j, i, posts⟩ := change.mentions hx
  · exact earlier
  · have owned : (b.step env act).token? (.windowBinding m) = some id := by
      rw [token?, found']; exact token'
    obtain rfl : j = m := by
      simpa using (reachable.step env act).records.distinct _ _ _ posts.token? owned
    cases posts with
    | present found admits requests _ =>
      exact absurd (acceptedRequest?_of_requests found admits requests) unrequested
    | other present _ => exact absurd rfl (present id spec j i)

/-- Without a request the window of a machine stays as it is, or it is marked closed. -/
theorem skeleton_unrequested (sound : b.Sound m a) (unrequested : b.acceptedRequest? m act = none)
    (found' : (b.step env act).skeleton? m = some s') (token' : s'.window.token = some id) :
    ∃ s, b.skeleton? m = some s ∧ s.window.token = some id ∧
      (s' = s ∨ s' = { s with window := s.window.closed } ∧ ClosesWindow b id act) := by
  have step := b.skeletonStep_step env act m
  rw [found'] at step
  generalize after : some s' = o at step
  cases step with
  | same => exact ⟨s', after.symm, token', .inl rfl⟩
  | begun => cases after; contradiction
  | released => cases after; contradiction
  | @created s _ found creating _ =>
    cases after
    have token : s.window.token = some id := token'
    rw [sound.idle s found (by simp [creating])] at token
    contradiction
  | @finished s found releasing =>
    cases after
    have token : s.window.token = some id := token'
    rw [sound.idle s found (by simp [releasing])] at token
    contradiction
  | opened found admits requests | refused found admits requests =>
    rw [acceptedRequest?_of_requests found admits requests] at unrequested
    contradiction
  | @closed s k found named closes =>
    cases after
    have token : s.window.token = some id := token'
    have hb := sound.reachable.records
    obtain rfl : k = id := by
      have owned := hb.named _ _ named rfl
      rw [token?, found] at owned
      exact Option.some.inj (owned.symm.trans token)
    exact ⟨s, found, token, .inr ⟨rfl, closes⟩⟩

/-- When the application loses the window, the machine is told so. -/
theorem skeleton_of_lost (sound : b.Sound m a) (found : b.skeleton? m = some s)
    (token : s.window.token = some id) (there : b.applications[a]? = some x)
    (there' : (b.step env act).applications[a]? = some x') (calm : ∀ c, env.panics a c = false)
    (held : x.holds id = true) (lost : x'.holds id = false) :
    (b.step env act).skeleton? m = some { s with window := s.window.closed } := by
  have hb := sound.reachable.records
  have named := sound.named found token
  obtain ⟨absent, -⟩ | ⟨absent, -⟩ | ⟨there₀, there₁, change⟩ := b.appStep_step env act a
  · cases there.symm.trans absent
  · cases there.symm.trans absent
  · cases there.symm.trans there₀
    cases there'.symm.trans there₁
    cases change with
    | idle h =>
      rw [Application.holds, h.windows.watchers] at lost
      rw [Application.holds, lost] at held
      contradiction
    | posted _ | quit _ | ended _ _ =>
      rw [show x.holds id = false from lost] at held
      contradiction
    | userClosed cause _ closes =>
      cases closes.eq_of_lost held lost
      obtain ⟨w, watched⟩ := Option.isSome_iff_exists.1 held
      rw [cause]
      exact (userClosed_of_held hb found named there watched).1
    | ran cause task _ runs =>
      obtain rfl | ⟨w, rfl, watched⟩ := runs.of_lost held lost
      · have mem : MainTask.forget id ∈ x.queue.tasks := by
          rw [Application.tasks_of_messages task]
          exact List.mem_cons_self
        exact absurd (by rw [token?, found]; exact token)
          ((sound.retired a x id there mem).unowned m)
      · rw [cause] at there' ⊢
        by_cases turns : b.canTurn a = true
        · exact (mainTurn_of_closeForStop hb found named there turns task watched (calm _)).1
        · have same : b.step env (.mainTurn a) = b := by rw [step, mainTurn, if_neg turns]
          rw [same, there] at there'
          cases there'
          rw [held] at lost
          contradiction

/-- When the machine is told that its window is closed, the application loses it. -/
theorem lost_of_closes (sound : b.Sound m a) {latest : Option Bool}
    (p : b.Presence m a s id latest) (found : b.skeleton? m = some s)
    (token : s.window.token = some id) (ordinary : b.Ordinary m a env act)
    (closes : ClosesWindow b id act) :
    ∃ x x', b.applications[a]? = some x ∧ (b.step env act).applications[a]? = some x' ∧
      x.holds id = true ∧ x'.holds id = false := by
  have hb := sound.reachable.records
  have named := sound.named found token
  have here : ∀ (k w : Nat) (x : Application), b.applications[k]? = some x →
      x.watcher? id = some w → k = a := by
    intro k w x there held
    by_contra other
    exact p.elsewhere k x other there (.inl (by rw [Application.holds, held]; rfl))
  cases closes with
  | reported => exact absurd named (ordinary.unreported id rfl)
  | byUser there held =>
    obtain rfl := here _ _ _ there held
    obtain ⟨-, x', there', lost⟩ := userClosed_of_held hb found named there held
    exact ⟨_, x', there, there', by rw [Application.holds, held]; rfl, lost⟩
  | forStop turns there task held =>
    obtain rfl := here _ _ _ there held
    obtain ⟨-, x', there', lost⟩ :=
      mainTurn_of_closeForStop hb found named there turns task held (ordinary.calm _)
    exact ⟨_, x', there, there', by rw [Application.holds, held]; rfl, lost⟩

/-! ## one step -/

/-- Flag and window agree once the machine has a window token. -/
def Agree (b : Bridge) (m a : Nat) (latest : Option Bool) : Prop :=
  ∀ s id, b.skeleton? m = some s → s.window.token = some id → b.Presence m a s id latest

/-- An ordinary request that is accepted is one in the application. -/
theorem accepted_eq {latest : Option Bool} (agree : b.Agree m a latest)
    (ordinary : b.Ordinary m a env act) {k : Nat} (accepted : b.acceptedRequest? m act = some k) :
    k = a ∧ ∃ x, b.applications[a]? = some x := by
  unfold acceptedRequest? at accepted
  split at accepted
  · next j c width height options =>
    obtain ⟨⟨k', spec⟩, start, rfl⟩ := Option.map_eq_some_iff.1 accepted
    simp only [acceptedStart?] at start
    split at start
    · split at start
      · next both =>
        obtain ⟨rfl, -⟩ := both
        cases start
        obtain ⟨same, there⟩ := ordinary.requested c width height options rfl
        exact ⟨same, Option.isSome_iff_exists.1 there⟩
      · contradiction
    · contradiction
  · split at accepted
    · next machine admitted =>
      split at accepted
      · next same =>
        subst same
        obtain ⟨⟨k', id, spec⟩, known, rfl⟩ := Option.map_eq_some_iff.1 accepted
        obtain ⟨application, token, -⟩ := WindowState.reopening?_eq_some_iff.1 known
        have p := agree _ id (skeleton?_of_admitted admitted).1 token
        exact ⟨Option.some.inj (application.symm.trans p.named), p.there⟩
      · contradiction
    · contradiction
  · contradiction

/-- An application that is there stays, with a change of the step. -/
theorem changed_of_there (env : Environment) (act : Action) (there : b.applications[a]? = some x) :
    ∃ x', (b.step env act).applications[a]? = some x' ∧ AppChange b act a (b.step env act) x x' := by
  obtain ⟨absent, -⟩ | ⟨absent, -⟩ | ⟨there₀, there', change⟩ := b.appStep_step env act a
  · cases there.symm.trans absent
  · cases there.symm.trans absent
  · cases there.symm.trans there₀
    exact ⟨_, there', change⟩

/-- Other applications do not get the window. -/
theorem elsewhere_step (sound : b.Sound m a) (found' : (b.step env act).skeleton? m = some s')
    (token' : s'.window.token = some id)
    (before : ∀ (k : Nat) (x : Application), k ≠ a → b.applications[k]? = some x → ¬x.Mentions id)
    (requested : ∀ k, b.acceptedRequest? m act = some k → k = a) (k : Nat) (x : Application)
    (other : k ≠ a) (there' : (b.step env act).applications[k]? = some x) : ¬x.Mentions id := by
  intro mentions
  obtain ⟨-, absent⟩ | ⟨-, fresh⟩ | ⟨there, there₁, change⟩ := b.appStep_step env act k
  · cases there'.symm.trans absent
  · cases there'.symm.trans fresh
    obtain held | presenting := mentions
    · contradiction
    · contradiction
  · cases there'.symm.trans there₁
    refine before k _ other there (mentions_unrequested sound.reachable found' token' change ?_ mentions)
    exact fun accepted => other (requested k accepted)

/-- After a request that is accepted, machine and application agree again. -/
theorem Agree.step_of_request {latest : Option Bool} (agree : b.Agree m a latest)
    (sound : b.Sound m a) (ordinary : b.Ordinary m a env act) {k : Nat}
    (accepted : b.acceptedRequest? m act = some k) :
    (b.step env act).Agree m a (some false) := by
  obtain ⟨rfl, x, there⟩ := accepted_eq agree ordinary accepted
  obtain ⟨s, isOpen, spec, found, opens, found'⟩ := skeleton?_of_acceptedRequest env accepted
  have isOpen : isOpen = true := opens ⟨x, there, (sound.alive x there).isOpen⟩
  obtain ⟨x', there', -⟩ := changed_of_there env act there
  intro s' id hs' token'
  cases found'.symm.trans hs'
  refine ⟨rfl, ?_, ⟨x', there'⟩, by simp, fun _ _ _ _ => isOpen⟩
  refine elsewhere_step sound hs' token' ?_ fun j h => Option.some.inj (h.symm.trans accepted)
  intro j y other thereY mentions
  cases token : s.window.token with
  | some id₀ =>
    have same : id₀ = id := by
      rw [token] at token'
      exact Option.some.inj token'
    subst same
    exact (agree s id₀ found token).elsewhere j y other thereY mentions
  | none =>
    rw [token] at token'
    cases token'
    exact Nat.lt_irrefl _ (sound.issued j y _ thereY mentions)

/-- Without a request, they agree but for a closing that overtakes one. -/
theorem Agree.step_unrequested {latest : Option Bool} (agree : b.Agree m a latest)
    (sound : b.Sound m a) (ordinary : b.Ordinary m a env act)
    (unrequested : b.acceptedRequest? m act = none) :
    (b.step env act).Agree m a ((overtaking? m a b env act).or latest) := by
  intro s' id found' token'
  obtain ⟨s, found, token, same⟩ := skeleton_unrequested sound unrequested found' token'
  have p := agree s id found token
  obtain ⟨x, there⟩ := p.there
  obtain ⟨x', there', change⟩ := changed_of_there env act there
  have asked : (b.machines[m]?).bind (·.window.token) = some id := by
    rw [skeleton?, Option.map_eq_some_iff] at found
    obtain ⟨machine, found, rfl⟩ := found
    rw [found]
    exact token
  have verdict : overtaking? m a b env act =
      if x.holds id = true ∧ x'.holds id = false then some (x'.isPresenting id) else none := by
    rw [overtaking?, if_neg (by simp [unrequested]), asked, there, there']
  have named : s'.window.application = some a := by
    obtain rfl | ⟨rfl, -⟩ := same
    · exact p.named
    · exact p.named
  have elsewhere := elsewhere_step sound found' token' p.elsewhere (by simp [unrequested])
  rw [verdict]
  split
  · next lost =>
    have closed := skeleton_of_lost sound found token there there' ordinary.calm lost.1 lost.2
    cases closed.symm.trans found'
    refine ⟨named, elsewhere, ⟨x', there'⟩, fun _ => rfl, fun y thereY mentions latest => ?_⟩
    cases there'.symm.trans thereY
    obtain held | presenting := mentions
    · rw [lost.2] at held
      contradiction
    · rw [presenting] at latest
      exact absurd rfl latest
  · next kept =>
    have same : s' = s := by
      obtain same | ⟨-, closes⟩ := same
      · exact same
      · obtain ⟨y, y', thereY, thereY', held, lost⟩ :=
          lost_of_closes sound p found token ordinary closes
        cases there.symm.trans thereY
        cases there'.symm.trans thereY'
        exact absurd ⟨held, lost⟩ kept
    subst same
    refine ⟨named, elsewhere, ⟨x', there'⟩, p.overtaken, fun y thereY mentions latest => ?_⟩
    cases there'.symm.trans thereY
    exact p.shown x there
      (mentions_unrequested sound.reachable found' token' change (by simp [unrequested]) mentions)
      latest

/-! ## every run -/

/-- After every ordinary run a machine and its application are sound. -/
theorem sound_run {actions : List (Environment × Action)}
    (ordinary : ({} : Bridge).Along (Ordinary m a) actions) :
    (({} : Bridge).run actions).Sound m a where
  reachable := ⟨actions, rfl⟩
  holds := holds_run (ordinary.mono fun _ _ _ h => h.own)
  alive _ there :=
    alive_run (ordinary.forall (Q := fun _ act => act ≠ .quit a) fun _ _ _ h => h.unasked) there
  issued _ _ _ there mentions := issued_run there mentions
  retired _ _ _ there forgets := retired_run there forgets
  idle s found idle := by
    have recorded := windowRecorded_run actions m
    rw [WindowRecorded, found] at recorded
    exact WindowHistory.idle recorded idle

/-- After an ordinary run flag and window agree, unless a closing overtook a request. -/
theorem agree_run {actions : List (Environment × Action)}
    (ordinary : ({} : Bridge).Along (Ordinary m a) actions) :
    (({} : Bridge).run actions).Agree m a (({} : Bridge).latest? (overtaking? m a) actions) := by
  induction actions using List.reverseRecOn with
  | nil => exact fun s id found => absurd found (by simp [run, skeleton?])
  | append_singleton before t ih =>
    rw [along_append] at ordinary
    have agree := ih ordinary.1
    have sound := sound_run ordinary.1
    have step := ordinary.2.1
    rw [run_append, latest?_append_singleton]
    cases accepted : (({} : Bridge).run before).acceptedRequest? m t.2 with
    | none => exact agree.step_unrequested sound step accepted
    | some k =>
      rw [show overtaking? m a (({} : Bridge).run before) t.1 t.2 = some false by
        rw [overtaking?, if_pos (by rw [accepted]; rfl)]]
      exact agree.step_of_request sound step accepted

/-! ## the answer at rest -/

/-- At rest a machine says that it has a window exactly if the application has the window of
its token, unless the latest closing of the window overtook a request and no request was
accepted since.  The main thread is free or the caller is on it, and the toolkit reports a
window visible from its creation until it is closed. -/
theorem hasWindow_iff {actions : List (Environment × Action)} {place : Option Nat}
    {machine : Machine} (ordinary : ({} : Bridge).Along (Ordinary m a) actions)
    (found : (({} : Bridge).run actions).machines[m]? = some machine)
    (there : (({} : Bridge).run actions).applications[a]? = some x)
    (empty : x.queue.messages = []) (free : place = some a ∨ x.job = none)
    (visible : ∀ id, env.isVisible a id = true ↔ (x.marks id).getLast? = some .opened)
    (calm : ∀ c, env.panics a c = false) :
    (({} : Bridge).run actions).hasWindow env m a place = true ↔
      ∃ id, machine.window.token = some id ∧ x.holds id = true ∧ overtaken m a actions = false := by
  have sound := sound_run ordinary
  have agree := agree_run ordinary
  have last := getLast?_marks_run there
  unfold overtaken
  generalize ({} : Bridge).latest? (overtaking? m a) actions = latest at agree ⊢
  generalize ({} : Bridge).run actions = b at *
  have skeleton : b.skeleton? m = some machine.skeleton := by rw [skeleton?, found]; rfl
  have seen : ∀ id, env.isVisible a id = x.holds id := by
    intro id
    rw [Bool.eq_iff_iff, visible, last]
  cases token : machine.window.token with
  | none =>
    rw [hasWindow_of_closed (by simp [found, WindowState.openIn?, token])]
    simp
  | some id =>
    have p := agree _ id skeleton token
    by_cases isOpen : machine.window.isOpen = true
    · have opened : machine.window.openIn? = some (a, id) := by
        simp [WindowState.openIn?, isOpen, token, show machine.window.application = _ from p.named]
      have timely : latest ≠ some true := fun late => by
        have closed : machine.window.isOpen = false := p.overtaken late
        simp [isOpen] at closed
      rw [hasWindow_of_open found opened there (sound.alive x there) empty free calm, seen]
      simp [timely]
    · have late : x.holds id = true → latest = some true := fun held => by
        by_contra timely
        exact isOpen (p.shown x there (.inl held) timely)
      rw [hasWindow_of_closed (by simp [found, WindowState.openIn?, isOpen])]
      simpa using late

/-- A run in which the user closes a window and the consumer shows it again. -/
def reopening : List (Environment × Action) :=
  creation ++ [(.idle, .addApplication), (.idle, .startGraphics 0 0 800 600 {}),
    (.idle, .mainTurn 0), (.idle, .userClosed 0 ⟨3⟩), (.idle, .showWindow 0), (.idle, .mainTurn 0)]

/-- A run in which a machine stops and the consumer shows its window before that is closed. -/
def overtaking : List (Environment × Action) :=
  creation ++ [(.idle, .addApplication), (.idle, .startGraphics 0 0 800 600 {}),
    (.idle, .mainTurn 0), (.idle, .receive (.stateChanged ⟨1⟩ 0)), (.idle, .watch 0),
    (.idle, .showWindow 0), (.idle, .mainTurn 0), (.idle, .mainTurn 0)]

/-- A window that the user closed is there again. -/
theorem hasWindow_iff_shown_again :
    ({} : Bridge).Along (Ordinary 0 0) reopening ∧
      (({} : Bridge).run reopening).hasWindow (.showing ⟨3⟩) 0 0 none = true := by
  have ordinary : ({} : Bridge).Along (Ordinary 0 0) reopening := by
    simp only [reopening, creation, List.cons_append, List.nil_append, Along]
    refine ⟨?_, ?_, ?_, ?_, ?_, ?_, ?_, ?_, trivial⟩
    all_goals
      refine ⟨?_, by simp, by simp [Environment.idle], by simp, by simp [ReleasesOwn]⟩
      rintro _ _ _ _ ⟨⟩ <;> exact ⟨rfl, rfl⟩
  obtain ⟨machine, found, token⟩ : ∃ machine,
      (({} : Bridge).run reopening).machines[0]? = some machine ∧
        machine.window.token = some ⟨3⟩ := ⟨_, rfl, rfl⟩
  obtain ⟨x, there, empty, free, controllers⟩ : ∃ x,
      (({} : Bridge).run reopening).applications[0]? = some x ∧
        x.queue.messages = [] ∧ x.job = none ∧ x.controllers = [(⟨3⟩, 1)] :=
    ⟨_, rfl, rfl, rfl, rfl⟩
  have held : ∀ id, x.holds id = true ↔ id = ⟨3⟩ := by
    intro id
    rw [Application.holds, Application.watcher?, controllers, List.lookup_cons]
    by_cases same : id = ⟨3⟩
    · simp [same]
    · simp [same, beq_eq_false_iff_ne.2 same]
  have visible : ∀ id, (Environment.showing ⟨3⟩).isVisible 0 id = true ↔
      (x.marks id).getLast? = some .opened := by
    intro id
    rw [getLast?_marks_run there, held]
    exact decide_eq_true_iff
  exact ⟨ordinary, (hasWindow_iff ordinary found there empty (.inr free) visible
    fun _ => rfl).2 ⟨⟨3⟩, token, (held _).2 rfl, by decide⟩⟩

/-- A window that is presented after the stop that overtook the request stays, and the machine
knows nothing of it. -/
theorem window_unknown_after_stop :
    ({} : Bridge).Along (Ordinary 0 0) overtaking ∧
      (({} : Bridge).run overtaking).machines.map (·.phase) = [.live] ∧
      (∀ w, (({} : Bridge).run overtaking).canWatch w = false) ∧
      (({} : Bridge).run overtaking).applications.map
        (fun x => (x.queue.messages.isEmpty, x.holds ⟨3⟩, x.marks ⟨3⟩)) =
        [(true, true, [.opened, .closed, .opened])] ∧
      (({} : Bridge).run overtaking).hasWindow (.showing ⟨3⟩) 0 0 none = false := by
  refine ⟨?_, by decide, ?_, by decide, by decide⟩
  · simp only [overtaking, creation, List.cons_append, List.nil_append, Along]
    refine ⟨?_, ?_, ?_, ?_, ?_, ?_, ?_, ?_, ?_, ?_, trivial⟩
    all_goals
      refine ⟨?_, by simp, by simp [Environment.idle], by simp, by simp [ReleasesOwn]⟩
      rintro _ _ _ _ ⟨⟩ <;> exact ⟨rfl, rfl⟩
  · intro w
    cases w with
    | zero => rfl
    | succ w =>
      cases w with
      | zero => rfl
      | succ w => rfl

end Bridge

end MachineBridge
