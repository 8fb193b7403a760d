import MachineBridge.Proofs.Changes.Step
import MachineBridge.Proofs.Tokens.Account

/-!
# MachineBridge.Proofs.Lifecycle.Guards

What never reaches the runtime and the toolkit.  A call into the runtime needs a platform that
has it and a machine that is not released yet, and windows and workers need a platform that
has windows; each of these can be asked for in several ways, by callers, by threads of the
bridge and by tasks that were queued long before.

What is known of a machine is kept by every change of it (`Machine.Guarded.change`).  The
toolkit is called for windows of machines only, so it is never called on behalf of a machine
whose platform has no windows (`guards_run`).
-/

namespace MachineBridge

open DisconnectPipeline (Use)

/-! ## machines -/

/-- The worker of a pipeline is started by a subscription only. -/
theorem DisconnectPipeline.running_of_use {p : DisconnectPipeline} {c : MachineConfiguration}
    {u : Use} (listening : u ≠ .subscribe) (running : (p.use c u).worker = .running) :
    p.worker = .running := by
  cases u with
  | report e =>
    rw [use, push_eq] at running
    exact running
  | endReports | receive i | drop i => exact running
  | subscribe => exact absurd rfl listening
  | shutdown =>
    rw [use, shutdown] at running
    split at running
    · cases running
    · exact running
  | work =>
    by_contra idle
    rw [use, work, if_neg idle] at running
    exact idle running

namespace Machine

variable {x x' : Machine}

/-- A machine got nothing that its platform does not have, and nothing after its release. -/
structure Guarded (x : Machine) : Prop where
  calls : ∀ c ∈ x.calls, x.platform.isAtLeast c.requiredRelease = true
  valid : x.configuration.validate = .ok ()
  window : ∀ id, x.window.token = some id →
    x.platform.isAtLeast PlatformVersion.forStopAndGraphics = true
  worker : x.disconnect.worker = .running →
    x.platform.isAtLeast PlatformVersion.forStopAndGraphics = true
  released : .release ∈ x.calls → x.phase.isEnding = true
  last : ∀ before after, x.calls = before ++ .release :: after → after = []

/-- A machine that is begun passed the checks of its creation. -/
theorem guarded_begun {platform : PlatformVersion} {c : MachineConfiguration}
    (state disconnect : Handle)
    (allowed : platform.isAtLeast PlatformVersion.forMachines = true) (valid : c.validate = .ok ()) :
    (begun platform c state disconnect).Guarded where
  calls c mem := by
    cases List.mem_singleton.1 mem
    exact allowed
  valid := valid
  window _ token := by cases token
  worker running := by cases running
  released mem := by cases List.mem_singleton.1 mem
  last before after split := by
    have mem : RuntimeCall.release ∈ [RuntimeCall.create state disconnect] := by
      rw [show [RuntimeCall.create state disconnect] = before ++ .release :: after from split]
      simp
    cases List.mem_singleton.1 mem

/-- A live machine was not released. -/
theorem Guarded.unreleased (h : x.Guarded) (live : x.phase = .live) : .release ∉ x.calls := by
  intro mem
  have ending := h.released mem
  rw [live] at ending
  cases ending

/-- A call into a machine that was not released. -/
theorem last_of_unreleased {cs : List RuntimeCall} (unreleased : .release ∉ cs) (c : RuntimeCall)
    (before after : List RuntimeCall) (split : cs ++ [c] = before ++ .release :: after) :
    after = [] := by
  obtain rfl | ⟨rest, d, rfl⟩ := after.eq_nil_or_concat
  · rfl
  · rw [List.concat_eq_append, ← List.cons_append, ← List.append_assoc] at split
    exact absurd ((List.append_inj' split rfl).1 ▸ by simp) unreleased

/-- What can happen to a machine keeps it within its guards. -/
theorem Guarded.change (h : x.Guarded) (change : Change x x') : x'.Guarded := by
  obtain ⟨calls, valid, window, worker, released, last⟩ := h
  cases change with
  | streams | counted => exact ⟨calls, valid, window, worker, released, last⟩
  | shuts => exact ⟨calls, valid, window, worker, released, last⟩
  | @uses u ongoing starts =>
    refine ⟨calls, valid, window, fun running => ?_, released, last⟩
    by_cases listening : u = .subscribe
    · exact (starts listening).2
    · exact worker (DisconnectPipeline.running_of_use listening running)
  | @calls c admits other =>
    have unreleased := Guarded.unreleased ⟨calls, valid, window, worker, released, last⟩ admits.1
    refine ⟨fun d mem => ?_, valid, window, worker, fun mem => ?_, last_of_unreleased unreleased c⟩
    · obtain earlier | new := List.mem_append.1 mem
      · exact calls d earlier
      · cases List.mem_singleton.1 new
        exact admits.2
    · obtain earlier | new := List.mem_append.1 mem
      · exact absurd earlier unreleased
      · exact absurd (List.mem_singleton.1 new).symm other
  | opens admits => exact ⟨calls, valid, fun _ _ => admits.2, worker, released, last⟩
  | created creating | failed creating =>
    refine ⟨calls, valid, window, worker, fun mem => ?_, last⟩
    have ending := released mem
    rw [creating] at ending
    cases ending
  | released live =>
    have unreleased := Guarded.unreleased ⟨calls, valid, window, worker, released, last⟩ live
    refine ⟨fun d mem => ?_, valid, fun _ none => (by cases none), worker, fun _ => rfl,
      last_of_unreleased unreleased .release⟩
    obtain earlier | new := List.mem_append.1 mem
    · exact calls d earlier
    · cases List.mem_singleton.1 new
      exact decide_eq_true (UInt32.zero_le)
  | finished releasing =>
    refine ⟨calls, valid, window, fun running => worker ?_, fun _ => rfl, last⟩
    exact DisconnectPipeline.running_of_use (c := x.configuration) (u := .shutdown) (by simp) running

/-- What was let pass into the runtime of a machine, and what the bridge made for it. -/
structure Permitted (x : Machine) : Prop where
  /-- The runtime creates machines on platforms that have them, with valid configurations. -/
  created : ∀ state disconnect, .create state disconnect ∈ x.calls →
    11 ≤ x.platform.major ∧ x.configuration.validate = .ok ()
  stop : ∀ token, .perform .stop token ∈ x.calls → 12 ≤ x.platform.major
  canStop : .query .canStop ∈ x.calls → 12 ≤ x.platform.major
  recovery : ∀ options token, .perform (.start options) token ∈ x.calls →
    options.fromRecovery = true → 13 ≤ x.platform.major
  /-- A window has a token. -/
  window : ∀ id, x.window.token = some id → 12 ≤ x.platform.major
  /-- The worker handles lost attachments. -/
  worker : x.disconnect.worker = .running → 12 ≤ x.platform.major
  /-- The release of a machine is the last call into its runtime. -/
  last : ∀ before after, x.calls = before ++ .release :: after → after = []

theorem Guarded.permitted (h : x.Guarded) : x.Permitted where
  created _ _ mem := ⟨of_decide_eq_true (h.calls _ mem), h.valid⟩
  stop _ mem := of_decide_eq_true (h.calls _ mem)
  canStop mem := of_decide_eq_true (h.calls _ mem)
  recovery options _ mem recovering := by
    have admits := h.calls _ mem
    rw [RuntimeCall.requiredRelease, Operation.requiredRelease, if_pos recovering] at admits
    exact of_decide_eq_true admits
  window id token := of_decide_eq_true (h.window id token)
  worker running := of_decide_eq_true (h.worker running)
  last := h.last

end Machine

namespace Bridge

variable {b : Bridge} {m : Nat} {x : Machine} {actions : List (Environment × Action)}

/-- After every run a machine is within its guards. -/
theorem guarded_run (found : (({} : Bridge).run actions).machines[m]? = some x) : x.Guarded :=
  machine_run (fun _ _ state disconnect => Machine.guarded_begun state disconnect)
    (fun _ _ change h => h.change change) found

/-! ## windows -/

/-- In a run a token was the window of a machine, whose platform has windows. -/
def Windowed (actions : List (Environment × Action)) (id : Handle) : Prop :=
  ∃ part, part <+: actions ∧ ∃ (m : Nat) (x : Machine),
    (({} : Bridge).run part).machines[m]? = some x ∧ x.window.token = some id ∧
      12 ≤ x.platform.major

/-- After every run the bridge refers only to windows that a request named. -/
theorem within_windowed (actions : List (Environment × Action)) :
    (({} : Bridge).run actions).Within (Windowed actions) := by
  refine within_run fun part within m s id known token => ?_
  obtain ⟨x, found, rfl⟩ := Option.map_eq_some_iff.1 known
  exact ⟨part, within, m, x, found, token, (guarded_run found).permitted.window id token⟩

/-- A caller asks for the window of a machine, or for its end. -/
inductive AsksFor (m : Nat) : Action → Prop
  | start {a : Nat} {width height : Float} {options : GraphicsOptions} :
      AsksFor m (.startGraphics m a width height options)
  | showAgain : AsksFor m (.showWindow m)
  | front {place : Option Nat} : AsksFor m (.beginFront m place)
  | look {place : Option Nat} : AsksFor m (.beginHasWindow m place)
  | finalize : AsksFor m (.finalize m)
  | drop : AsksFor m (.dropReference m)

/-- An operation that a platform does not have is not let pass. -/
theorem admitted_of_old {required : UInt32} (found : b.machines[m]? = some x)
    (old : x.platform.major < required) : ∃ e, b.admitted m required = .error e := by
  cases admitted : b.admitted m required with
  | error e => exact ⟨e, rfl⟩
  | ok machine =>
    obtain ⟨known, -, enough⟩ := admitted_eq_ok_iff.1 admitted
    cases found.symm.trans known
    exact absurd (of_decide_eq_true enough) (UInt32.not_le.2 old)

/-- The teardown of a machine without a window hands over no task. -/
theorem applications_beginTeardown_of_windowless
    (windowless : ∀ s, b.skeleton? m = some s → s.window.token = none) :
    (b.beginTeardown m).applications = b.applications := by
  unfold beginTeardown
  split
  · rfl
  · next machine found =>
    have token : machine.window.token = none :=
      windowless machine.skeleton (skeleton?_of_found found)
    split
    · rw [token]
      rfl
    · rfl

/-- Nothing that is asked for the window of a machine gets to an application if the platform
has no windows. -/
theorem AsksFor.applications {act : Action} (asks : AsksFor m act) (env : Environment)
    (found : b.machines[m]? = some x) (old : x.platform.major < 12)
    (windowless : x.window.token = none) : (b.step env act).applications = b.applications := by
  obtain ⟨e, refused⟩ : ∃ e, b.admitted m PlatformVersion.forStopAndGraphics = .error e :=
    admitted_of_old found old
  have none : ∀ s, b.skeleton? m = some s → s.window.token = none := fun s known => by
    cases (skeleton?_of_found found).symm.trans known
    exact windowless
  cases asks with
  | start => rw [step, startGraphics, refused]
  | showAgain => rw [step, showWindow, refused]
  | front => rw [step, beginFront, refused]
  | look =>
    have closed : x.window.openIn? = .none := by
      rw [WindowState.openIn?, windowless]
      split
      · contradiction
      · rfl
    rw [step, beginHasWindow, found, Option.bind_some, closed]
  | finalize => exact applications_beginTeardown_of_windowless none
  | drop =>
    rw [step]
    obtain ⟨-, same⟩ | ⟨c, quiet, same, after⟩ := b.dropReference_cases m
    · exact same
    · rw [after, applications_beginTeardown_of_windowless fun s known => none s ?_, same]
      rw [← quiet.skeletons, known]

/-! ## every run -/

/-- What holds after a run, of everything that a platform may lack. -/
structure Guards (actions : List (Environment × Action)) (b : Bridge) : Prop where
  machines : ∀ (m : Nat) x, b.machines[m]? = some x → x.Permitted
  /-- A token that names the window of a machine was registered for a platform with windows. -/
  binding : ∀ id m, b.registry.get? id = some (.windowBinding m) →
    ∃ x, b.machines[m]? = some x ∧ 12 ≤ x.platform.major
  /-- The toolkit is called for windows of machines whose platform has windows. -/
  toolkit : ∀ (a : Nat) y c, b.applications[a]? = some y → .called c ∈ y.history →
    Windowed actions c.window
  /-- Asking for the window of any other machine does nothing to the applications. -/
  asking : ∀ (m : Nat) x env act, b.machines[m]? = some x → x.platform.major < 12 →
    AsksFor m act → (b.step env act).applications = b.applications

/-- Nothing gets to the runtime or the toolkit that the platform does not have, over every
run. -/
theorem guards_run (actions : List (Environment × Action)) :
    Guards actions (({} : Bridge).run actions) where
  machines _ _ found := (guarded_run found).permitted
  binding id m named := by
    have owned := (records_run actions).named id _ named rfl
    rw [token?] at owned
    obtain ⟨s, known, token⟩ := Option.bind_eq_some_iff.1 owned
    obtain ⟨x, found, rfl⟩ := Option.map_eq_some_iff.1 known
    exact ⟨x, found, (guarded_run found).permitted.window id token⟩
  toolkit a y c found called := by
    have within := (within_windowed actions).applications a
    rw [application_of_found found] at within
    exact within.called c called
  asking m x env act found old asks := by
    refine asks.applications env found old (Option.eq_none_iff_forall_ne_some.2 fun id token => ?_)
    exact absurd ((guarded_run found).permitted.window id token) (UInt32.not_le.2 old)

end Bridge

end MachineBridge
