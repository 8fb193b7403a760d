import MachineBridge.Proofs.Machines
import Mathlib.Data.List.Induction

/-!
# MachineBridge.Proofs.History

What a run did, as far as later steps depend on it.  `Along` states a condition on every
step of a run, in the bridge in which the step is taken, `latest?` finds the latest step
with an answer of some kind, and `collect` lists all such answers in order.

The window of a live machine is what the latest accepted request made it
(`windowRecorded_run`); its token stays the same until the machine is torn down
(`keepsToken_run`).
-/

namespace MachineBridge

namespace Bridge

variable {α : Type}

/-! ## along a run -/

/-- Every step of a run satisfies a condition when it is taken. -/
def Along (P : Bridge → Environment → Action → Prop) (b : Bridge) :
    List (Environment × Action) → Prop
  | [] => True
  | (env, act) :: rest => P b env act ∧ (b.step env act).Along P rest

/-- A condition holds along a run exactly if it does along its parts. -/
theorem along_append {P : Bridge → Environment → Action → Prop} (b : Bridge)
    (first second : List (Environment × Action)) :
    b.Along P (first ++ second) ↔ b.Along P first ∧ (b.run first).Along P second := by
  induction first generalizing b with
  | nil => exact ⟨fun h => ⟨trivial, h⟩, fun h => h.2⟩
  | cons s first ih =>
    rw [List.cons_append, Along, ih, Along, and_assoc]
    rfl

/-- A weaker condition holds along the run as well. -/
theorem Along.mono {P Q : Bridge → Environment → Action → Prop}
    (h : ∀ b env act, P b env act → Q b env act) {b : Bridge}
    {actions : List (Environment × Action)} (along : b.Along P actions) : b.Along Q actions := by
  induction actions generalizing b with
  | nil => trivial
  | cons s rest ih => exact ⟨h b s.1 s.2 along.1, ih along.2⟩

/-- What a condition on the steps says of the actions alone holds of all of them. -/
theorem Along.forall {P : Bridge → Environment → Action → Prop} {Q : Environment → Action → Prop}
    (h : ∀ b env act, P b env act → Q env act) {b : Bridge}
    {actions : List (Environment × Action)} (along : b.Along P actions) :
    ∀ s ∈ actions, Q s.1 s.2 := by
  induction actions generalizing b with
  | nil => simp
  | cons s rest ih => exact List.forall_mem_cons.2 ⟨h b s.1 s.2 along.1, ih along.2⟩

/-- Two conditions that every step of a run satisfies are one. -/
theorem Along.and {P Q R : Bridge → Environment → Action → Prop}
    (h : ∀ b env act, P b env act → Q b env act → R b env act) {b : Bridge}
    {actions : List (Environment × Action)} (first : b.Along P actions)
    (second : b.Along Q actions) : b.Along R actions := by
  induction actions generalizing b with
  | nil => trivial
  | cons s rest ih => exact ⟨h b s.1 s.2 first.1 second.1, ih first.2 second.2⟩

/-- A condition on the actions alone that all of them satisfy holds along the run. -/
theorem along_of_forall {P : Bridge → Environment → Action → Prop} {Q : Action → Prop}
    (h : ∀ b env act, Q act → P b env act) {b : Bridge} {actions : List (Environment × Action)}
    (all : ∀ s ∈ actions, Q s.2) : b.Along P actions := by
  induction actions generalizing b with
  | nil => trivial
  | cons s rest ih =>
    obtain ⟨first, later⟩ := List.forall_mem_cons.1 all
    exact ⟨h b s.1 s.2 first, ih later⟩

instance decidableAlong {P : Bridge → Environment → Action → Prop}
    [∀ b env act, Decidable (P b env act)] :
    ∀ (b : Bridge) (actions : List (Environment × Action)), Decidable (b.Along P actions)
  | _, [] => inferInstanceAs (Decidable True)
  | b, (env, act) :: rest =>
    have := decidableAlong (P := P) (b.step env act) rest
    inferInstanceAs (Decidable (P b env act ∧ (b.step env act).Along P rest))

/-- The answer of the latest step of a run that has one. -/
def latest? (f : Bridge → Environment → Action → Option α) (b : Bridge) :
    List (Environment × Action) → Option α
  | [] => none
  | (env, act) :: rest => ((b.step env act).latest? f rest).or (f b env act)

/-- The latest answer of a run is that of its last part, if that has one. -/
theorem latest?_append (f : Bridge → Environment → Action → Option α) (b : Bridge)
    (first second : List (Environment × Action)) :
    b.latest? f (first ++ second) = ((b.run first).latest? f second).or (b.latest? f first) := by
  induction first generalizing b with
  | nil => rw [latest?, Option.or_none]; rfl
  | cons s first ih =>
    rw [List.cons_append, latest?, ih, latest?, Option.or_assoc]
    rfl

/-- The last step is the latest, if it has an answer. -/
theorem latest?_append_singleton (f : Bridge → Environment → Action → Option α) (b : Bridge)
    (before : List (Environment × Action)) (s : Environment × Action) :
    b.latest? f (before ++ [s]) = (f (b.run before) s.1 s.2).or (b.latest? f before) := by
  rw [latest?_append]
  rfl

/-- The answers of all steps of a run, in order. -/
def collect (f : Bridge → Environment → Action → List α) (b : Bridge) :
    List (Environment × Action) → List α
  | [] => []
  | (env, act) :: rest => f b env act ++ (b.step env act).collect f rest

/-- The answers of a run are those of its parts, one after the other. -/
theorem collect_append (f : Bridge → Environment → Action → List α) (b : Bridge)
    (first second : List (Environment × Action)) :
    b.collect f (first ++ second) = b.collect f first ++ (b.run first).collect f second := by
  induction first generalizing b with
  | nil => rfl
  | cons s first ih =>
    rw [List.cons_append, collect, ih, collect, List.append_assoc]
    rfl

theorem collect_append_singleton (f : Bridge → Environment → Action → List α) (b : Bridge)
    (before : List (Environment × Action)) (s : Environment × Action) :
    b.collect f (before ++ [s]) = b.collect f before ++ f (b.run before) s.1 s.2 := by
  rw [collect_append, collect, collect, List.append_nil]

/-! ## requests for windows -/

/-- The application and the description of a window that an action asks for, if it is a
request to open the window of the given machine that passes all checks. -/
def acceptedStart? (b : Bridge) (m : Nat) : Action → Option (Nat × WindowSpec)
  | .startGraphics k a width height options =>
    match b.admitted k PlatformVersion.forStopAndGraphics with
    | .ok _ =>
      if k = m ∧ WindowSpec.isPositiveSize width height = true then
        some (a, .ofOptions width height options)
      else none
    | .error _ => none
  | _ => none

/-- What the latest accepted request for the window of a machine asked for. -/
def latestStart? (m : Nat) (actions : List (Environment × Action)) : Option (Nat × WindowSpec) :=
  ({} : Bridge).latest? (fun b _ act => b.acceptedStart? m act) actions

/-- What a request that is let pass makes of the window.  It is open afterwards if the
application accepts the task. -/
theorem skeleton?_present {b : Bridge} {m : Nat} {machine : Machine} {required : UInt32}
    (admitted : b.admitted m required = .ok machine) (a : Nat) (spec : WindowSpec) :
    ∃ isOpen, (b.Accepting a → isOpen = true) ∧
      ((b.openWindow m machine.window a spec).present m a (b.windowToken m machine.window).2
        spec).1.skeleton? m = some { machine.skeleton with
          window :=
            ⟨isOpen, some (machine.window.token.getD ⟨b.registry.next⟩), some a, some spec⟩ } := by
  have opened := (openWindow_of_admitted admitted a spec).2
  have same : (b.openWindow m machine.window a spec).Accepting a ↔ b.Accepting a := by
    rw [Accepting, applications_openWindow]
    rfl
  obtain ⟨-, quiet⟩ | ⟨refusing, quiet⟩ := quiet_present (b.openWindow m machine.window a spec) m a
    (b.windowToken m machine.window).2 spec
  · refine ⟨true, fun _ => rfl, ?_⟩
    rw [quiet.skeletons, opened, Function.update_self]
    rfl
  · refine ⟨false, fun accepting => absurd (same.2 accepting) refusing, ?_⟩
    rw [quiet.skeletons, skeleton?_closeWindow, if_pos rfl, opened, Function.update_self]
    rfl

/-- A request that passes all checks sets the application and the description of the window. -/
theorem skeleton?_of_acceptedStart {b : Bridge} {m a : Nat} {spec : WindowSpec} {act : Action}
    (env : Environment) (h : b.acceptedStart? m act = some (a, spec)) :
    ∃ s isOpen, b.skeleton? m = some s ∧ s.Admits PlatformVersion.forStopAndGraphics ∧
      (b.Accepting a → isOpen = true) ∧
      (b.step env act).skeleton? m = some { s with
        window :=
          ⟨isOpen, some (s.window.token.getD ⟨b.registry.next⟩), some a, some spec⟩ } := by
  unfold acceptedStart? at h
  split at h
  · next k a' width height options =>
    split at h
    · next machine admitted =>
      split at h
      · next both =>
        obtain ⟨rfl, positive⟩ := both
        cases h
        obtain ⟨found, admits⟩ := skeleton?_of_admitted admitted
        obtain ⟨isOpen, accepting, after⟩ :=
          skeleton?_present admitted a (.ofOptions width height options)
        refine ⟨machine.skeleton, isOpen, found, admits, accepting, ?_⟩
        rw [step, startGraphics, admitted]
        simp only [positive, if_true]
        exact after
      · contradiction
    · contradiction
  · contradiction

/-- A request to open a window that is let pass is accepted. -/
theorem acceptedStart?_startGraphics {b : Bridge} {m a : Nat} {s : MachineSkeleton}
    {width height : Float} {options : GraphicsOptions} (found : b.skeleton? m = some s)
    (admits : s.Admits PlatformVersion.forStopAndGraphics)
    (positive : WindowSpec.isPositiveSize width height = true) :
    b.acceptedStart? m (.startGraphics m a width height options) =
      some (a, .ofOptions width height options) := by
  rw [skeleton?, Option.map_eq_some_iff] at found
  obtain ⟨machine, found, rfl⟩ := found
  rw [acceptedStart?, admitted_eq_ok_iff.2 ⟨found, admits⟩]
  exact if_pos ⟨rfl, positive⟩

/-! ## the window of a machine -/

/-- The window of a machine is what the latest accepted request made it, as long as the
machine is live; before that and afterwards there is none. -/
structure WindowHistory (s : MachineSkeleton) (latest : Option (Nat × WindowSpec)) : Prop where
  application : s.phase = .live → s.window.application = latest.map Prod.fst
  spec : s.phase = .live → s.window.spec = latest.map Prod.snd
  token : s.phase = .live → s.window.token.isSome = latest.isSome
  idle : s.phase ≠ .live → s.window = {}
  fresh : s.phase = .creating → latest = none

/-- What a run has made of the window of a machine, if there is the machine. -/
def WindowRecorded (b : Bridge) (m : Nat) (latest : Option (Nat × WindowSpec)) : Prop :=
  match b.skeleton? m with
  | none => latest = none
  | some s => WindowHistory s latest

/-- A request that is accepted is the latest from then on. -/
theorem WindowRecorded.of_acceptedStart {b : Bridge} {m : Nat} {a : Nat} {spec : WindowSpec}
    {act : Action} (env : Environment) (h : b.acceptedStart? m act = some (a, spec)) :
    (b.step env act).WindowRecorded m (some (a, spec)) := by
  obtain ⟨s, isOpen, -, admits, -, after⟩ := skeleton?_of_acceptedStart env h
  rw [WindowRecorded, after]
  exact
    { application := fun _ => rfl
      spec := fun _ => rfl
      token := fun _ => rfl
      idle := fun idle => absurd admits.1 idle
      fresh := fun fresh => absurd (admits.1.symm.trans fresh) (by simp) }

/-- A request without effect on the history can only show the window again as it is. -/
theorem Requests.reopening {b : Bridge} {m a : Nat} {s : MachineSkeleton} {spec : WindowSpec}
    {act : Action} (found : b.skeleton? m = some s)
    (admits : s.Admits PlatformVersion.forStopAndGraphics)
    (requests : Requests m s.window a spec act) (h : b.acceptedStart? m act = none) :
    s.window.application = some a ∧ s.window.token.isSome = true ∧ s.window.spec = some spec := by
  cases requests with
  | start positive _ =>
    rw [acceptedStart?_startGraphics found admits positive] at h
    contradiction
  | again known =>
    obtain ⟨application, token, spec⟩ := WindowState.reopening?_eq_some_iff.1 known
    exact ⟨application, by rw [token]; rfl, spec⟩

/-- A step records a start that it accepts. -/
theorem WindowRecorded.step {b : Bridge} {m : Nat} {latest : Option (Nat × WindowSpec)}
    (h : b.WindowRecorded m latest) (env : Environment) (act : Action) :
    (b.step env act).WindowRecorded m ((b.acceptedStart? m act).or latest) := by
  cases acc : b.acceptedStart? m act with
  | some start => exact WindowRecorded.of_acceptedStart env acc
  | none =>
    rw [Option.none_or]
    have step := b.skeletonStep_step env act m
    unfold WindowRecorded
    generalize (b.step env act).skeleton? m = after at step
    cases step with
    | same => exact h
    | begun fresh =>
      rw [WindowRecorded, fresh] at h
      exact ⟨by simp, by simp, by simp, fun _ => rfl, fun _ => h⟩
    | created found creating outcome =>
      rw [WindowRecorded, found] at h
      have none : latest = none := h.fresh creating
      have idle := h.idle (by simp [creating])
      dsimp only
      rw [none]
      exact ⟨fun _ => by rw [idle]; rfl, fun _ => by rw [idle]; rfl, fun _ => by rw [idle]; rfl,
        fun _ => idle, fun _ => rfl⟩
    | released => exact ⟨by simp, by simp, by simp, fun _ => rfl, by simp⟩
    | finished found releasing =>
      rw [WindowRecorded, found] at h
      exact ⟨by simp, by simp, by simp, fun _ => h.idle (by simp [releasing]), by simp⟩
    | opened found admits requests _ | refused found admits requests _ =>
      rw [WindowRecorded, found] at h
      obtain ⟨application, token, spec⟩ := requests.reopening found admits acc
      exact
        { application := fun live => application.symm.trans (h.application live)
          spec := fun live => spec.symm.trans (h.spec live)
          token := fun live => token.symm.trans (h.token live)
          idle := fun idle => absurd admits.1 idle
          fresh := h.fresh }
    | closed found _ _ =>
      rw [WindowRecorded, found] at h
      exact
        { application := h.application
          spec := h.spec
          token := h.token
          idle := fun idle => by
            show WindowState.closed _ = _
            rw [h.idle idle]
            rfl
          fresh := h.fresh }

/-- After every run the window of a machine is what the latest accepted request made it. -/
theorem windowRecorded_run (actions : List (Environment × Action)) (m : Nat) :
    (({} : Bridge).run actions).WindowRecorded m (latestStart? m actions) := by
  induction actions using List.reverseRecOn with
  | nil => rfl
  | append_singleton before s ih =>
    rw [run_append, latestStart?, latest?_append_singleton]
    exact ih.step s.1 s.2

/-- A machine that has a window token is live. -/
theorem live_of_token {actions : List (Environment × Action)} {m : Nat} {machine : Machine}
    {id : Handle} (found : (({} : Bridge).run actions).machines[m]? = some machine)
    (token : machine.window.token = some id) : machine.phase = .live := by
  have recorded := windowRecorded_run actions m
  rw [WindowRecorded, skeleton?_of_found found] at recorded
  by_contra idle
  have gone : machine.window = {} := WindowHistory.idle recorded idle
  rw [gone] at token
  cases token

/-! ## the token of a window -/

/-- A machine still has its window token, or its teardown has begun. -/
def KeepsToken (id : Handle) (s : MachineSkeleton) : Prop :=
  s.window.token = some id ∨ s.phase = .releasing ∨ s.phase = .finalized

/-- The token of a window stays that of its machine until the machine is torn down. -/
theorem keepsToken_step {b : Bridge} {m : Nat} {s : MachineSkeleton} {id : Handle}
    (found : b.skeleton? m = some s) (h : KeepsToken id s) (env : Environment) (act : Action) :
    ∃ s', (b.step env act).skeleton? m = some s' ∧ KeepsToken id s' := by
  have step := b.skeletonStep_step env act m
  generalize (b.step env act).skeleton? m = after at step
  cases step with
  | same => exact ⟨s, found, h⟩
  | begun fresh => rw [found] at fresh; contradiction
  | created found' creating _ =>
    cases found.symm.trans found'
    refine ⟨_, rfl, .inl ?_⟩
    obtain h | h | h := h
    · exact h
    · rw [h] at creating; contradiction
    · rw [h] at creating; contradiction
  | released => exact ⟨_, rfl, .inr (.inl rfl)⟩
  | finished => exact ⟨_, rfl, .inr (.inr rfl)⟩
  | opened found' admits _ _ | refused found' admits _ _ =>
    cases found.symm.trans found'
    refine ⟨_, rfl, .inl ?_⟩
    obtain h | h | h := h
    · show some (s.window.token.getD _) = some id
      rw [h, Option.getD_some]
    · exact absurd (admits.1.symm.trans h) (by simp)
    · exact absurd (admits.1.symm.trans h) (by simp)
  | closed found' _ _ =>
    cases found.symm.trans found'
    exact ⟨_, rfl, h⟩

/-- A window token never changes before the teardown of its machine. -/
theorem keepsToken_run {b : Bridge} {m : Nat} {s : MachineSkeleton} {id : Handle}
    (found : b.skeleton? m = some s) (h : KeepsToken id s) (actions : List (Environment × Action)) :
    ∃ s', (b.run actions).skeleton? m = some s' ∧ KeepsToken id s' := by
  induction actions generalizing b s with
  | nil => exact ⟨s, found, h⟩
  | cons a rest ih =>
    obtain ⟨s', found', h'⟩ := keepsToken_step found h a.1 a.2
    exact ih found' h'

end Bridge

end MachineBridge
