import MachineBridge.Proofs.Changes.Step
import MachineBridge.Proofs.Windows.Watchers

/-!
# MachineBridge.Proofs.Windows.Creations

The windows that an application has its toolkit create.  A window is created by the first task
of a queue that presents one, while the application does not have it, and then the call is made
whatever panics later (`creationStep_step`).

Each window is known by the watcher that was started with it, and there is one creation for
each watcher of an application (`createdOnce_run`).  As long as nothing closes a window no other
one is created under its token, and if there is none, one is created at most
(`createdUnder_of_held`, `createdUnder_of_absent`).
-/

namespace MachineBridge

open Relation (ReflTransGen)

/-- The window that an event creates, with its description. -/
def WindowEvent.creates? : WindowEvent → Option (Handle × WindowSpec)
  | .called (.create id spec) => some (id, spec)
  | _ => none

namespace Application

variable {N : Handle → Prop} {x x' : Application}

/-- The windows that an application had its toolkit create, with their descriptions, in order. -/
def creations (x : Application) : List (Handle × WindowSpec) := x.history.filterMap (·.creates?)

theorem creations_foldl_record (x : Application) (cs : List ToolkitCall) :
    (cs.foldl record x).creations =
      x.creations ++ cs.filterMap fun c => (WindowEvent.called c).creates? := by
  induction cs generalizing x with
  | nil => exact (List.append_nil _).symm
  | cons c rest ih =>
    have first : (x.record c).creations =
        x.creations ++ [WindowEvent.called c].filterMap (·.creates?) := List.filterMap_append ..
    rw [List.foldl_cons, ih, first, List.append_assoc]
    cases made : (WindowEvent.called c).creates? <;> simp [made]

/-- The call that creates a window is made, whether or not one of the three panics. -/
theorem creations_create (x : Application) (panics : ToolkitCall → Bool) (id : Handle)
    (spec : WindowSpec) :
    (x.recordUpToPanic panics [.create id spec, .show id, .bringToFront id]).creations =
      x.creations ++ [(id, spec)] := by
  have made : (upToPanic panics [.create id spec, .show id, .bringToFront id]).filterMap
      (fun c => (WindowEvent.called c).creates?) = [(id, spec)] := by
    rw [upToPanic]
    split
    · rfl
    · rw [upToPanic]
      split
      · rfl
      · rw [upToPanic]
        split <;> rfl
  rw [recordUpToPanic, creations_foldl_record, made]

/-- What happened stays in the history. -/
theorem history_of_changed (changed : ReflTransGen (Change N) x x') : x.history <+: x'.history := by
  induction changed with
  | refl => exact List.prefix_rfl
  | tail _ change ih =>
    refine ih.trans ?_
    cases change with
    | rests | posts => exact List.prefix_rfl
    | calls | creates | closes | closedByUser => exact List.prefix_append ..

/-- Windows that are marked as closed at most are not created. -/
theorem creations_of_marks (grows : x.history <+: x'.history)
    (unopened : ∀ id, x'.marks id = x.marks id ∨ x'.marks id = x.marks id ++ [.closed]) :
    x'.creations = x.creations := by
  obtain ⟨new, history⟩ := grows
  have none : new.filterMap (·.creates?) = [] := by
    refine List.filterMap_eq_nil_iff.2 fun e mem => Option.eq_none_iff_forall_ne_some.2 ?_
    rintro ⟨id, spec⟩ created
    have opened : WindowEvent.mark? id e = some .opened := by
      unfold WindowEvent.creates? at created
      split at created
      · cases created
        exact if_pos rfl
      · cases created
    have marked : .opened ∈ new.filterMap (WindowEvent.mark? id) :=
      List.mem_filterMap.2 ⟨e, mem, opened⟩
    have more : x'.marks id = x.marks id ++ new.filterMap (WindowEvent.mark? id) := by
      rw [marks, ← history, List.filterMap_append]
      rfl
    obtain same | closed := unopened id
    · rw [List.append_right_eq_self.1 (more.symm.trans same)] at marked
      cases marked
    · rw [List.append_cancel_left (more.symm.trans closed)] at marked
      cases List.mem_singleton.1 marked
  rw [creations, ← history, List.filterMap_append, none, List.append_nil]
  rfl

end Application

/-- A window that an application had created: the number of the watcher that was started with
it, its token and its description. -/
structure Creation where
  watcher : Nat
  id : Handle
  spec : WindowSpec
deriving DecidableEq, Repr

namespace Bridge

variable {b b' : Bridge} {env : Environment} {act : Action} {a k m i w : Nat} {id : Handle}
  {spec : WindowSpec} {x x' : Application} {actions more : List (Environment × Action)}

/-- The windows that an application had its toolkit create, with their descriptions, in order. -/
def creations (b : Bridge) (a : Nat) : List (Handle × WindowSpec) := (b.application a).creations

/-! ## one step -/

/-- No change but a task that opens a window marks one as opened. -/
theorem AppChange.unopened (h : AppChange b act a b' x x')
    (kept : ∀ id, x.watcher? id = none → x'.watcher? id = none) (id : Handle) :
    x'.marks id = x.marks id ∨ x'.marks id = x.marks id ++ [.closed] := by
  have closed {k : Handle} (closes : x.Closes k x') :
      x'.marks id = x.marks id ∨ x'.marks id = x.marks id ++ [.closed] := by
    by_cases own : id = k
    · subst own
      exact .inr closes.marked
    · exact .inl (closes.others id own).2
  cases h with
  | idle idle => exact .inl (idle.windows.marks id)
  | posted | quit | ended => exact .inl rfl
  | userClosed _ _ closes => exact closed closes
  | ran _ _ _ runs =>
    cases runs with
    | @opens k spec m i _ opens =>
      have held := opens.held
      rw [kept k opens.absent] at held
      cases held
    | forgets closes => exact closed closes
    | stops _ closes => exact closed closes
    | leaves _ same => exact .inl (same.marks id)

/-- A step that gives an application no window creates none. -/
theorem creations_step (kept : ∀ id, b.watcherOf? a id = none →
    (b.step env act).watcherOf? a id = none) :
    (b.step env act).creations a = b.creations a := by
  cases b.appStep_step env act a with
  | none absent absent' => rw [creations, creations, application, application, absent, absent']
  | added absent fresh => rw [creations, creations, application, application, absent, fresh]; rfl
  | @changed x x' found found' change =>
    have changed := changed_step env b.within_all b.owned_all (owned_all (b.step env act)) a
    simp only [watcherOf?_of_found found, watcherOf?_of_found found'] at kept
    rw [creations, creations]
    rw [application_of_found found, application_of_found found'] at changed ⊢
    exact Application.creations_of_marks (Application.history_of_changed changed)
      fun id => change.unopened kept id

/-- A task that presents a window creates it where there is none. -/
theorem creations_runPresent (env : Environment) (spec : WindowSpec) (m i : Nat)
    (there : b.applications[k]? = some x) (absent : b.watcherOf? k id = none) :
    (b.runPresent env k id spec m i).creations k = b.creations k ++ [(id, spec)] := by
  have after := b.getElem?_modifyApplication_twice k k (·.insertController id b.watchers.length)
    (·.recordUpToPanic (env.panics k) [.create id spec, .show id, .bringToFront id])
  rw [if_pos rfl, there, Option.map_some] at after
  rw [runPresent, show (b.applications[k]?).bind (·.watcher? id) = none from absent]
  refine (congrArg Application.creations (application_of_found after)).trans ?_
  rw [Application.creations_create, creations, application_of_found there]
  rfl

/-- The task that opens a window has it created as it says. -/
theorem creations_mainTurn
    (task : b.tasks k = .present id spec m i :: (b.mainTurn env k).tasks k)
    (creates : Creates b k id m i (b.mainTurn env k)) :
    (b.mainTurn env k).creations k = b.creations k ++ [(id, spec)] := by
  have turned := b.turnStep_mainTurn env k
  generalize b.mainTurn env k = b' at turned task creates ⊢
  cases turned with
  | waits _ => exact absurd task.symm (List.cons_ne_self _ _)
  | @runs x t rest _ there first =>
    have same := (tasks_dequeue there first).symm.trans task
    obtain rfl : t = .present id spec m i := (List.cons.inj same).1
    have absent : (b.dequeue k).watcherOf? k id = none :=
      ((b.undisturbed_dequeue k).held k id).trans creates.absent
    rw [runTask, creations_runPresent env spec m i (there_dequeue there) absent, creations,
      creations, application_of_found (there_dequeue there), application_of_found there]
    rfl
  | @ends x ts _ _ _ _ =>
    have same := (b.undisturbed_dequeue k).trans (undisturbed_discardTasks _ ts)
    have more := creates.watchers
    rw [same.watchers] at more
    exact absurd (List.self_eq_append_right.1 more) (List.cons_ne_nil _ _)

/-! ## what a run creates -/

def createdBy (a : Nat) (b : Bridge) (env : Environment) (act : Action) : List Creation :=
  (((b.step env act).creations a).drop (b.creations a).length).map fun made =>
    ⟨b.watchers.length, made.1, made.2⟩

/-- The windows that were created in an application in a run, in order. -/
def created (a : Nat) (b : Bridge) (actions : List (Environment × Action)) : List Creation :=
  b.collect (createdBy a) actions

/-- What a step does to the windows of an application, as far as it creates some. -/
inductive CreationStep (a : Nat) (b : Bridge) (env : Environment) (act : Action) : Prop
  | rests (quiet : createdBy a b env act = [])
      (same : (b.step env act).creations a = b.creations a)
      (kept : ∀ id, b.watcherOf? a id = none → (b.step env act).watcherOf? a id = none)
      (before : ∀ (w : Nat) (x' : Watcher), (b.step env act).watchers[w]? = some x' →
        x'.application = a → ∃ x, b.watchers[w]? = some x ∧ x.Later x')
  | creates {m i : Nat} {id : Handle} {spec : WindowSpec} (cause : act = .mainTurn a)
      (task : b.tasks a = .present id spec m i :: (b.step env act).tasks a)
      (creates : Creates b a id m i (b.step env act))
      (made : createdBy a b env act = [⟨b.watchers.length, id, spec⟩])
      (more : (b.step env act).creations a = b.creations a ++ [(id, spec)])

/-- A step that gives an application no window leaves its watchers to those that there are. -/
theorem CreationStep.of_kept
    (kept : ∀ id, b.watcherOf? a id = none → (b.step env act).watcherOf? a id = none)
    (before : ∀ (w : Nat) (x' : Watcher), (b.step env act).watchers[w]? = some x' →
      x'.application = a → ∃ x, b.watchers[w]? = some x ∧ x.Later x') :
    CreationStep a b env act := by
  have same := creations_step kept
  refine .rests ?_ same kept before
  rw [createdBy, same, List.drop_length]
  rfl

/-- Every step creates the window of its task, or none. -/
theorem creationStep_step (a : Nat) (b : Bridge) (env : Environment) (act : Action) :
    CreationStep a b env act := by
  have step := b.watcherStep_step env act
  -- Where there are no more watchers, each of them was there before.
  have before (few : (b.step env act).watchers.length = b.watchers.length) (w : Nat)
      (x' : Watcher) (found' : (b.step env act).watchers[w]? = some x') :
      ∃ x, b.watchers[w]? = some x ∧ x.Later x' := by
    obtain earlier | ⟨-, -, -, -, -, -, -, -, rfl, -⟩ := step.watcher_before found'
    · exact earlier
    · have bound := (List.getElem?_eq_some_iff.1 found').1
      omega
  cases step with
  | undisturbed same =>
    refine .of_kept (fun id absent => (same.held a id).trans absent) fun w x' found' _ =>
      before (by rw [same.watchers]) w x' found'
  | ended _ same =>
    refine .of_kept (fun id absent => (same.held a id).trans absent) fun w x' found' _ =>
      before (by rw [same.watchers, modifyWatcher, List.length_modify]) w x' found'
  | closed _ shuts =>
    refine .of_kept (fun id absent => ?_) fun w x' found' _ =>
      before (by rw [shuts.watchers, List.length_modify]) w x' found'
    rw [shuts.lost]
    split
    · rfl
    · exact absent
  | @created k m i id spec cause task states creates =>
    subst cause
    by_cases own : a = k
    · subst own
      have more := creations_mainTurn task creates
      refine .creates rfl task creates ?_ more
      rw [createdBy, Bridge.step, more, List.drop_left]
      rfl
    · refine .of_kept (fun j absent => ?_) fun w x' found' mine => ?_
      · rw [creates.held, if_neg fun both => own both.1]
        exact absent
      · rw [creates.watchers, List.getElem?_append] at found'
        split at found'
        · exact ⟨x', found', .refl x'⟩
        · have new := List.mem_singleton.1 (List.mem_of_getElem? found')
          rw [new] at mine
          exact absurd mine.symm own

/-- The creations of a run are those of its parts. -/
theorem created_append (a : Nat) (b : Bridge) (first second : List (Environment × Action)) :
    created a b (first ++ second) = created a b first ++ created a (b.run first) second :=
  b.collect_append _ first second

/-- The windows that an application had created come one with each of its watchers. -/
structure CreatedOnce (b : Bridge) (a : Nat) (created : List Creation) : Prop where
  recorded : (created.map fun c => (c.id, c.spec)) = b.creations a
  once : (created.map (·.watcher)).Nodup
  known : ∀ c ∈ created, ∃ x, b.watchers[c.watcher]? = some x ∧ x.application = a ∧ x.id = c.id
  all : ∀ (w : Nat) (x : Watcher), b.watchers[w]? = some x → x.application = a →
    ∃ c ∈ created, c.watcher = w

/-- A window that a step creates gets a watcher of its own. -/
theorem CreatedOnce.step {created : List Creation} (h : b.CreatedOnce a created)
    (env : Environment) (act : Action) :
    (b.step env act).CreatedOnce a (created ++ createdBy a b env act) := by
  have known {c : Creation} (mem : c ∈ created) : ∃ x, (b.step env act).watchers[c.watcher]? =
      some x ∧ x.application = a ∧ x.id = c.id := by
    obtain ⟨x, found, own, named⟩ := h.known c mem
    obtain ⟨x', found', later⟩ := watcher_step env act found
    exact ⟨x', found', later.application.trans own, later.id.trans named⟩
  cases creationStep_step a b env act with
  | rests quiet same _ before =>
    rw [quiet, List.append_nil]
    refine ⟨h.recorded.trans same.symm, h.once, fun c => known, fun w x' found' own => ?_⟩
    obtain ⟨x, found, later⟩ := before w x' found' own
    exact h.all w x found (later.application.symm.trans own)
  | @creates m i id spec _ _ creates made more =>
    rw [made]
    constructor
    · rw [List.map_append, h.recorded, more]
      rfl
    · rw [List.map_append]
      refine List.nodup_append.2 ⟨h.once, List.pairwise_singleton _ _, fun w mem j new => ?_⟩
      obtain ⟨c, earlier, rfl⟩ := List.mem_map.1 mem
      obtain ⟨x, found, -⟩ := h.known c earlier
      rw [List.mem_singleton.1 new]
      exact Nat.ne_of_lt (List.getElem?_eq_some_iff.1 found).1
    · intro c mem
      obtain earlier | new := List.mem_append.1 mem
      · exact known earlier
      · cases List.mem_singleton.1 new
        exact ⟨_, by rw [creates.watchers]; exact List.getElem?_concat_length, rfl, rfl⟩
    · intro w x' found' own
      rw [creates.watchers, List.getElem?_append] at found'
      split at found'
      · obtain ⟨c, mem, same⟩ := h.all w x' found' own
        exact ⟨c, List.mem_append_left _ mem, same⟩
      · have bound := (List.getElem?_eq_some_iff.1 found').1
        rw [List.length_singleton] at bound
        refine ⟨_, List.mem_append_right _ List.mem_cons_self, ?_⟩
        show b.watchers.length = w
        omega

/-- After every run there is one creation for each watcher of an application. -/
theorem createdOnce_run (a : Nat) (actions : List (Environment × Action)) :
    (({} : Bridge).run actions).CreatedOnce a (created a {} actions) := by
  induction actions using List.reverseRecOn with
  | nil =>
    refine ⟨rfl, List.nodup_nil, fun c mem => ?_, fun w x found => ?_⟩
    · cases mem
    · cases found
  | append_singleton before s ih =>
    rw [run_append, created, collect_append_singleton]
    exact ih.step s.1 s.2

/-! ## windows that stay open -/

/-- A step leaves a window open that an application has. -/
def LeavesOpen (a : Nat) (id : Handle) (b : Bridge) (env : Environment) (act : Action) : Prop :=
  ∀ w, b.watcherOf? a id = some w → (b.step env act).watcherOf? a id = some w

/-- The windows that were created in an application under a token. -/
def createdUnder (a : Nat) (id : Handle) (b : Bridge) (actions : List (Environment × Action)) :
    List Creation := (created a b actions).filter (·.id = id)

theorem createdUnder_cons (a : Nat) (id : Handle) (b : Bridge) (s : Environment × Action)
    (rest : List (Environment × Action)) : createdUnder a id b (s :: rest) =
      (createdBy a b s.1 s.2).filter (·.id = id) ++ createdUnder a id (b.step s.1 s.2) rest :=
  List.filter_append ..

/-- While a window stays open, no other one is created under its token. -/
theorem createdUnder_of_held (held : b.watcherOf? a id = some w)
    (stays : b.Along (LeavesOpen a id) more) :
    createdUnder a id b more = [] ∧ (b.run more).watcherOf? a id = some w := by
  induction more generalizing b with
  | nil => exact ⟨rfl, held⟩
  | cons s rest ih =>
    obtain ⟨none, last⟩ := ih (stays.1 w held) stays.2
    refine ⟨?_, last⟩
    rw [createdUnder_cons, none, List.append_nil]
    cases creationStep_step a b s.1 s.2 with
    | rests quiet _ _ _ => rw [quiet]; rfl
    | @creates m i j spec _ _ creates made _ =>
      have other : j ≠ id := by
        rintro rfl
        rw [creates.absent] at held
        cases held
      rw [made, List.filter_cons_of_neg (by simpa using other), List.filter_nil]

/-- What an application has, after it did not have a window and none was closed, it has had
created once. -/
theorem createdUnder_of_absent (absent : b.watcherOf? a id = none)
    (stays : b.Along (LeavesOpen a id) more) :
    createdUnder a id b more = [] ∧ (b.run more).watcherOf? a id = none ∨
      ∃ c, createdUnder a id b more = [c] ∧ (b.run more).watcherOf? a id = some c.watcher := by
  induction more generalizing b with
  | nil => exact .inl ⟨rfl, absent⟩
  | cons s rest ih =>
    rw [createdUnder_cons]
    cases creationStep_step a b s.1 s.2 with
    | rests quiet _ kept _ =>
      rw [quiet]
      exact ih (kept id absent) stays.2
    | @creates m i j spec _ _ creates made _ =>
      rw [made]
      by_cases own : j = id
      · subst own
        have held : (b.step s.1 s.2).watcherOf? a j = some b.watchers.length := by
          rw [creates.held, if_pos ⟨rfl, rfl⟩]
        obtain ⟨none, last⟩ := createdUnder_of_held held stays.2
        right
        refine ⟨⟨b.watchers.length, j, spec⟩, ?_, last⟩
        rw [none, List.filter_cons_of_pos (by simp)]
        rfl
      · have still : (b.step s.1 s.2).watcherOf? a id = none := by
          rw [creates.held, if_neg fun both => own both.2.symm]
          exact absent
        rw [List.filter_cons_of_neg (by simpa using own), List.filter_nil]
        exact ih still stays.2

end Bridge

end MachineBridge
