import MachineBridge.Proofs.Tokens.Owner
import MachineBridge.Proofs.Windows.Step

/-!
# MachineBridge.Proofs.Windows.Queue

What holds of every application after every run.

* The marks of a window are rounds (`alternates_run`).
* A window that an application has, or is about to present, has a token that was issued
  (`issued_run`); a token that it is about to forget is retired: no machine will ever
  have it again (`retired_run`).
* A main loop that nobody asks to quit keeps running (`alive_run`).
-/

namespace MachineBridge

def MainTask.presents (id : Handle) : MainTask → Bool
  | .present k _ _ _ => k = id
  | _ => false

namespace Application

def isPresenting (x : Application) (id : Handle) : Bool := x.queue.tasks.any (·.presents id)

def holds (x : Application) (id : Handle) : Bool := (x.watcher? id).isSome

/-- The application has a window or is about to present it. -/
def Mentions (x : Application) (id : Handle) : Prop := x.holds id = true ∨ x.isPresenting id = true

theorem tasks_post (x : Application) (t : MainTask) :
    (x.post t).queue.tasks = x.queue.tasks ++ [t] := by
  simp [post, MainQueue.tasks, MainQueue.Message.task?]

theorem tasks_of_messages {q : MainQueue MainTask} {t : MainTask} {rest : List (Message MainTask)}
    (h : q.messages = .run t :: rest) :
    q.tasks = t :: ({ q with messages := rest } : MainQueue MainTask).tasks := by
  simp [MainQueue.tasks, h, MainQueue.Message.task?]

theorem tasks_quit (q : MainQueue MainTask) : q.quit.tasks = q.tasks := by
  unfold MainQueue.quit
  split
  · simp [MainQueue.tasks, MainQueue.Message.task?]
  · rfl

/-- What the application holds after a task it held before, or the task presents it. -/
theorem Runs.holds {x x' : Application} {t : MainTask} (h : x.Runs t x') {id : Handle}
    (held : x'.holds id = true) : x.holds id = true ∨ t.presents id = true := by
  unfold Application.holds at *
  cases h with
  | @opens k spec m i _ h =>
    by_cases same : id = k
    · subst same
      exact .inr (by simp [MainTask.presents])
    · rw [(h.others id same).1] at held
      exact .inl held
  | @forgets k _ h | @stops k w _ _ h =>
    by_cases same : id = k
    · subst same
      rw [h.absent] at held
      contradiction
    · rw [(h.others id same).1] at held
      exact .inl held
  | leaves _ h =>
    rw [h.watchers] at held
    exact .inl held

/-- Only the window that is closed is lost. -/
theorem Closes.eq_of_lost {x x' : Application} {k id : Handle} (h : x.Closes k x')
    (held : x.holds id = true) (lost : x'.holds id = false) : k = id := by
  by_contra other
  rw [Application.holds, (h.others id (Ne.symm other)).1] at lost
  rw [Application.holds, lost] at held
  contradiction

/-- A task takes a window away only if it forgets it, or closes it for its own watcher. -/
theorem Runs.of_lost {x x' : Application} {t : MainTask} (h : x.Runs t x') {id : Handle}
    (held : x.holds id = true) (lost : x'.holds id = false) :
    t = .forget id ∨ ∃ w, t = .closeForStop id w ∧ x.watcher? id = some w := by
  cases h with
  | @opens k spec m i _ h =>
    unfold Application.holds at held lost
    by_cases same : id = k
    · subst same
      rw [h.held] at lost
      contradiction
    · rw [(h.others id same).1, held] at lost
      contradiction
  | forgets h => exact .inl (by rw [h.eq_of_lost held lost])
  | @stops k w _ watched h =>
    cases h.eq_of_lost held lost
    exact .inr ⟨w, rfl, watched⟩
  | leaves _ h =>
    unfold Application.holds at held lost
    rw [h.watchers, held] at lost
    contradiction

end Application

namespace Bridge

variable {b b' : Bridge} {act : Action} {a : Nat} {x x' : Application} {id : Handle}

/-! ## one step -/

/-- A task that is queued was queued before, or it has just been handed over. -/
theorem AppChange.mem_tasks (h : AppChange b act a b' x x') {t : MainTask}
    (ht : t ∈ x'.queue.tasks) : t ∈ x.queue.tasks ∨ Posts b act a b' t := by
  cases h with
  | idle h => rw [h.queue] at ht; exact .inl ht
  | posted posts =>
    rw [Application.tasks_post, List.mem_append, List.mem_singleton] at ht
    obtain ht | rfl := ht
    · exact .inl ht
    · exact .inr posts
  | quit _ => rw [Application.tasks_quit] at ht; exact .inl ht
  | userClosed _ queue _ => rw [queue] at ht; exact .inl ht
  | ran _ task queue _ =>
    rw [queue] at ht
    rw [Application.tasks_of_messages task]
    exact .inl (List.mem_cons_of_mem _ ht)
  | ended _ _ => simp [MainQueue.finish, MainQueue.tasks] at ht

/-- What the application holds it held before, or it was about to present it. -/
theorem AppChange.holds (h : AppChange b act a b' x x') {id : Handle}
    (held : x'.holds id = true) : x.holds id = true ∨ x.isPresenting id = true := by
  cases h with
  | idle h =>
    rw [Application.holds, h.windows.watchers] at held
    exact .inl held
  | posted _ => exact .inl held
  | quit _ => exact .inl held
  | ended _ _ => exact .inl held
  | @userClosed k _ _ _ closes =>
    rw [Application.holds] at held
    by_cases same : id = k
    · subst same
      rw [closes.absent] at held
      contradiction
    · rw [(closes.others id same).1] at held
      exact .inl held
  | ran _ task _ runs =>
    refine (runs.holds held).imp_right fun presents => ?_
    rw [Application.isPresenting, Application.tasks_of_messages task, List.any_cons, presents]
    rfl

/-- A window comes to an application by a request only. -/
theorem AppChange.mentions (h : AppChange b act a b' x x') {id : Handle} (hx : x'.Mentions id) :
    x.Mentions id ∨ ∃ spec m i, Posts b act a b' (.present id spec m i) := by
  obtain held | presenting := hx
  · exact .inl (h.holds held)
  · obtain ⟨t, ht, presents⟩ := List.any_eq_true.1 presenting
    obtain ht | posts := h.mem_tasks ht
    · exact .inl (.inr (List.any_eq_true.2 ⟨t, ht, presents⟩))
    · cases t with
      | present k spec m i =>
        obtain rfl : k = id := by simpa [MainTask.presents] using presents
        exact .inr ⟨spec, m, i, posts⟩
      | _ => contradiction

/-- The marks of a window stay rounds. -/
theorem AppChange.alternates (h : AppChange b act a b' x x') {id : Handle}
    (hx : x.Alternates id) : x'.Alternates id := by
  cases h with
  | idle h => exact h.windows.alternates hx
  | posted _ => exact hx
  | quit _ => exact hx
  | ended _ _ => exact hx
  | userClosed _ _ closes => exact closes.alternates hx
  | ran _ _ _ runs => exact runs.alternates hx

/-! ## every run -/

/-- A property of applications that holds of a new one and is kept by every step holds of
each application after every run. -/
theorem application_run {P : Bridge → Nat → Application → Prop} (allowed : Action → Prop)
    (added : ∀ b a, P b a {})
    (changed : ∀ b env act a x x', b.Reachable → allowed act →
      AppChange b act a (b.step env act) x x' → P b a x → P (b.step env act) a x')
    {actions : List (Environment × Action)} (all : ∀ s ∈ actions, allowed s.2) {a : Nat}
    {x : Application} (found : (({} : Bridge).run actions).applications[a]? = some x) :
    P (({} : Bridge).run actions) a x := by
  induction actions using List.reverseRecOn generalizing x with
  | nil => simp [run] at found
  | append_singleton before s ih =>
    rw [run_append] at found ⊢
    have earlier := fun x h => ih (fun t ht => all t (List.mem_append_left [s] ht)) (x := x) h
    obtain ⟨-, absent'⟩ | ⟨-, fresh⟩ | ⟨found₀, found', change⟩ :=
      (({} : Bridge).run before).appStep_step s.1 s.2 a
    · cases found.symm.trans absent'
    · cases found.symm.trans fresh
      exact added _ a
    · cases found.symm.trans found'
      exact changed _ s.1 s.2 a _ x ⟨before, rfl⟩ (all s (by simp)) change (earlier _ found₀)

/-- The windows of every application alternate between open and closed. -/
theorem alternates_run {actions : List (Environment × Action)}
    (found : (({} : Bridge).run actions).applications[a]? = some x) (id : Handle) :
    x.Alternates id :=
  application_run (P := fun _ _ x => x.Alternates id) (fun _ => True) (fun _ _ => ⟨0, rfl⟩)
    (fun _ _ _ _ _ _ _ _ change hx => change.alternates hx) (fun _ _ => trivial) found

/-- An application has a window exactly when the last mark of the window is its creation. -/
theorem getLast?_marks_run {actions : List (Environment × Action)}
    (found : (({} : Bridge).run actions).applications[a]? = some x) (id : Handle) :
    (x.marks id).getLast? = some .opened ↔ x.holds id = true := by
  obtain ⟨n, marks⟩ := alternates_run found id
  rw [marks, getLast?_rounds, Application.holds]

/-- A window that is presented is the window of a machine. -/
theorem Posts.token? {id : Handle} {spec : WindowSpec} {m i : Nat}
    (h : Posts b act a b' (.present id spec m i)) : b'.token? (.windowBinding m) = some id := by
  cases h with
  | present _ _ _ registered =>
    obtain ⟨s', found, token⟩ := registered
    rw [Bridge.token?, found]
    exact token
  | other present _ => exact absurd rfl (present id spec m i)

/-- The token of a window that an application mentions was issued. -/
theorem issued_run {actions : List (Environment × Action)}
    (found : (({} : Bridge).run actions).applications[a]? = some x) {id : Handle}
    (hx : x.Mentions id) : id.raw < (({} : Bridge).run actions).registry.next := by
  refine application_run (P := fun b _ x => x.Mentions id → id.raw < b.registry.next)
    (fun _ => True) ?_ ?_ (fun _ _ => trivial) found hx
  · rintro b a (held | presenting)
    · contradiction
    · contradiction
  · intro b env act a x x' reachable _ change ih hx
    obtain earlier | ⟨spec, m, i, posts⟩ := change.mentions hx
    · exact Nat.lt_of_lt_of_le (ih earlier) (tokenChange_step reachable.records env act).next_le
    · exact ((reachable.step env act).records.issued _ _ posts.token?).2

/-- A window token that was issued and that no machine has, now or later. -/
structure Retired (b : Bridge) (id : Handle) : Prop where
  issued : id.raw < b.registry.next
  unowned : ∀ m, b.token? (.windowBinding m) ≠ some id

/-- A token that is retired stays so. -/
theorem Retired.step (h : b.Retired id) (hb : b.registry.Records b.token?) (env : Environment)
    (act : Action) : (b.step env act).Retired id where
  issued := Nat.lt_of_lt_of_le h.issued (tokenChange_step hb env act).next_le
  unowned m hm := by
    obtain held | fresh := (tokenChange_step hb env act).held_before hm
    · exact h.unowned m held
    · exact Nat.not_le_of_lt h.issued fresh

theorem retired_append {first : List (Environment × Action)}
    (retired : (({} : Bridge).run first).Retired id) (after : List (Environment × Action)) :
    (({} : Bridge).run (first ++ after)).Retired id := by
  induction after using List.reverseRecOn with
  | nil => rw [List.append_nil]; exact retired
  | append_singleton after s ih =>
    rw [← List.append_assoc, run_append]
    exact ih.step (records_run _) s.1 s.2

/-- The token of a window is retired when it is taken from its machine. -/
theorem retired_of_lost {m : Nat} (reachable : b.Reachable) {env : Environment}
    (owned : b.token? (.windowBinding m) = some id)
    (lost : (b.step env act).token? (.windowBinding m) = none) : (b.step env act).Retired id := by
  have hb := reachable.records
  have change := tokenChange_step hb env act
  have issued := (hb.issued _ _ owned).2
  refine ⟨Nat.lt_of_lt_of_le issued change.next_le, fun k hk => ?_⟩
  obtain held | fresh := change.held_before hk
  · obtain rfl : k = m := by simpa using hb.distinct _ _ _ held owned
    rw [lost] at hk
    contradiction
  · exact Nat.not_le_of_lt issued fresh

/-- A window is forgotten when its token is taken from its machine. -/
theorem Posts.retired (reachable : b.Reachable) {env : Environment}
    (h : Posts b act a (b.step env act) (.forget id)) : (b.step env act).Retired id := by
  cases h with
  | @forget m s _ found token gone =>
    exact retired_of_lost (m := m) reachable (by rw [Bridge.token?, found]; exact token)
      (by rw [Bridge.token?, gone]; rfl)
  | other _ forget => exact absurd rfl (forget id)

/-- A window that is about to be forgotten has a retired token. -/
theorem retired_run {actions : List (Environment × Action)}
    (found : (({} : Bridge).run actions).applications[a]? = some x) {id : Handle}
    (hx : .forget id ∈ x.queue.tasks) : (({} : Bridge).run actions).Retired id := by
  refine application_run (P := fun b _ x => .forget id ∈ x.queue.tasks → b.Retired id)
    (fun _ => True) ?_ ?_ (fun _ _ => trivial) found hx
  · intro b a h
    contradiction
  · intro b env act a x x' reachable _ change ih hx
    obtain earlier | posts := change.mem_tasks hx
    · exact (ih earlier).step reachable.records env act
    · exact posts.retired reachable

/-! ## running loops -/

/-- A main loop that runs and was not asked to quit. -/
structure Alive (x : Application) : Prop where
  running : x.queue.status = .running
  handled : x.queue.handles ≠ 0
  unasked : .quit ∉ x.queue.messages

theorem Alive.isOpen (h : Alive x) : x.queue.isOpen = true := by
  rw [MainQueue.isOpen, h.running]
  rfl

theorem Alive.of_queue (h : Alive x) (same : x'.queue = x.queue) : Alive x' :=
  ⟨by rw [same, h.running], by rw [same]; exact h.handled, by rw [same]; exact h.unasked⟩

/-- A main loop that is not asked to quit keeps running. -/
theorem AppChange.alive (h : AppChange b act a b' x x') (unasked : act ≠ .quit a)
    (alive : Alive x) : Alive x' := by
  cases h with
  | idle idle => exact alive.of_queue idle.queue
  | posted _ =>
    exact ⟨alive.running, alive.handled, by simpa [Application.post] using alive.unasked⟩
  | quit cause => exact absurd cause unasked
  | userClosed _ queue _ => exact alive.of_queue queue
  | ran _ task queue _ =>
    refine ⟨by rw [queue]; exact alive.running, by rw [queue]; exact alive.handled, ?_⟩
    rw [queue]
    intro mem
    exact alive.unasked (task ▸ List.mem_cons_of_mem _ mem)
  | ended _ ends =>
    obtain none | asked := ends
    · exact absurd none alive.handled
    · exact absurd asked alive.unasked

/-- A main loop that nobody asks to quit goes on. -/
theorem alive_run {actions : List (Environment × Action)} (unasked : ∀ s ∈ actions, s.2 ≠ .quit a)
    (found : (({} : Bridge).run actions).applications[a]? = some x) : Alive x := by
  refine application_run (P := fun _ k x => k = a → Alive x) (fun act => act ≠ .quit a) ?_ ?_
    unasked found rfl
  · intro b k _
    exact ⟨rfl, by decide, by simp⟩
  · rintro b env act k x x' - unasked change alive rfl
    exact change.alive unasked (alive rfl)

end Bridge

end MachineBridge
