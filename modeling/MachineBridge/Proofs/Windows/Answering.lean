import MachineBridge.Proofs.Windows.Asking

/-!
# MachineBridge.Proofs.Windows.Answering

How an inquiry is answered.  A main loop answers it when it runs its task, and when it ends and
discards the task; nothing else does (`inquiryStep_step`).

The task of an inquiry is in the queue of the application that was asked
(`Reachable.addressed`), so it is that application whose loop runs when the toolkit answers
(`accepting_of_known`).  Until then the task stays in line in a running loop (`InLine.step`),
which answers it when it has had enough turns (`answered_mainTurns`).
-/

namespace MachineBridge

namespace Bridge

variable {b b' : Bridge} {act : Action} {a k i : Nat} {id : Handle} {q : Inquiry}
  {x : Application}

/-! ## turns of main loops -/

/-- An inquiry that is looked at has an answer. -/
theorem answered_look (env : Environment) (found : b.inquiries[i]? = some q) :
    ∃ v, (b.look env i).inquiries[i]? = some { q with answer := some v } := by
  obtain ⟨v, looked⟩ := look_of_found env found
  refine ⟨v, ?_⟩
  rw [looked, answerInquiry]
  dsimp only
  rw [List.getElem?_modify_eq, show (b.modifyApplication _ _).inquiries = b.inquiries from rfl,
    found]
  rfl

theorem getElem?_look_of_ne (env : Environment) (b : Bridge) {j : Nat} (other : i ≠ j) :
    (b.look env j).inquiries[i]? = b.inquiries[i]? := by
  unfold look
  split
  · rfl
  · exact getElem?_answerInquiry _ other _

/-- Whoever waits for a task that is discarded is told so. -/
theorem getElem?_discardTasks (ts : List MainTask) (found : b.inquiries[i]? = some q) :
    (ts.foldl discardTask b).inquiries[i]? = some
      (if .inquire i ∈ ts then { q with answer := some (.unknown .taskDropped) } else q) := by
  induction ts generalizing b q with
  | nil => exact found
  | cons t ts ih =>
    rw [List.foldl_cons]
    by_cases own : t = .inquire i
    · subst own
      have told : (b.discardTask (.inquire i)).inquiries[i]? =
          some { q with answer := some (.unknown .taskDropped) } := by
        rw [discardTask, answerInquiry, List.getElem?_modify_eq, found]
        rfl
      rw [ih told, if_pos List.mem_cons_self]
      split <;> rfl
    · have kept : (b.discardTask t).inquiries[i]? = some q := by
        cases t with
        | inquire j =>
          have other : i ≠ j := fun same => own (same ▸ rfl)
          exact (getElem?_answerInquiry b other _).trans found
        | present | bringToFront | forget | closeForStop | host => exact found
      have other : ¬MainTask.inquire i = t := fun same => own same.symm
      simp only [ih kept, List.mem_cons, other, false_or]

/-- All tasks are discarded when a loop ends. -/
theorem tasks_of_exit {queue queue' : MainQueue MainTask} {ts : List MainTask}
    (exits : queue.take = (queue', .exit ts)) : queue.tasks = ts := by
  obtain ⟨messages, handles, status⟩ := queue
  cases messages with
  | nil =>
    unfold MainQueue.take at exits
    dsimp only at exits
    split at exits
    · cases exits
      rfl
    · cases exits
  | cons message rest =>
    cases message with
    | run t => cases exits
    | quit =>
      cases exits
      rfl

theorem running_of_canTurn (ready : b.canTurn a = true) (there : b.applications[a]? = some x) :
    x.queue.status = .running := by
  rw [canTurn, there] at ready
  simp only [Bool.and_eq_true, beq_iff_eq] at ready
  exact ready.1.2

/-- When the first task of a queue has run, the tasks behind it are left. -/
theorem there_of_first (env : Environment) {t : MainTask} {rest : List (Message MainTask)}
    (there : b.applications[a]? = some x) (task : x.queue.messages = .run t :: rest) :
    ∃ x', ((b.dequeue a).runTask env a t).applications[a]? = some x' ∧
      x'.queue = { x.queue with messages := rest } := by
  have taken := there_dequeue there
  rw [take_of_run task] at taken
  obtain ⟨y, x', -, there₀, there', queue, -⟩ | ⟨absent, -⟩ :=
    (b.dequeue a).runsAt_runTask env a t a
  · cases taken.symm.trans there₀
    exact ⟨x', there', queue⟩
  · rw [absent rfl] at taken
    cases taken

/-- A turn of a main loop queues no inquiry. -/
theorem queued_mainTurn (env : Environment) (mem : .inquire i ∈ (b.mainTurn env a).tasks k) :
    .inquire i ∈ b.tasks k := by
  have turned := b.turnStep_mainTurn env a
  generalize b.mainTurn env a = b' at turned mem
  cases turned with
  | waits _ => exact mem
  | runs _ _ _ =>
    rw [tasks_runTask] at mem
    exact ((b.edits_dequeue a).silent rfl).queued k i mem
  | ends _ _ _ _ =>
    rw [tasks, applications_discardTasks] at mem
    exact ((b.edits_dequeue a).silent rfl).queued k i mem

/-- What a step does to an inquiry: nothing, a main loop runs its task and goes on, or a main
loop ends and discards it. -/
inductive InquiryStep (b : Bridge) (act : Action) (i : Nat) (q : Inquiry) (b' : Bridge) : Prop
  | kept (found' : b'.inquiries[i]? = some q)
  | looked {a : Nat} {v : Visibility} (cause : act = .mainTurn a) (task : .inquire i ∈ b.tasks a)
      (accepting : b'.Accepting a) (found' : b'.inquiries[i]? = some { q with answer := some v })
  | dropped {a : Nat} (cause : act = .mainTurn a) (task : .inquire i ∈ b.tasks a)
      (found' : b'.inquiries[i]? = some { q with answer := some (.unknown .taskDropped) })

theorem inquiryStep_mainTurn (env : Environment) (a : Nat) (found : b.inquiries[i]? = some q) :
    InquiryStep b (.mainTurn a) i q (b.mainTurn env a) := by
  have turned := b.turnStep_mainTurn env a
  generalize b.mainTurn env a = b' at turned ⊢
  have still : (b.dequeue a).inquiries[i]? = some q := found
  cases turned with
  | waits _ => exact .kept found
  | @runs x t rest ready there task =>
    by_cases own : t = .inquire i
    · subst own
      obtain ⟨v, answered⟩ := answered_look env still
      have first : .inquire i ∈ b.tasks a := by
        rw [tasks_dequeue there task]
        exact List.mem_cons_self
      obtain ⟨x', there', queue⟩ := there_of_first env there task
      refine .looked rfl first ⟨x', there', ?_⟩ answered
      rw [queue, MainQueue.isOpen, running_of_canTurn ready there]
      rfl
    · refine .kept ?_
      cases t with
      | inquire j =>
        have other : i ≠ j := fun same => own (same ▸ rfl)
        exact (getElem?_look_of_ne env _ other).trans still
      | present | bringToFront | forget | closeForStop | host =>
        rw [((edits_runTask env _ a _).silent rfl).inquiries]
        exact still
  | @ends x ts _ there _ exits =>
    have after := getElem?_discardTasks ts still
    split at after
    · next mem =>
      refine .dropped rfl ?_ after
      rw [tasks_of_found there, tasks_of_exit exits]
      exact mem
    · exact .kept after

/-- Every step leaves an inquiry as it is, or answers it. -/
theorem inquiryStep_step (env : Environment) (act : Action) (found : b.inquiries[i]? = some q) :
    InquiryStep b act i q (b.step env act) := by
  cases b.askStep_step env act with
  | silent h => exact .kept (h.inquiries ▸ found)
  | notes h =>
    obtain ⟨answer, inquiries⟩ := h.inquiries
    refine .kept ?_
    rw [inquiries, List.getElem?_append_left (List.getElem?_eq_some_iff.1 found).1, found]
  | turns cause same =>
    rw [same, cause]
    exact inquiryStep_mainTurn env _ found

/-! ## inquiries over time -/

/-- An inquiry stays about its window, and an answer stays an answer. -/
theorem InquiryStep.inquiry (h : InquiryStep b act i q b') :
    ∃ answer, b'.inquiries[i]? = some { q with answer } ∧ (q.answer.isSome → answer.isSome) := by
  cases h with
  | kept found' => exact ⟨q.answer, found', fun h => h⟩
  | looked _ _ _ found' => exact ⟨_, found', fun _ => rfl⟩
  | dropped _ _ found' => exact ⟨_, found', fun _ => rfl⟩

/-- The task of an inquiry is queued in the application that is asked. -/
def Addressed (b : Bridge) : Prop :=
  ∀ a i, .inquire i ∈ b.tasks a → ∃ q, b.inquiries[i]? = some q ∧ q.application = a

theorem Addressed.notes (addressed : b.Addressed) (h : Notes b k id b') : b'.Addressed := by
  obtain ⟨answer, inquiries⟩ := h.inquiries
  intro a i mem
  rw [inquiries]
  obtain before | ⟨rfl, rfl⟩ := h.queued a i mem
  · obtain ⟨q, found, own⟩ := addressed a i before
    exact ⟨q, (List.getElem?_append_left (List.getElem?_eq_some_iff.1 found).1).trans found, own⟩
  · exact ⟨_, List.getElem?_concat_length .., rfl⟩

/-- Inquiries stay addressed to the queue of their application. -/
theorem Addressed.step (addressed : b.Addressed) (env : Environment) (act : Action) :
    (b.step env act).Addressed := by
  have kept (fewer : ∀ a i, .inquire i ∈ (b.step env act).tasks a → .inquire i ∈ b.tasks a) :
      (b.step env act).Addressed := by
    intro a i mem
    obtain ⟨q, found, own⟩ := addressed a i (fewer a i mem)
    obtain ⟨answer, found', -⟩ := (inquiryStep_step env act found).inquiry
    exact ⟨_, found', own⟩
  cases b.askStep_step env act with
  | silent h => exact kept h.queued
  | notes h => exact addressed.notes h
  | turns _ same =>
    refine kept fun a i mem => ?_
    rw [same] at mem
    exact queued_mainTurn env mem

theorem Reachable.addressed (reachable : b.Reachable) : b.Addressed := by
  obtain ⟨actions, rfl⟩ := reachable
  induction actions using List.reverseRecOn with
  | nil =>
    intro a i mem
    cases mem
  | append_singleton before s ih =>
    rw [run_append]
    exact ih.step s.1 s.2

theorem isSome_visibility?_of_found (found : b.inquiries[i]? = some q) :
    (b.visibility? i).isSome = q.answer.isSome := by
  rw [visibility?, found]
  rfl

/-- What was answered stays answered. -/
theorem answered_step (env : Environment) (act : Action) (answered : (b.visibility? i).isSome) :
    ((b.step env act).visibility? i).isSome := by
  cases found : b.inquiries[i]? with
  | none =>
    rw [visibility?, found] at answered
    cases answered
  | some q =>
    obtain ⟨answer, found', stays⟩ := (inquiryStep_step env act found).inquiry
    rw [isSome_visibility?_of_found found] at answered
    rw [isSome_visibility?_of_found found']
    exact stays answered

/-- An answer that was given stays. -/
theorem answered_run (actions : List (Environment × Action)) (answered : (b.visibility? i).isSome) :
    ((b.run actions).visibility? i).isSome := by
  induction actions generalizing b with
  | nil => exact answered
  | cons s rest ih => exact ih (answered_step s.1 s.2 answered)

/-- The application that was asked is running when the toolkit has answered. -/
theorem accepting_of_known (addressed : b.Addressed) (env : Environment) (act : Action)
    (found : b.inquiries[i]? = some q) (unanswered : b.visibility? i = none) {isVisible : Bool}
    (known : (b.step env act).visibility? i = some (.known isVisible)) :
    (b.step env act).Accepting q.application := by
  cases inquiryStep_step env act found with
  | kept found' =>
    rw [visibility?, found', ← found, ← visibility?, unanswered] at known
    cases known
  | looked _ task accepting _ =>
    obtain ⟨q', found', rfl⟩ := addressed _ i task
    cases found.symm.trans found'
    exact accepting
  | dropped _ _ found' =>
    rw [visibility?, found'] at known
    cases known

/-! ## inquiries whose turn will come -/

/-- The task of an inquiry is in the queue of a running main loop. -/
structure InLine (b : Bridge) (i : Nat) (a : Nat) (x : Application) : Prop where
  there : b.applications[a]? = some x
  running : x.queue.status = .running
  task : .inquire i ∈ x.queue.tasks

/-- A main loop that turns runs the task of an inquiry, or comes closer to it, or ends and
discards it. -/
theorem InLine.turn (waits : b.InLine i a x) (env : Environment)
    (found : b.inquiries[i]? = some q) (free : x.job = none) :
    ((b.mainTurn env a).visibility? i).isSome ∨
      ∃ x', (b.mainTurn env a).InLine i a x' ∧
        x'.queue.messages.length < x.queue.messages.length := by
  have busy : x.queue.messages ≠ [] := by
    intro empty
    have task := waits.task
    rw [MainQueue.tasks, empty] at task
    cases task
  have ready : b.canTurn a = true := by
    rw [canTurn, waits.there]
    simp [free, waits.running, busy]
  have still : (b.dequeue a).inquiries[i]? = some q := found
  have turned := b.turnStep_mainTurn env a
  generalize b.mainTurn env a = b' at turned ⊢
  cases turned with
  | waits idle =>
    rw [ready] at idle
    cases idle
  | @runs y t rest _ there task =>
    cases waits.there.symm.trans there
    by_cases own : t = .inquire i
    · subst own
      obtain ⟨v, answered⟩ := answered_look env still
      exact .inl (by rw [runTask, isSome_visibility?_of_found answered]; rfl)
    · have later := waits.task
      rw [Application.tasks_of_messages task] at later
      have later := (List.mem_cons.1 later).resolve_left fun same => own same.symm
      obtain ⟨x', there', queue⟩ := there_of_first env there task
      refine .inr ⟨x', ⟨there', ?_, ?_⟩, ?_⟩
      · rw [queue]
        exact waits.running
      · rw [queue]
        exact later
      · rw [queue, task]
        exact Nat.lt_succ_self _
  | @ends y ts _ there _ exits =>
    cases waits.there.symm.trans there
    have discarded : .inquire i ∈ ts := tasks_of_exit exits ▸ waits.task
    have told := getElem?_discardTasks ts still
    rw [if_pos discarded] at told
    exact .inl (by rw [isSome_visibility?_of_found told]; rfl)

theorem status_quit (queue : MainQueue MainTask) : queue.quit.status = queue.status := by
  unfold MainQueue.quit
  split <;> rfl

/-- An inquiry stays in line until it is answered. -/
theorem InLine.step (waits : b.InLine i a x) (env : Environment) (act : Action)
    (found : b.inquiries[i]? = some q) :
    ((b.step env act).visibility? i).isSome ∨ ∃ x', (b.step env act).InLine i a x' := by
  by_cases turns : act = .mainTurn a
  · subst turns
    by_cases free : x.job = none
    · exact (waits.turn env found free).imp_right fun ⟨x', waits', _⟩ => ⟨x', waits'⟩
    · have idle : b.canTurn a = false := by
        rw [canTurn, waits.there]
        simp [Option.isNone_iff_eq_none, free]
      right
      rw [Bridge.step, mainTurn, if_neg (by simp [idle])]
      exact ⟨x, waits⟩
  · right
    obtain ⟨absent, -⟩ | ⟨absent, -⟩ | ⟨there, there', change⟩ := b.appStep_step env act a
    · rw [waits.there] at absent
      cases absent
    · rw [waits.there] at absent
      cases absent
    · cases waits.there.symm.trans there
      cases change with
      | idle idle =>
        exact ⟨_, there', by rw [idle.queue]; exact waits.running,
          by rw [idle.queue]; exact waits.task⟩
      | posted _ =>
        refine ⟨_, there', waits.running, ?_⟩
        rw [Application.tasks_post]
        exact List.mem_append_left _ waits.task
      | quit _ =>
        refine ⟨_, there', ?_, by rw [Application.tasks_quit]; exact waits.task⟩
        exact (status_quit x.queue).trans waits.running
      | userClosed _ queue _ =>
        exact ⟨_, there', by rw [queue]; exact waits.running, by rw [queue]; exact waits.task⟩
      | ran cause _ _ _ => exact absurd cause turns
      | ended cause _ => exact absurd cause turns

theorem InLine.leaveJob (waits : b.InLine i a x) (s : JobStatus) :
    (b.leaveJob a s).InLine i a { x with job := none } := by
  refine ⟨?_, waits.running, waits.task⟩
  unfold Bridge.leaveJob
  rw [waits.there, Option.bind_some]
  split
  · next free =>
    rw [waits.there, ← free]
  · rw [getElem?_modifyApplication, if_pos rfl, setJob, waits.there]
    rfl

/-- A main loop takes some turns. A task of the host that occupies the main thread ends before
each of them. -/
def mainTurns (env : Environment) (a n : Nat) : List (Environment × Action) :=
  (List.replicate n [(env, .leaveJob a), (env, .mainTurn a)]).flatten

/-- One more turn of a main loop comes first. -/
theorem run_mainTurns_succ (env : Environment) (b : Bridge) (a n : Nat) :
    b.run (mainTurns env a (n + 1)) =
      ((b.leaveJob a .ended).mainTurn env a).run (mainTurns env a n) := rfl

/-- An inquiry in line is answered after enough turns. -/
theorem answered_mainTurns (env : Environment) (waits : b.InLine i a x)
    (found : b.inquiries[i]? = some q) :
    ∃ n, ((b.run (mainTurns env a n)).visibility? i).isSome := by
  -- every turn takes a message from in front of the task
  induction length : x.queue.messages.length using Nat.strongRecOn generalizing b x q with
  | ind n ih =>
    have free := waits.leaveJob .ended
    have kept : (b.leaveJob a .ended).inquiries[i]? = some q :=
      ((b.edits_leaveJob a .ended).silent rfl).inquiries ▸ found
    obtain answered | ⟨x', waits', closer⟩ := free.turn env kept rfl
    · exact ⟨1, answered⟩
    · obtain ⟨answer, found', -⟩ := (inquiryStep_mainTurn env a kept).inquiry
      obtain ⟨k, answered⟩ := ih _ (length ▸ closer) waits' found' rfl
      exact ⟨k + 1, by rw [run_mainTurns_succ]; exact answered⟩

/-- A main loop that has not ended is running. -/
theorem running_of_isOpen (reachable : b.Reachable) (there : b.applications[a]? = some x)
    (accepts : x.queue.isOpen = true) : x.queue.status = .running := by
  obtain ⟨actions, rfl⟩ := reachable
  have started : x.queue.status ≠ .notStarted := by
    refine application_run (P := fun _ _ x => x.queue.status ≠ .notStarted) (fun _ => True) ?_ ?_
      (fun _ _ => trivial) there
    · intro b a
      decide
    · intro b env act a x x' _ _ change started
      cases change with
      | idle idle => rwa [idle.queue]
      | posted _ => exact started
      | quit _ => rwa [status_quit]
      | userClosed _ queue _ => rwa [queue]
      | ran _ _ queue _ => rwa [queue]
      | ended _ _ => nofun
  rw [MainQueue.isOpen] at accepts
  cases status : x.queue.status with
  | notStarted => exact absurd status started
  | running => rfl
  | gone =>
    rw [status] at accepts
    cases accepts

theorem visibility?_asked (b : Bridge) (a : Nat) (id : Handle) :
    (b.asked a id).visibility? b.inquiries.length = none := by
  have last : (b.asked a id).inquiries[b.inquiries.length]? = some { application := a, id } :=
    b.getElem?_inquired a id
  rw [visibility?, last]
  rfl

/-- A new question gets in line behind all other tasks. -/
theorem inLine_asked (reachable : b.Reachable) (accepting : b.Accepting a) (id : Handle) :
    ∃ x, (b.asked a id).InLine b.inquiries.length a x := by
  obtain ⟨x, there, accepts⟩ := accepting
  have running := running_of_isOpen reachable there accepts
  refine ⟨x.post (.inquire b.inquiries.length), ?_, running, ?_⟩
  · rw [asked, getElem?_modifyApplication, if_pos rfl, inquired, there]
    rfl
  · rw [Application.tasks_post]
    exact List.mem_append_right _ List.mem_cons_self

end Bridge

end MachineBridge
