import MachineBridge.Proofs.MainQueue.InPlace
import MachineBridge.Proofs.MainQueue.Order

/-!
# MachineBridge.Proofs.MainQueue.Callers

What the callers get that hand a task over from another thread and wait for it.  Each has a
number, its place among the calls.  Every call whose task was accepted is named by one task
among those that ended, that is running, that is queued or that was discarded
(`Kept.callers`), and what it has got is decided by where its task is (`Fate`).
-/

namespace MachineBridge

open MainQueue

variable {ν : Type}

namespace Loop

/-! ## where the task of a caller is -/

def runningCaller (l : Loop ν) : Option Nat :=
  (l.current.map Activity.taskEnd).bind TaskEnd.caller

/-- The callers of the tasks that are begun are those of the tasks that ended and of the one
that is running. -/
theorem Kept.callers_begun {choice : Option (Event ν)} {h : Deed ν} {l : Loop ν}
    (kept : Kept choice h l) :
    h.begun.filterMap Job.caller = h.ended.filterMap TaskEnd.caller ++ l.runningCaller.toList := by
  have same : h.begun.filterMap Job.caller =
      (h.begun.map Job.taskEnd).filterMap TaskEnd.caller := by
    rw [List.filterMap_map]
    rfl
  rw [same, kept.outcomes, List.filterMap_append, runningCaller]
  cases l.current.map Activity.taskEnd with
  | none => rfl
  | some o => cases caller : o.caller <;> simp [caller]

/-- The callers of tasks that were sent as messages. -/
theorem callers_map_run (jobs : List (Job ν)) :
    (jobs.map Message.run).filterMap callerOf = jobs.filterMap Job.caller := by
  rw [List.filterMap_map]
  rfl

/-- The callers of the tasks among some messages. -/
theorem callers_tasks (messages : List (Message (Job ν))) :
    (messages.filterMap Message.task?).filterMap Job.caller = messages.filterMap callerOf := by
  rw [List.filterMap_filterMap]
  refine congrArg (List.filterMap · messages) (funext fun m => ?_)
  cases m <;> rfl

/-- Every accepted task has ended, is running, is queued or was discarded. -/
theorem Kept.callers {choice : Option (Event ν)} {h : Deed ν} {l : Loop ν}
    (kept : Kept choice h l) :
    h.accepted.filterMap callerOf = h.ended.filterMap TaskEnd.caller ++ l.runningCaller.toList ++
      (l.queue.messages.filterMap callerOf ++ h.discarded.filterMap Job.caller) := by
  rw [← kept.callers_begun]
  by_cases gone : l.queue.status = .gone
  · obtain ⟨empty, ending⟩ := kept.gone gone
    rw [empty]
    cases ending with
    | unrun dropped begun discarded =>
      rw [begun, discarded, callers_tasks]
      rfl
    | quit started rest accepted discarded =>
      rw [accepted, discarded, callers_tasks, List.filterMap_append, callers_map_run]
      rfl
    | unheld started accepted discarded =>
      rw [accepted, discarded, callers_map_run]
      exact (List.append_nil _).symm
  · rw [kept.pending gone, kept.discarded gone, List.filterMap_append, callers_map_run]
    exact congrArg _ (List.append_nil _).symm

/-! ## what a caller has got -/

/-- The task of a caller is queued or running. -/
def Awaits (l : Loop ν) (c : Nat) : Prop :=
  c ∈ l.queue.messages.filterMap callerOf ∨ l.runningCaller = some c

/-- Who waits goes on waiting while messages are sent. -/
theorem Awaits.sent {l l' : Loop ν} {c : Nat} (awaits : l.Awaits c)
    {sent : List (Message (Job ν))} (messages : l'.queue.messages = l.queue.messages ++ sent)
    (current : l'.runningCaller = l.runningCaller) : l'.Awaits c := by
  refine awaits.imp (fun queued => ?_) fun running => current.trans running
  rw [messages, List.filterMap_append]
  exact List.mem_append_left _ queued

/-- Who waits goes on waiting when the task at the head of the queue is begun. -/
theorem Awaits.begun {l l' : Loop ν} {c : Nat} (awaits : l.Awaits c) {job : Job ν}
    (idle : l.current = none) (messages : l.queue.messages = .run job :: l'.queue.messages)
    (current : l'.current.map Activity.taskEnd = some job.taskEnd) : l'.Awaits c := by
  obtain queued | running := awaits
  · rw [messages] at queued
    obtain ⟨m, mem, caller⟩ := List.mem_filterMap.1 queued
    rcases List.mem_cons.1 mem with rfl | later
    · exact .inr (by rw [runningCaller, current]; exact caller)
    · exact .inl (List.mem_filterMap.2 ⟨m, later, caller⟩)
  · rw [runningCaller, idle] at running
    contradiction

/-- Nobody waits if no task is queued or running. -/
theorem not_awaits {l : Loop ν} (idle : l.current = none) (empty : l.queue.messages = [])
    (c : Nat) : ¬l.Awaits c := by
  rintro (queued | running)
  · rw [empty] at queued
    contradiction
  · rw [runningCaller, idle] at running
    contradiction

/-- What a caller has got, by what became of its task. -/
inductive Fate (h : Deed ν) (l : Loop ν) (c : Nat) : CallerResult ν → Prop where
  | refused (refused : c ∉ h.accepted.filterMap callerOf) :
      Fate h l c (some (.error .mainLoopNotRunning))
  | ran (v : TaskValue ν) (ended : ⟨some c, some v⟩ ∈ h.ended) : Fate h l c (some (.ok v))
  | panicked (ended : ⟨some c, none⟩ ∈ h.ended) : Fate h l c (some (.error .taskDropped))
  | discarded (discarded : c ∈ h.discarded.filterMap Job.caller) :
      Fate h l c (some (.error .taskDropped))
  | queued (queued : c ∈ l.queue.messages.filterMap callerOf) : Fate h l c none
  | running (running : l.runningCaller = some c) : Fate h l c none

/-- A caller gets a value if its task ended with it. -/
theorem fate_ok_iff {h : Deed ν} {l : Loop ν} {c : Nat} {v : TaskValue ν} :
    Fate h l c (some (.ok v)) ↔ (⟨some c, some v⟩ : TaskEnd ν) ∈ h.ended :=
  ⟨fun | .ran _ ended => ended, .ran v⟩

/-- A caller is told that its task was dropped if it panicked or was discarded. -/
theorem fate_taskDropped_iff {h : Deed ν} {l : Loop ν} {c : Nat} :
    Fate h l c (some (.error .taskDropped)) ↔
      (⟨some c, none⟩ : TaskEnd ν) ∈ h.ended ∨ c ∈ h.discarded.filterMap Job.caller := by
  constructor
  · intro fate
    cases fate with
    | panicked ended => exact .inl ended
    | discarded discarded => exact .inr discarded
  · exact fun lost => lost.elim .panicked .discarded

/-- A caller is told that the loop is not running if its task was refused. -/
theorem fate_mainLoopNotRunning_iff {h : Deed ν} {l : Loop ν} {c : Nat} :
    Fate h l c (some (.error .mainLoopNotRunning)) ↔ c ∉ h.accepted.filterMap callerOf :=
  ⟨fun | .refused refused => refused, .refused⟩

/-- A caller gets nothing as long as its task is queued or running. -/
theorem fate_none_iff {h : Deed ν} {l : Loop ν} {c : Nat} : Fate h l c none ↔ l.Awaits c := by
  constructor
  · intro fate
    cases fate with
    | queued queued => exact .inl queued
    | running running => exact .inr running
  · exact fun awaits => awaits.elim .queued .running

/-- A caller gets a value or one of two errors, and nothing else. -/
theorem Fate.result {h : Deed ν} {l : Loop ν} {c : Nat}
    {r : Except BridgeError (TaskValue ν)} (fate : Fate h l c (some r)) :
    (∃ v, r = .ok v) ∨ r = .error .taskDropped ∨ r = .error .mainLoopNotRunning := by
  cases fate with
  | refused refused => exact .inr (.inr rfl)
  | ran v ended => exact .inl ⟨v, rfl⟩
  | panicked ended => exact .inr (.inl rfl)
  | discarded discarded => exact .inr (.inl rfl)

/-- What a caller has got, it has got for good. -/
theorem Fate.append {h : Deed ν} {l l' : Loop ν} {c : Nat}
    {r : Except BridgeError (TaskValue ν)} (fate : Fate h l c (some r)) {d : Deed ν}
    (others : c ∉ d.accepted.filterMap callerOf) : Fate (h.append d) l' c (some r) := by
  cases fate with
  | refused refused =>
    refine .refused ?_
    rw [Deed.append, List.filterMap_append, List.mem_append]
    exact fun either => either.elim refused others
  | ran v ended => exact .ran v (List.mem_append_left _ ended)
  | panicked ended => exact .panicked (List.mem_append_left _ ended)
  | discarded discarded =>
    refine .discarded ?_
    rw [Deed.append, List.filterMap_append]
    exact List.mem_append_left _ discarded

/-- What callers have got, over a run. -/
structure Told (h : Deed ν) (l : Loop ν) : Prop where
  length : l.callers.length = h.called.length
  own : ∀ job c, .run job ∈ h.accepted → job.caller = some c → h.called[c]? = some job.program
  once : (h.accepted.filterMap callerOf).Nodup
  fates : ∀ c r, l.callers[c]? = some r → Fate h l c r

/-- The callers of accepted tasks have made their calls. -/
theorem Told.lt_length {h : Deed ν} {l : Loop ν} (told : Told h l) {c : Nat}
    (accepted : c ∈ h.accepted.filterMap callerOf) : c < l.callers.length := by
  obtain ⟨m, sent, caller⟩ := List.mem_filterMap.1 accepted
  cases m with
  | quit => cases caller
  | run job =>
    rw [told.length]
    exact (List.getElem?_eq_some_iff.1 (told.own job c sent caller)).1

/-! ## every event -/

theorem length_answered (callers : List (CallerResult ν)) (o : TaskEnd ν) :
    (answered callers o).length = callers.length := by
  rw [answered]
  cases o.caller with
  | none => rfl
  | some c => exact List.length_set

theorem length_lost (jobs : List (Job ν)) (callers : List (CallerResult ν)) :
    ((jobs.map Job.lost).foldl answered callers).length = callers.length := by
  induction jobs generalizing callers with
  | nil => rfl
  | cons job jobs ih => exact (ih _).trans (length_answered callers job.lost)

/-- What the callers have once one of them is answered. -/
theorem getElem?_answered (callers : List (CallerResult ν)) (o : TaskEnd ν) (c : Nat) :
    (answered callers o)[c]? =
      if o.caller = some c then callers[c]?.map fun _ => some o.result else callers[c]? := by
  rw [answered]
  cases caller : o.caller with
  | none => rfl
  | some d =>
    rw [List.getElem?_set]
    by_cases same : d = c
    · subst same
      by_cases within : d < callers.length <;> simp [within]
    · simp [same]

/-- What the callers have once those of discarded tasks are told. -/
theorem getElem?_lost (jobs : List (Job ν)) (callers : List (CallerResult ν)) (c : Nat) :
    ((jobs.map Job.lost).foldl answered callers)[c]? =
      if c ∈ jobs.filterMap Job.caller then callers[c]?.map fun _ => some (.error .taskDropped)
      else callers[c]? := by
  induction jobs generalizing callers with
  | nil => rfl
  | cons job jobs ih =>
    rw [List.map_cons, List.foldl_cons, ih, getElem?_answered]
    have result : job.lost.result = (.error .taskDropped : Except BridgeError (TaskValue ν)) := rfl
    have caller : job.lost.caller = job.caller := rfl
    rw [result, caller]
    cases named : job.caller with
    | none => simp [named]
    | some d =>
      by_cases same : d = c
      · subst same
        simp only [List.filterMap_cons, named, List.mem_cons, true_or, if_true, Option.map_map]
        split <;> rfl
      · have other : ¬c = d := fun eq => same eq.symm
        simp [named, same, other]

/-- The callers of tasks that the loop discards have tasks that are queued. -/
theorem Closing.queued {l : Loop ν} {e : Event ν} {jobs : List (Job ν)}
    (closing : Closing l e jobs) :
    jobs.filterMap Job.caller = l.queue.messages.filterMap callerOf := by
  cases closing with
  | unrun => exact callers_tasks _
  | quit running messages =>
    rw [callers_tasks, messages]
    rfl
  | unheld running messages handles =>
    rw [messages]
    rfl

/-- The fate of a caller stays what it is when nothing of it is accepted and a caller that waits
goes on waiting. -/
theorem Fate.keeps {h : Deed ν} {l l' : Loop ν} {c : Nat} {r : CallerResult ν}
    (fate : Fate h l c r) {d : Deed ν} (others : c ∉ d.accepted.filterMap callerOf)
    (waits : l.Awaits c → l'.Awaits c) : Fate (h.append d) l' c r := by
  cases r with
  | some r => exact fate.append others
  | none => exact fate_none_iff.2 (waits (fate_none_iff.1 fate))

/-- What callers have got is kept by an event in which no call is made, if the fates are. -/
theorem Told.keeps {h : Deed ν} {l l' : Loop ν} (told : Told h l) {d : Deed ν}
    (uncalled : d.accepted.filterMap callerOf = []) (called : d.called = [])
    (length : l'.callers.length = l.callers.length)
    (fates : ∀ c r, l'.callers[c]? = some r → Fate (h.append d) l' c r ∨
      l.callers[c]? = some r ∧ (l.Awaits c → l'.Awaits c)) :
    Told (h.append d) l' where
  length := by rw [length, told.length, Deed.append, called, List.append_nil]
  own job c sent caller := by
    rw [Deed.append, called, List.append_nil]
    refine (List.mem_append.1 sent).elim (fun before => told.own job c before caller)
      fun now => ?_
    have named : c ∈ d.accepted.filterMap callerOf := List.mem_filterMap.2 ⟨_, now, caller⟩
    rw [uncalled] at named
    contradiction
  once := by
    rw [Deed.append, List.filterMap_append, uncalled, List.append_nil]
    exact told.once
  fates c r found := by
    obtain new | ⟨before, waits⟩ := fates c r found
    · exact new
    · exact (told.fates c r before).keeps (by rw [uncalled]; exact List.not_mem_nil) waits

/-- What callers have got is kept by an event that answers none of them, if those that wait
go on waiting. -/
theorem Told.waits {h : Deed ν} {l l' : Loop ν} (told : Told h l) {d : Deed ν}
    (uncalled : d.accepted.filterMap callerOf = []) (called : d.called = [])
    (callers : l'.callers = l.callers) (waits : ∀ c, l.Awaits c → l'.Awaits c) :
    Told (h.append d) l' :=
  told.keeps uncalled called (congrArg _ callers) fun c _ found =>
    .inr ⟨callers ▸ found, waits c⟩

/-- What callers have got is kept by a call, which is numbered next. -/
theorem Told.calls {h : Deed ν} {l l' : Loop ν} (told : Told h l) {p : Program ν}
    {sent : List (Message (Job ν))} {r : CallerResult ν}
    (alone : sent = [] ∨ sent = [.run ⟨p, some l.callers.length⟩])
    (messages : l'.queue.messages = l.queue.messages ++ sent) (current : l'.current = l.current)
    (callers : l'.callers = l.callers ++ [r])
    (fate : Fate (h.append { accepted := sent, called := [p] }) l' l.callers.length r) :
    Told (h.append { accepted := sent, called := [p] }) l' where
  length := by simp [callers, told.length, Deed.append]
  own job c accepted caller := by
    rw [Deed.append]
    rcases List.mem_append.1 accepted with before | now
    · have earlier := told.own job c before caller
      rwa [List.getElem?_append_left (List.getElem?_eq_some_iff.1 earlier).1]
    · obtain rfl | rfl := alone
      · contradiction
      · obtain rfl := Message.run.inj (List.mem_singleton.1 now)
        obtain rfl := Option.some.inj caller
        rw [told.length, List.getElem?_concat_length]
  once := by
    rw [Deed.append, List.filterMap_append]
    obtain rfl | rfl := alone
    · rw [List.filterMap_nil, List.append_nil]
      exact told.once
    · refine List.nodup_append.2 ⟨told.once, List.nodup_cons.2 ⟨List.not_mem_nil, .nil⟩, ?_⟩
      rintro c before d now rfl
      exact Nat.ne_of_lt (told.lt_length before) (List.mem_singleton.1 now)
  fates c r' found := by
    rw [callers, List.getElem?_append] at found
    split at found
    · next earlier =>
      have others : c ∉ sent.filterMap callerOf := by
        obtain rfl | rfl := alone
        · exact List.not_mem_nil
        · exact fun now => Nat.ne_of_lt earlier (List.mem_singleton.1 now)
      exact (told.fates c r' found).keeps others
        (·.sent messages (by rw [runningCaller, current]; rfl))
    · next later =>
      have last : c - l.callers.length < 1 := (List.getElem?_eq_some_iff.1 found).1
      obtain rfl : c = l.callers.length := by omega
      rw [Nat.sub_self] at found
      obtain rfl := Option.some.inj found
      exact fate

/-- The caller of a task that ends is told how it ended. -/
theorem Told.ends {h : Deed ν} {l l' : Loop ν} (told : Told h l) {o : TaskEnd ν}
    (running : l.current.map Activity.taskEnd = some o)
    (messages : l'.queue.messages = l.queue.messages)
    (callers : l'.callers = answered l.callers o) : Told (h.append { ended := [o] }) l' := by
  refine told.keeps rfl rfl (by rw [callers, length_answered]) fun c r found => ?_
  rw [callers, getElem?_answered] at found
  split at found
  · next named =>
    obtain ⟨-, -, rfl⟩ := Option.map_eq_some_iff.1 found
    have last : o ∈ (h.append { ended := [o] }).ended :=
      List.mem_append_right _ List.mem_cons_self
    obtain ⟨caller, value⟩ := o
    obtain rfl : caller = some c := named
    cases value with
    | some v => exact .inl (.ran v last)
    | none => exact .inl (.panicked last)
  · next other =>
    refine .inr ⟨found, fun awaits => .inl ?_⟩
    rw [messages]
    refine awaits.resolve_right fun here => other ?_
    rwa [runningCaller, running] at here

/-- The callers of tasks that the loop discards are told so. -/
theorem Told.closes {h : Deed ν} {l l' : Loop ν} (told : Told h l) {e : Event ν}
    {jobs : List (Job ν)} (closing : Closing l e jobs) (idle : l.current = none)
    (callers : l'.callers = (jobs.map Job.lost).foldl answered l.callers) :
    Told (h.append { discarded := jobs }) l' := by
  refine told.keeps rfl rfl (by rw [callers, length_lost]) fun c r found => ?_
  rw [callers, getElem?_lost, closing.queued] at found
  split at found
  · next named =>
    obtain ⟨-, -, rfl⟩ := Option.map_eq_some_iff.1 found
    refine .inl (.discarded ?_)
    rw [Deed.append, List.filterMap_append, closing.queued]
    exact List.mem_append_right _ named
  · next other =>
    refine .inr ⟨found, fun awaits => ?_⟩
    obtain queued | running := awaits
    · exact absurd queued other
    · rw [runningCaller, idle] at running
      contradiction

/-- No accepted task waits in vain: what callers have got is kept by every event. -/
theorem Told.step {h : Deed ν} {l : Loop ν} (told : Told h l)
    (busy : l.current ≠ none → l.queue.status = .running) (e : Event ν) :
    Told (h.append (l.deed e)) (l.step e) := by
  cases stepCase_step l e busy with
  | goes sent deed refused uncalled messages status current callers =>
    rw [deed]
    exact told.waits uncalled rfl callers fun c awaits =>
      awaits.sent messages (congrArg (·.bind TaskEnd.caller) current)
  | accepts p call deed isOpen messages status current callers =>
    rw [deed]
    refine told.calls (.inr rfl) messages current callers (.queued ?_)
    rw [messages, List.filterMap_append]
    exact List.mem_append_right _ List.mem_cons_self
  | refuses p call deed gone queue current callers =>
    rw [deed]
    refine told.calls (.inl rfl) (by rw [queue, List.append_nil]) current callers (.refused ?_)
    rw [Deed.append, List.append_nil]
    exact fun accepted => absurd (told.lt_length accepted) (Nat.lt_irrefl _)
  | starts start deed before status messages current callers =>
    rw [deed]
    have sent : (l.step e).queue.messages = l.queue.messages ++ [] :=
      messages.trans (List.append_nil _).symm
    exact told.waits rfl rfl callers fun c awaits =>
      awaits.sent sent (by rw [runningCaller, current]; rfl)
  | begins job deed running idle messages status current callers =>
    rw [deed]
    exact told.waits rfl rfl callers fun c awaits => awaits.begun idle messages current
  | ends o deed running current messages status callers =>
    rw [deed]
    exact told.ends running messages callers
  | closes jobs deed closing idle status messages current callers =>
    rw [deed]
    exact told.closes closing idle callers

/-- What callers have got is kept by every run of a new queue. -/
theorem told_run (events : List (Event ν)) : Told (history events) (after events) := by
  induction events using List.reverseRecOn with
  | nil => exact ⟨rfl, fun _ _ sent => absurd sent List.not_mem_nil, .nil, by simp [after, run]⟩
  | append_singleton before e ih =>
    rw [history_append_singleton, after_append_singleton]
    exact ih.step (kept_run before).busy e

/-- Only a call that is made now gets a task of its own accepted now. -/
theorem accepted_callers {l : Loop ν} {e : Event ν} {c : Nat}
    (busy : l.current ≠ none → l.queue.status = .running)
    (now : c ∈ (l.deed e).accepted.filterMap callerOf) : c = l.callers.length := by
  cases stepCase_step l e busy with
  | goes sent deed refused uncalled =>
    rw [deed, uncalled] at now
    contradiction
  | accepts p call deed =>
    rw [deed] at now
    exact List.mem_singleton.1 now
  | refuses p call deed => rw [deed] at now; contradiction
  | starts start deed => rw [deed] at now; contradiction
  | begins job deed => rw [deed] at now; contradiction
  | ends o deed => rw [deed] at now; contradiction
  | closes jobs deed => rw [deed] at now; contradiction

/-! ## one fate for each caller -/

/-- Two ends of tasks of one caller are the same. -/
theorem ended_unique {ended : List (TaskEnd ν)}
    (once : (ended.filterMap TaskEnd.caller).Nodup) {c : Nat} {o o' : TaskEnd ν}
    (first : o ∈ ended) (named : o.caller = some c) (second : o' ∈ ended)
    (named' : o'.caller = some c) : o = o' := by
  induction ended with
  | nil => contradiction
  | cons head rest ih =>
    have among : ∀ {o : TaskEnd ν}, o ∈ rest → o.caller = some c →
        c ∈ rest.filterMap TaskEnd.caller := fun mem caller =>
      List.mem_filterMap.2 ⟨_, mem, caller⟩
    have alone : head.caller = some c → c ∉ rest.filterMap TaskEnd.caller := fun caller => by
      rw [List.filterMap_cons_some caller] at once
      exact (List.nodup_cons.1 once).1
    have later : (rest.filterMap TaskEnd.caller).Nodup := by
      cases caller : head.caller with
      | none => rwa [List.filterMap_cons_none caller] at once
      | some d =>
        rw [List.filterMap_cons_some caller] at once
        exact (List.nodup_cons.1 once).2
    rcases List.mem_cons.1 first with rfl | first'
    · rcases List.mem_cons.1 second with rfl | second'
      · rfl
      · exact absurd (among second' named') (alone named)
    · rcases List.mem_cons.1 second with rfl | second'
      · exact absurd (among first' named) (alone named')
      · exact ih later first' second'

/-- What a caller has to have got: what its task ended with, if it ended, and nothing as long as
it still may. -/
def verdict (h : Deed ν) (c : Nat) : CallerResult ν :=
  match h.ended.find? fun o => o.caller = some c with
  | some o => some o.result
  | none =>
    if c ∈ h.discarded.filterMap Job.caller then some (.error .taskDropped)
    else if c ∈ h.accepted.filterMap callerOf then none
    else some (.error .mainLoopNotRunning)

/-- The verdict on a task that ended. -/
theorem verdict_of_ended {h : Deed ν} {c : Nat} {o : TaskEnd ν}
    (once : (h.ended.filterMap TaskEnd.caller).Nodup) (ended : o ∈ h.ended)
    (caller : o.caller = some c) : verdict h c = some o.result := by
  rw [verdict]
  split
  · next o' found =>
    have named : o'.caller = some c := by simpa using List.find?_some found
    rw [ended_unique once (List.mem_of_find?_eq_some found) named ended caller]
  · next none =>
    have other := List.find?_eq_none.1 none o ended
    simp [caller] at other

/-- The verdict on a task that did not end. -/
theorem verdict_of_not_ended {h : Deed ν} {c : Nat}
    (running : c ∉ h.ended.filterMap TaskEnd.caller) :
    verdict h c = if c ∈ h.discarded.filterMap Job.caller then some (.error .taskDropped)
      else if c ∈ h.accepted.filterMap callerOf then none
      else some (.error .mainLoopNotRunning) := by
  have none : (h.ended.find? fun o => o.caller = some c) = none := by
    refine List.find?_eq_none.2 fun o ended named => running ?_
    exact List.mem_filterMap.2 ⟨o, ended, by simpa using named⟩
  rw [verdict, none]

/-- The fate of a caller is the verdict on its task. -/
theorem Fate.eq_verdict {choice : Option (Event ν)} {h : Deed ν} {l : Loop ν} {c : Nat}
    {r : CallerResult ν} (kept : Kept choice h l) (told : Told h l) (fate : Fate h l c r) :
    r = verdict h c := by
  have once := told.once
  have accepted := kept.callers
  rw [accepted] at once
  obtain ⟨settled, unsettled, apart⟩ := List.nodup_append.1 once
  obtain ⟨ended, -, busy⟩ := List.nodup_append.1 settled
  obtain ⟨-, -, waiting⟩ := List.nodup_append.1 unsettled
  cases fate with
  | refused refused =>
    rw [verdict_of_not_ended fun ended => ?_, if_neg fun lost => ?_, if_neg refused]
    · rw [accepted] at refused
      exact refused (List.mem_append_right _ (List.mem_append_right _ lost))
    · rw [accepted] at refused
      exact refused (List.mem_append_left _ (List.mem_append_left _ ended))
  | ran v here => rw [verdict_of_ended ended here rfl]; rfl
  | panicked here => rw [verdict_of_ended ended here rfl]; rfl
  | discarded here =>
    rw [verdict_of_not_ended fun ended => ?_, if_pos here]
    exact apart c (List.mem_append_left _ ended) c (List.mem_append_right _ here) rfl
  | queued here =>
    rw [verdict_of_not_ended fun ended => ?_, if_neg fun lost => ?_, accepted, if_pos]
    · exact List.mem_append_right _ (List.mem_append_left _ here)
    · exact waiting c here c lost rfl
    · exact apart c (List.mem_append_left _ ended) c (List.mem_append_left _ here) rfl
  | running here =>
    have mem : c ∈ l.runningCaller.toList := by rw [here]; exact List.mem_cons_self
    rw [verdict_of_not_ended fun ended => ?_, if_neg fun lost => ?_, accepted, if_pos]
    · exact List.mem_append_left _ (List.mem_append_right _ mem)
    · exact apart c (List.mem_append_right _ mem) c (List.mem_append_right _ lost) rfl
    · exact busy c ended c mem rfl

/-- What a caller has got tells its fate, and its fate tells what it has got. -/
theorem callers_iff {events : List (Event ν)} {c : Nat} {r : CallerResult ν} :
    (after events).callers[c]? = some r ↔
      c < (history events).called.length ∧ Fate (history events) (after events) c r := by
  have kept := kept_run events
  have told := told_run events
  rw [← told.length]
  constructor
  · intro found
    exact ⟨(List.getElem?_eq_some_iff.1 found).1, told.fates c r found⟩
  · rintro ⟨called, fate⟩
    have found := List.getElem?_eq_getElem called
    rw [found, fate.eq_verdict kept told, (told.fates c _ found).eq_verdict kept told]

/-- A caller whose task ended, is running, is queued or was discarded has had it accepted. -/
theorem accepted_of {events : List (Event ν)} {c : Nat}
    (somewhere : c ∈ (history events).ended.filterMap TaskEnd.caller ∨
      (after events).runningCaller = some c ∨
      c ∈ (after events).queue.messages.filterMap callerOf ∨
      c ∈ (history events).discarded.filterMap Job.caller) :
    c ∈ (history events).accepted.filterMap callerOf := by
  rw [(kept_run events).callers]
  simp only [List.mem_append, Option.mem_toList]
  tauto

/-- A caller whose task was accepted has made its call. -/
theorem called_of_accepted {events : List (Event ν)} {c : Nat}
    (accepted : c ∈ (history events).accepted.filterMap callerOf) :
    c < (history events).called.length := by
  rw [← (told_run events).length]
  exact (told_run events).lt_length accepted

/-- What a caller has got, it has got for good. -/
theorem callers_lasts {events : List (Event ν)} {c : Nat} {r : Except BridgeError (TaskValue ν)}
    (found : (after events).callers[c]? = some (some r)) (more : List (Event ν)) :
    (after (events ++ more)).callers[c]? = some (some r) := by
  induction more using List.reverseRecOn with
  | nil => rwa [List.append_nil]
  | append_singleton more e ih =>
    obtain ⟨called, fate⟩ := callers_iff.1 ih
    rw [← List.append_assoc]
    refine callers_iff.2 ⟨?_, ?_⟩
    · rw [history_append_singleton, Deed.append, List.length_append]
      omega
    · rw [history_append_singleton]
      refine fate.append fun now => ?_
      have last := accepted_callers (kept_run (events ++ more)).busy now
      rw [(told_run (events ++ more)).length] at last
      omega

/-- A caller waits exactly as long as its task is queued or running. -/
theorem callers_none_iff {events : List (Event ν)} {c : Nat} :
    (after events).callers[c]? = some none ↔ (after events).Awaits c := by
  rw [callers_iff, fate_none_iff]
  refine and_iff_right_of_imp fun awaits => called_of_accepted (accepted_of ?_)
  exact .inr (awaits.elim (fun queued => .inr (.inl queued)) .inl)

/-- The task of a caller that ended is the one it called for. -/
theorem called_of_ended {events : List (Event ν)} {c : Nat} {v? : Option (TaskValue ν)}
    (ended : (⟨some c, v?⟩ : TaskEnd ν) ∈ (history events).ended) :
    ∃ p, (history events).called[c]? = some p ∧ ⟨p, some c⟩ ∈ (history events).begun ∧
      p.value? = v? := by
  have kept := kept_run events
  have among : (⟨some c, v?⟩ : TaskEnd ν) ∈ (history events).begun.map Job.taskEnd := by
    rw [kept.outcomes]
    exact List.mem_append_left _ ended
  obtain ⟨⟨p, caller⟩, begun, outcome⟩ := List.mem_map.1 among
  obtain ⟨rfl, rfl⟩ := TaskEnd.mk.inj outcome
  exact ⟨p, (told_run events).own _ c (kept.accepted_of_begun begun) rfl, begun, rfl⟩

/-- What a call adds to the history of a queue. -/
theorem history_call (events : List (Event ν)) (p : Program ν) :
    (history (events ++ [.call p])).accepted = (history events).accepted ++
        (if (after events).queue.status = .gone then []
        else [.run ⟨p, some (history events).called.length⟩]) ∧
      (history (events ++ [.call p])).called = (history events).called ++ [p] := by
  rw [history_append_singleton, ← (told_run events).length]
  refine ⟨congrArg ((history events).accepted ++ ·) ?_, rfl⟩
  rw [deed, accepts_eq]
  cases status : (after events).queue.status <;> simp [MainQueue.isOpen, status]

/-- A call that the running task makes is begun at once, in its place. -/
theorem tick_sync {l : Loop ν} {a : Activity ν} {p : Program ν} (running : l.current = some a)
    (focus : a.focus = .run (.sync p)) :
    l.tick = { l with current := some ⟨a.caller, .inPlace :: a.stack, .run p⟩ } := by
  obtain ⟨caller, stack, focus'⟩ := a
  obtain rfl : focus' = .run (.sync p) := focus
  simp only [tick, running]
  rfl

/-! ## the contract -/

/-- What the callers get that wait for tasks from other threads, for every run of a main queue. -/
structure AnswersCallers (events : List (Event ν)) : Prop where
  /-- Every call has a number, its place among the calls. -/
  numbered : (after events).callers.length = (history events).called.length
  /-- The task that is accepted for a caller is its own. -/
  own : ∀ job c, .run job ∈ (history events).accepted → job.caller = some c →
    (history events).called[c]? = some job.program
  /-- No caller has two tasks. -/
  once : ((history events).accepted.filterMap callerOf).Nodup
  /-- A caller gets a value exactly if its task has ended with it. -/
  value : ∀ c v, (after events).callers[c]? = some (some (.ok v)) ↔
    (⟨some c, some v⟩ : TaskEnd ν) ∈ (history events).ended
  /-- The task of a caller that ended is the one it called for, which was run to its end. -/
  ended : ∀ c v?, (⟨some c, v?⟩ : TaskEnd ν) ∈ (history events).ended →
    ∃ p, (history events).called[c]? = some p ∧ ⟨p, some c⟩ ∈ (history events).begun ∧
      p.value? = v?
  /-- A caller is told that its task was dropped exactly if the task was accepted, and panicked or
  was discarded. -/
  dropped : ∀ c, (after events).callers[c]? = some (some (.error .taskDropped)) ↔
    c ∈ (history events).accepted.filterMap callerOf ∧
      ((⟨some c, none⟩ : TaskEnd ν) ∈ (history events).ended ∨
        c ∈ (history events).discarded.filterMap Job.caller)
  /-- Tasks are discarded when the loop ends: those behind a request to quit, or all that are
  queued when it is dropped without being run. -/
  discarded : (history events).discarded = [] ∨ (after events).queue.status = .gone ∧
    (choice? events = some .start ∧
        (history events).discarded = behindQuit (history events).accepted ∨
      choice? events = some .dropUnrun ∧
        (history events).discarded = (history events).accepted.filterMap Message.task?)
  /-- A caller is told that the loop is not running exactly if its task was refused. -/
  refused : ∀ c, (after events).callers[c]? = some (some (.error .mainLoopNotRunning)) ↔
    c < (history events).called.length ∧ c ∉ (history events).accepted.filterMap callerOf
  /-- A call is refused at once if the loop is gone, and accepted otherwise. -/
  atOnce : ∀ p, (history (events ++ [.call p])).accepted = (history events).accepted ++
      (if (after events).queue.status = .gone then []
      else [.run ⟨p, some (history events).called.length⟩]) ∧
    (history (events ++ [.call p])).called = (history events).called ++ [p]
  /-- A caller waits exactly as long as its task is queued or running. -/
  waits : ∀ c, (after events).callers[c]? = some none ↔
    c ∈ (after events).queue.messages.filterMap callerOf ∨ (after events).runningCaller = some c
  /-- There is nothing else that a caller can get. -/
  results : ∀ (c : Nat) (r : Except BridgeError (TaskValue ν)),
    (after events).callers[c]? = some (some r) →
    (∃ v, r = .ok v) ∨ r = .error .taskDropped ∨ r = .error .mainLoopNotRunning
  /-- What a caller has got is its result for good. -/
  lasts : ∀ (c : Nat) (r : Except BridgeError (TaskValue ν)) more,
    (after events).callers[c]? = some (some r) →
    (after (events ++ more)).callers[c]? = some (some r)
  /-- No caller waits once the loop is gone. -/
  free : (after events).queue.status = .gone → ∀ c : Nat, (after events).callers[c]? ≠ some none
  /-- If a loop that is run is at rest, no caller waits, unless a task waits at a gate. -/
  served : (after events).queue.status = .running → (after events).canTick = false →
    (∃ a gate, (after events).current = some a ∧ a.focus = .waiting gate) ∨
      ∀ c : Nat, (after events).callers[c]? ≠ some none
  /-- A call that the running task makes is begun at once, in its place, and neither queued nor
  counted among the callers.  If its program waits at no gate, the loop's own steps bring it to
  its value, or to its panic, before any other task is begun. -/
  inPlace : ∀ a p, (after events).current = some a → a.focus = .run (.sync p) →
    (after events).tick =
        { after events with current := some ⟨a.caller, .inPlace :: a.stack, .run p⟩ } ∧
      (p.waits = false → (after events).Yields a.caller a.stack (p.value?.map .ran))

/-- Every caller gets the result of its own task, or is told why it has none, and none waits once
the loop is gone. -/
theorem answers_callers (events : List (Event ν)) : AnswersCallers events where
  numbered := (told_run events).length
  own := (told_run events).own
  once := (told_run events).once
  value c v := by
    rw [callers_iff, fate_ok_iff]
    refine and_iff_right_of_imp fun ended => called_of_accepted (accepted_of (.inl ?_))
    exact List.mem_filterMap.2 ⟨_, ended, rfl⟩
  ended c v? := called_of_ended
  dropped c := by
    rw [callers_iff, fate_taskDropped_iff]
    refine and_congr_left fun lost => ⟨fun _ => accepted_of ?_, called_of_accepted⟩
    obtain ended | discarded := lost
    · exact .inl (List.mem_filterMap.2 ⟨_, ended, rfl⟩)
    · exact .inr (.inr (.inr discarded))
  discarded := (kept_run events).discardedJobs
  refused c := by rw [callers_iff, fate_mainLoopNotRunning_iff]
  atOnce := history_call events
  waits c := callers_none_iff
  results c r found := (callers_iff.1 found).2.result
  lasts c r more found := callers_lasts found more
  free gone c found := by
    have kept := kept_run events
    exact not_awaits (kept.idle gone) (kept.gone gone).1 c (callers_none_iff.1 found)
  served running rest := by
    refine (resting running rest).imp_right fun still c found => ?_
    obtain ⟨idle, messages, -⟩ := still
    exact not_awaits idle messages c (callers_none_iff.1 found)
  inPlace a p running focus := by
    refine ⟨tick_sync running focus, fun calm => ?_⟩
    have busy := (kept_run events).busy (by simp [running])
    have isOpen : (after events).queue.isOpen = true := by
      rw [MainQueue.isOpen, busy]
      rfl
    obtain ⟨caller, stack, focus'⟩ := a
    obtain rfl : focus' = .run (.sync p) := focus
    exact runs_in_place p.sync calm isOpen running

/-- A task that is served, one that panics, one behind the request to quit, and one that comes
too late. -/
example :
    (@after Nat
      ([.call (.log 1), .call (.panic 2), .quit, .call (.log 3), .start] ++
        List.replicate 6 .tick ++ [.call (.log 4)])).callers =
      [some (.ok (.logged (.value 1))), some (.error .taskDropped), some (.error .taskDropped),
        some (.error .mainLoopNotRunning)] :=
  rfl

end Loop

end MachineBridge
