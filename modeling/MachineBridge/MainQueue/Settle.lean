import MachineBridge.MainQueue.Loop

/-!
# MachineBridge.MainQueue.Settle

Letting the main loop work until it can do nothing more by itself.  Every step
the loop takes leaves less to do (`work_tick_lt`), so it comes to rest.
-/

namespace MachineBridge.Loop

variable {ν : Type}

/-! ## how much there is to do -/

/-- The steps still in what the running task goes on with. -/
def stackSize : List (Continuation ν) → Nat
  | [] => 0
  | .inPlace :: stack => stackSize stack + 1
  | .seq _ rest :: stack => stackSize stack + Program.sizeList rest + 1

/-- The steps still in what the running task is about to do. -/
def focusSize : Focus ν → Nat
  | .run p => p.size
  | .yield _ => 1
  | .waiting _ => 1

/-- The steps still in the running task, if there is one. -/
def currentSize : Option (Activity ν) → Nat
  | none => 0
  | some a => stackSize a.stack + focusSize a.focus

/-- The steps still in the queued messages. -/
def messagesSize : List (Message (Job ν)) → Nat
  | [] => 0
  | .run job :: rest => messagesSize rest + job.program.size + 1
  | .quit :: rest => messagesSize rest + 1

/-- The last step of a loop, its end, if that is still to come. -/
def endSize : LoopStatus → Nat
  | .gone => 0
  | _ => 1

/-- How much the loop still has to do. Every step it takes by itself makes this less. -/
def work (l : Loop ν) : Nat :=
  messagesSize l.queue.messages + currentSize l.current + endSize l.queue.status

/-! ## steps leave less to do -/

/-- What is left in a queue to which more was added. -/
theorem messagesSize_append (a b : List (Message (Job ν))) :
    messagesSize (a ++ b) = messagesSize a + messagesSize b := by
  induction a with
  | nil => simp [messagesSize]
  | cons m rest ih => cases m <;> simp only [List.cons_append, messagesSize, ih] <;> omega

/-- Answering a caller adds nothing. -/
theorem work_answer (l : Loop ν) (caller : Option Nat) (r : Except BridgeError (TaskValue ν)) :
    (l.answer caller r).work = l.work := by
  cases caller <;> rfl

/-- Telling the callers of discarded tasks adds nothing. -/
theorem work_discard (l : Loop ν) (jobs : List (Job ν)) : (l.discard jobs).work = l.work := by
  induction jobs generalizing l with
  | nil => rfl
  | cons job rest ih => exact (ih _).trans (work_answer l job.caller _)

/-- Asking the loop to quit adds at most one message. -/
theorem messagesSize_quit (q : MainQueue (Job ν)) :
    messagesSize q.quit.messages ≤ messagesSize q.messages + 1 ∧ q.quit.status = q.status := by
  unfold MainQueue.quit
  split <;> simp [messagesSize_append, messagesSize]

/-- Handing a task over adds at most its message. -/
theorem work_dispatch_le (l : Loop ν) (p : Program ν) :
    (l.dispatch p).1.work ≤ l.work + p.size + 1 := by
  cases h : l.queue.isOpen <;>
    simp [dispatch, MainQueue.dispatch, h, work, messagesSize_append, messagesSize] <;> omega

/-- Handing a task over leaves the running task alone. -/
theorem current_dispatch (l : Loop ν) (p : Program ν) : (l.dispatch p).1.current = l.current := by
  cases h : l.queue.isOpen <;> simp [dispatch, MainQueue.dispatch, h]

/-- What is left once the running task goes on with something else. -/
theorem work_goOn (l : Loop ν) (a : Activity ν) (f : Focus ν) :
    (l.goOn a f).work + currentSize l.current = l.work + stackSize a.stack + focusSize f := by
  simp [work, goOn, currentSize]; omega

/-- What is left once the running task is left. -/
theorem work_leave (l : Loop ν) : l.leave.work + currentSize l.current = l.work := by
  simp [work, leave, currentSize]; omega

/-- A log entry adds nothing. -/
theorem work_record (l : Loop ν) (e : LogEntry ν) : (l.record e).work = l.work := rfl

/-- A log entry leaves the running task alone. -/
theorem current_record (l : Loop ν) (e : LogEntry ν) : (l.record e).current = l.current := rfl

/-- Answering a caller leaves the running task alone. -/
theorem current_answer (l : Loop ν) (caller : Option Nat) (r : Except BridgeError (TaskValue ν)) :
    (l.answer caller r).current = l.current := by
  cases caller <;> rfl

/-- A request to quit adds at most one message. -/
theorem work_quit_le (l : Loop ν) :
    ({ l with queue := l.queue.quit } : Loop ν).work ≤ l.work + 1 := by
  have := messagesSize_quit l.queue
  simp only [work, this.2]; omega

/-- The number of handles adds nothing. -/
theorem work_handles (l : Loop ν) (n : Nat) :
    ({ l with queue := { l.queue with handles := n } } : Loop ν).work = l.work := rfl

/-- A step of a program leaves less to do. -/
theorem work_runProgram_lt (l : Loop ν) (a : Activity ν) (p : Program ν)
    (h : currentSize l.current = stackSize a.stack + p.size) :
    (l.runProgram a p).work < l.work := by
  cases p with
  | log v =>
    have := work_goOn (l.record (.value v)) a (.yield (.logged (.value v)))
    simp only [work_record, current_record, focusSize, Program.size] at this h
    simp only [runProgram]; omega
  | panic v =>
    have := work_leave ((l.record (.value v)).answer a.caller (.error .taskDropped))
    simp only [work_answer, work_record, current_answer, current_record, Program.size] at this h
    simp only [runProgram]; omega
  | isMain =>
    have := work_goOn (l.record (.isMain true)) a (.yield (.logged (.isMain true)))
    simp only [work_record, current_record, focusSize, Program.size] at this h
    simp only [runProgram]; omega
  | sync p =>
    have := work_goOn l { a with stack := .inPlace :: a.stack } (.run p)
    simp only [focusSize, stackSize, Program.size] at this h
    simp only [runProgram]; omega
  | dispatch p =>
    have := work_goOn (l.dispatch p).1 a (.yield (.handedOver (l.dispatch p).2))
    have := work_dispatch_le l p
    simp only [current_dispatch, focusSize, Program.size] at *
    simp only [runProgram]; omega
  | quit =>
    have := work_goOn { l with queue := l.queue.quit } a (.yield .quit)
    have := work_quit_le l
    simp only [focusSize, Program.size] at *
    simp only [runProgram]; omega
  | cloneHandle =>
    have := work_goOn { l with queue := l.queue.cloneHandle } a (.yield (.list []))
    simp only [work_handles, focusSize, Program.size, MainQueue.cloneHandle] at this h
    simp only [runProgram, MainQueue.cloneHandle]; omega
  | dropHandle =>
    have := work_goOn { l with queue := l.queue.dropHandle } a (.yield (.list []))
    simp only [work_handles, focusSize, Program.size, MainQueue.dropHandle] at this h
    simp only [runProgram, MainQueue.dropHandle]; omega
  | wait gate =>
    have := work_goOn l a (.waiting gate)
    simp only [focusSize, Program.size] at this h
    simp only [runProgram]; omega
  | seq ps =>
    cases ps with
    | nil =>
      have := work_goOn l a (.yield (.list []))
      simp only [focusSize, Program.size, Program.sizeList] at this h
      simp only [runProgram]; omega
    | cons p ps =>
      have := work_goOn l { a with stack := .seq [] ps :: a.stack } (.run p)
      simp only [focusSize, stackSize, Program.size, Program.sizeList] at this h
      simp only [runProgram]; omega

/-- A value that is passed on leaves less to do. -/
theorem work_returnValue_lt (l : Loop ν) (a : Activity ν) (v : TaskValue ν)
    (h : currentSize l.current = stackSize a.stack + 1) :
    (l.returnValue a v).work < l.work := by
  unfold returnValue
  split
  · have := work_leave (l.answer a.caller (.ok v))
    simp only [work_answer, current_answer] at this; omega
  · rename_i stack hs
    have := work_goOn l { a with stack } (.yield (.ran v))
    simp only [hs, stackSize, focusSize] at this h; omega
  · rename_i reversed stack hs
    have := work_goOn l { a with stack } (.yield (.list (v :: reversed).reverse))
    simp only [hs, stackSize, Program.sizeList, focusSize] at this h; omega
  · rename_i reversed p ps stack hs
    have := work_goOn l { a with stack := .seq (v :: reversed) ps :: stack } (.run p)
    simp only [hs, stackSize, Program.sizeList, focusSize] at this h; omega

/-- Every step that the loop takes by itself leaves less to do. -/
theorem work_tick_lt (l : Loop ν) (h : l.canTick = true) : l.tick.work < l.work := by
  unfold tick
  split
  · rename_i a ha
    split
    · rename_i p hf
      exact work_runProgram_lt l a p (by simp [ha, currentSize, hf, focusSize])
    · rename_i v hf
      exact work_returnValue_lt l a v (by simp [ha, currentSize, hf, focusSize])
    · rename_i gate hf
      obtain ⟨caller, stack, focus⟩ := a
      simp_all [canTick]
  · rename_i ha
    simp only [canTick, ha, Bool.and_eq_true, beq_iff_eq] at h
    cases hm : l.queue.messages with
    | nil =>
      have hh : l.queue.handles = 0 := by simpa [hm] using h.2
      simp only [h.1, MainQueue.take, hm, hh, ↓reduceIte, work_discard]
      simp [work, ha, h.1, hm, MainQueue.finish, messagesSize, currentSize, endSize]
    | cons m rest =>
      cases m with
      | run job =>
        simp [h.1, MainQueue.take, hm, work, ha, messagesSize, currentSize, stackSize, focusSize,
          endSize]
      | quit =>
        simp only [h.1, MainQueue.take, hm, ↓reduceIte, work_discard]
        simp [work, ha, h.1, hm, MainQueue.finish, messagesSize, currentSize, endSize]

/-! ## settling -/

/-- Let the loop work until it can do nothing more by itself. -/
def settle (l : Loop ν) : Loop ν := if l.canTick then settle l.tick else l
termination_by l.work
decreasing_by exact work_tick_lt l ‹_›

/-- A loop that has settled can do nothing by itself. -/
theorem canTick_settle (l : Loop ν) : l.settle.canTick = false := by
  fun_induction settle l with
  | case1 l h ih => exact ih
  | case2 l h => simpa using h

end MachineBridge.Loop
