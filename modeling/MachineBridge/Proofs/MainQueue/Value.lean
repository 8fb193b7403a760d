import MachineBridge.MainQueue.Run

/-!
# MachineBridge.Proofs.MainQueue.Value

The value that a task ends with.  `Program.value?` says it of the program alone.  The steps of
the loop compute it: with every step in which the running task goes on (`GoesOn`), the value
that it is to end with stays the same.
-/

namespace MachineBridge

variable {ν : Type}

/-! ## values of programs -/

mutual

/-- The value a program ends with on the loop, unless it panics.  What it hands over is
accepted, since a loop that runs a task is not gone. -/
def Program.value? : Program ν → Option (TaskValue ν)
  | .log v => some (.logged (.value v))
  | .panic _ => none
  | .isMain => some (.logged (.isMain true))
  | .sync p => p.value?.map .ran
  | .dispatch _ => some (.handedOver (.ok ()))
  | .quit => some .quit
  | .cloneHandle => some (.list [])
  | .dropHandle => some (.list [])
  | .wait _ => some .waited
  | .seq ps => (Program.values? ps).map .list

/-- The values of programs that are run one after the other, unless one panics. -/
def Program.values? : List (Program ν) → Option (List (TaskValue ν))
  | [] => some []
  | p :: ps => p.value?.bind fun v => (Program.values? ps).map (v :: ·)

end

/-- What a running task is about to have. -/
def Focus.value? : Focus ν → Option (TaskValue ν)
  | .run p => p.value?
  | .yield v => some v
  | .waiting _ => some .waited

/-- What a value is turned into by what the task goes on with. -/
def Continuation.resume? : Continuation ν → TaskValue ν → Option (TaskValue ν)
  | .inPlace, v => some (.ran v)
  | .seq reversed rest, v =>
    (Program.values? rest).map fun vs => .list (reversed.reverse ++ v :: vs)

/-- What a value is turned into by all that the task goes on with, innermost first. -/
def Continuation.resumeAll? : List (Continuation ν) → Option (TaskValue ν) → Option (TaskValue ν)
  | [], r => r
  | k :: stack, r => resumeAll? stack (r.bind k.resume?)

def Activity.value? (a : Activity ν) : Option (TaskValue ν) :=
  Continuation.resumeAll? a.stack a.focus.value?

theorem Continuation.resumeAll?_none (stack : List (Continuation ν)) :
    Continuation.resumeAll? stack none = none := by
  induction stack with
  | nil => rfl
  | cons k stack ih => exact ih

/-- A sequence goes on with the values of its rest. -/
theorem Continuation.resume?_seq (reversed : List (TaskValue ν)) (p : Program ν)
    (ps : List (Program ν)) (v : TaskValue ν) :
    (Continuation.seq reversed (p :: ps)).resume? v =
      p.value?.bind (Continuation.seq (v :: reversed) ps).resume? := by
  rw [Continuation.resume?, Program.values?]
  cases p.value? with
  | none => rfl
  | some w =>
    rw [Option.bind_some, Option.bind_some, Continuation.resume?, Option.map_map]
    refine congrArg (Option.map · (Program.values? ps)) (funext fun vs => ?_)
    rw [List.reverse_cons, List.append_assoc]
    rfl

/-- A sequence of programs ends with what its first program is turned into by its rest. -/
theorem Program.value?_seq (p : Program ν) (ps : List (Program ν)) :
    (Program.seq (p :: ps)).value? = p.value?.bind (Continuation.seq [] ps).resume? := by
  rw [Program.value?, Program.values?]
  cases p.value? with
  | none => rfl
  | some w => exact Option.map_map _ _ _

/-! ## how a task ended -/

/-- How a task ends: the caller that waited for it, if one did, and its value, if it did not
panic. -/
structure TaskEnd (ν : Type) where
  caller : Option Nat
  value? : Option (TaskValue ν)
deriving Repr

def Job.taskEnd (job : Job ν) : TaskEnd ν := ⟨job.caller, job.program.value?⟩

def Activity.taskEnd (a : Activity ν) : TaskEnd ν := ⟨a.caller, a.value?⟩

namespace Loop

/-! ## steps of the running task -/

/-- A step in which the running task goes on towards the same end, and which leaves all
callers alone. -/
structure GoesOn (l : Loop ν) (a : Activity ν) (l' : Loop ν) : Prop where
  current : ∃ a', l'.current = some a' ∧ a'.taskEnd = a.taskEnd
  callers : l'.callers = l.callers
  status : l'.queue.status = l.queue.status

/-- A task goes on towards the same end if what it is about to have is turned into the same
value. -/
theorem goesOn_goOn {l l' : Loop ν} {a : Activity ν} {stack : List (Continuation ν)}
    {focus : Focus ν} (callers : l'.callers = l.callers)
    (status : l'.queue.status = l.queue.status)
    (same : Continuation.resumeAll? stack focus.value? = a.value?) :
    GoesOn l a (l'.goOn { a with stack } focus) where
  current := ⟨_, rfl, congrArg (TaskEnd.mk a.caller) same⟩
  callers := callers
  status := status

/-- Asking a queue to quit leaves the loop as far as it is. -/
theorem status_quit {τ : Type} (q : MainQueue τ) : q.quit.status = q.status := by
  unfold MainQueue.quit
  split <;> rfl

/-- Handing a task over leaves the loop as far as it is, and all callers alone. -/
theorem dispatch_frame (l : Loop ν) (p : Program ν) :
    (l.dispatch p).1.callers = l.callers ∧
      (l.dispatch p).1.queue.status = l.queue.status := by
  cases h : l.queue.isOpen <;> simp [dispatch, MainQueue.dispatch, h]

/-- A loop that is not gone accepts what it is handed. -/
theorem dispatch_snd {l : Loop ν} (isOpen : l.queue.isOpen = true) (p : Program ν) :
    (l.dispatch p).2 = .ok () := by
  simp [dispatch, MainQueue.dispatch, isOpen]

/-- A program that does not panic at once goes on towards its value. -/
theorem goesOn_runProgram {l : Loop ν} {a : Activity ν} {p : Program ν}
    (isOpen : l.queue.isOpen = true) (focus : a.focus = .run p)
    (calm : ∀ v, p ≠ .panic v) : GoesOn l a (l.runProgram a p) := by
  have value : a.value? = Continuation.resumeAll? a.stack p.value? := by
    rw [Activity.value?, focus]
    rfl
  cases p with
  | log v => exact goesOn_goOn rfl rfl value.symm
  | panic v => exact absurd rfl (calm v)
  | isMain => exact goesOn_goOn rfl rfl value.symm
  | sync p =>
    refine goesOn_goOn rfl rfl (value.trans ?_).symm
    rw [Program.value?, Continuation.resumeAll?, Focus.value?]
    cases p.value? <;> rfl
  | dispatch p =>
    obtain ⟨callers, status⟩ := dispatch_frame l p
    show GoesOn l a ((l.dispatch p).1.goOn a (.yield (.handedOver (l.dispatch p).2)))
    rw [dispatch_snd isOpen]
    exact goesOn_goOn callers status value.symm
  | quit => exact goesOn_goOn rfl (status_quit l.queue) value.symm
  | cloneHandle => exact goesOn_goOn rfl rfl value.symm
  | dropHandle => exact goesOn_goOn rfl rfl value.symm
  | wait gate => exact goesOn_goOn rfl rfl value.symm
  | seq ps =>
    cases ps with
    | nil => exact goesOn_goOn rfl rfl value.symm
    | cons p ps =>
      refine goesOn_goOn rfl rfl (value.trans ?_).symm
      rw [Program.value?_seq]
      rfl

/-- A value that is given to what the task goes on with is turned into the same. -/
theorem goesOn_returnValue {l : Loop ν} {a : Activity ν} {v : TaskValue ν}
    (focus : a.focus = .yield v) (more : a.stack ≠ []) : GoesOn l a (l.returnValue a v) := by
  have value : a.value? = Continuation.resumeAll? a.stack (some v) := by
    rw [Activity.value?, focus]
    rfl
  unfold returnValue
  split
  · next empty => exact absurd empty more
  · next stack found =>
    refine goesOn_goOn rfl rfl (value.trans ?_).symm
    rw [found]
    rfl
  · next reversed stack found =>
    refine goesOn_goOn rfl rfl (value.trans ?_).symm
    rw [found, List.reverse_cons]
    rfl
  · next reversed p ps stack found =>
    refine goesOn_goOn rfl rfl (value.trans ?_).symm
    rw [found, Continuation.resumeAll?, Option.bind_some, Continuation.resume?_seq]
    rfl

/-- Opening a gate lets a task that waits at it go on, and does nothing otherwise. -/
theorem openGate_cases (l : Loop ν) (gate : String) :
    (l.openGate gate).1 = l ∨ ∃ a g, l.current = some a ∧ a.focus = .waiting g ∧
      (l.openGate gate).1 = l.goOn a (.yield .waited) := by
  unfold openGate
  split
  · next a running =>
    split
    · next g focus =>
      split
      · exact .inr ⟨a, g, running, focus, rfl⟩
      · exact .inl rfl
    · exact .inl rfl
  · exact .inl rfl

/-- A task that leaves its gate goes on towards the same end. -/
theorem goesOn_openGate {l : Loop ν} {a : Activity ν} {gate : String}
    (focus : a.focus = .waiting gate) : GoesOn l a (l.goOn a (.yield .waited)) :=
  goesOn_goOn rfl rfl (by rw [Activity.value?, focus]; rfl)

end Loop

end MachineBridge
