import MachineBridge.Proofs.MainQueue.Record

/-!
# MachineBridge.Proofs.MainQueue.InPlace

Programs that the running task runs in its own place.  By its own steps, and with no other task
begun, the loop brings a program that waits at no gate to its value, with which the task goes
on, or to its panic, with which the task ends (`runs_in_place`).
-/

namespace MachineBridge

variable {ν : Type}

mutual

/-- A program waits at a gate, itself or in a program that it runs in its place. -/
def Program.waits : Program ν → Bool
  | .wait _ => true
  | .sync p => p.waits
  | .seq ps => Program.anyWaits ps
  | _ => false

def Program.anyWaits : List (Program ν) → Bool
  | [] => false
  | p :: ps => p.waits || Program.anyWaits ps

end

namespace Loop

/-- The loop comes from one state to another by its own steps, and begins no task. -/
def Works (l l' : Loop ν) : Prop :=
  ∃ n, l' = l.run (List.replicate n .tick) ∧ (l.deeds (List.replicate n .tick)).begun = []

theorem Works.refl (l : Loop ν) : l.Works l := ⟨0, rfl, rfl⟩

/-- A loop that works and goes on working has worked. -/
theorem Works.trans {l l' l'' : Loop ν} (first : l.Works l') (second : l'.Works l'') :
    l.Works l'' := by
  obtain ⟨n, rfl, none⟩ := first
  obtain ⟨k, rfl, nothing⟩ := second
  refine ⟨n + k, ?_, ?_⟩
  · rw [← List.replicate_append_replicate, run_append]
  · rw [← List.replicate_append_replicate, deeds_append, Deed.append, none, nothing]
    rfl

/-- A step of the running task begins no other. -/
theorem begun_tick {l : Loop ν} {a : Activity ν} (running : l.current = some a) :
    (l.deed .tick).begun = [] := by
  rw [deed, running]
  simp only [deedOf]
  split <;> rfl

/-- A step of the running task is work. -/
theorem works_tick {l : Loop ν} {a : Activity ν} (running : l.current = some a) :
    l.Works l.tick := by
  refine ⟨1, rfl, ?_⟩
  show (l.deed .tick).begun ++ [] = []
  rw [List.append_nil, begun_tick running]

/-- The running task comes to have a value with which it goes on in the given way, or panics,
by the loop's own steps. -/
def Yields (l : Loop ν) (caller : Option Nat) (stack : List (Continuation ν))
    (v? : Option (TaskValue ν)) : Prop :=
  ∃ l', l.Works l' ∧ l'.queue.isOpen = true ∧
    l'.current = v?.map fun v => ⟨caller, stack, .yield v⟩

/-- A task that does one step is to yield what it is to yield afterwards. -/
theorem Yields.of_tick {l : Loop ν} {caller : Option Nat} {stack : List (Continuation ν)}
    {v? : Option (TaskValue ν)} {a : Activity ν} (running : l.current = some a)
    (rest : l.tick.Yields caller stack v?) : l.Yields caller stack v? := by
  obtain ⟨l', works, isOpen, current⟩ := rest
  exact ⟨l', (works_tick running).trans works, isOpen, current⟩

/-- What comes next starts from what was yielded, unless it was a panic. -/
theorem Yields.bind {l : Loop ν} {caller : Option Nat} {stack stack' : List (Continuation ν)}
    {v? : Option (TaskValue ν)} {f : TaskValue ν → Option (TaskValue ν)}
    (first : l.Yields caller stack v?)
    (next : ∀ (l' : Loop ν) v, l'.queue.isOpen = true →
      l'.current = some ⟨caller, stack, .yield v⟩ → l'.Yields caller stack' (f v)) :
    l.Yields caller stack' (v?.bind f) := by
  obtain ⟨l', works, isOpen, current⟩ := first
  cases v? with
  | none => exact ⟨l', works, isOpen, current⟩
  | some v =>
    obtain ⟨l'', further, stays, reached⟩ := next l' v isOpen current
    exact ⟨l'', works.trans further, stays, reached⟩

/-- A value that is there is yielded. -/
theorem Yields.of_current {l : Loop ν} {caller : Option Nat} {stack : List (Continuation ν)}
    {v : TaskValue ν} (isOpen : l.queue.isOpen = true)
    (current : l.current = some ⟨caller, stack, .yield v⟩) : l.Yields caller stack (some v) :=
  ⟨l, .refl l, isOpen, current⟩

/-- Whether tasks are accepted depends on how far the loop is. -/
theorem isOpen_of_status {l l' : Loop ν} (status : l'.queue.status = l.queue.status)
    (isOpen : l.queue.isOpen = true) : l'.queue.isOpen = true := by
  rw [MainQueue.isOpen, status]
  exact isOpen

mutual

/-- A program that waits at no gate is run to its end in the place where it stands. -/
theorem runs_in_place (p : Program ν) (calm : p.waits = false) {l : Loop ν}
    {caller : Option Nat} {stack : List (Continuation ν)} (isOpen : l.queue.isOpen = true)
    (running : l.current = some ⟨caller, stack, .run p⟩) : l.Yields caller stack p.value? := by
  have tick : l.tick = l.runProgram ⟨caller, stack, .run p⟩ p := by
    simp only [tick, running]
  refine .of_tick running ?_
  rw [tick]
  cases p with
  | log v => exact .of_current isOpen rfl
  | isMain => exact .of_current isOpen rfl
  | cloneHandle => exact .of_current isOpen rfl
  | dropHandle => exact .of_current isOpen rfl
  | wait gate => cases calm
  | panic v =>
    obtain ⟨-, -, status, -⟩ := (l.record (.value v)).answer_frame ⟨caller, none⟩
    exact ⟨_, .refl _, isOpen_of_status status isOpen, rfl⟩
  | dispatch p =>
    show Yields ((l.dispatch p).1.goOn _ (.yield (.handedOver (l.dispatch p).2))) _ _ _
    rw [dispatch_snd isOpen]
    exact .of_current (isOpen_of_status (dispatch_frame l p).2 isOpen) rfl
  | quit =>
    exact .of_current (isOpen_of_status (status_quit l.queue) isOpen) rfl
  | sync p =>
    have inner := @runs_in_place p calm (l.runProgram ⟨caller, stack, .run p.sync⟩ p.sync) caller
      (.inPlace :: stack) isOpen rfl
    rw [Program.value?, Option.map_eq_bind]
    refine inner.bind fun l' v stays current => .of_tick current ?_
    rw [Loop.tick, current]
    exact .of_current stays rfl
  | seq ps =>
    cases ps with
    | nil => exact .of_current isOpen rfl
    | cons p ps =>
      rw [Program.waits, Program.anyWaits, Bool.or_eq_false_iff] at calm
      have first := @runs_in_place p calm.1
        (l.runProgram ⟨caller, stack, .run (.seq (p :: ps))⟩ (.seq (p :: ps))) caller
        (.seq [] ps :: stack) isOpen rfl
      rw [Program.value?_seq]
      exact first.bind fun l' v stays current => goes_on_in_place ps calm.2 stays current

/-- A sequence goes on with the rest of its programs, if they wait at no gate. -/
theorem goes_on_in_place (ps : List (Program ν)) (calm : Program.anyWaits ps = false)
    {l : Loop ν} {caller : Option Nat} {stack : List (Continuation ν)}
    {reversed : List (TaskValue ν)} {v : TaskValue ν} (isOpen : l.queue.isOpen = true)
    (running : l.current = some ⟨caller, .seq reversed ps :: stack, .yield v⟩) :
    l.Yields caller stack ((Continuation.seq reversed ps).resume? v) := by
  refine .of_tick running ?_
  cases ps with
  | nil =>
    rw [Loop.tick, running, Continuation.resume?]
    refine .of_current isOpen ?_
    simp [returnValue, goOn]
  | cons p ps =>
    rw [Program.anyWaits, Bool.or_eq_false_iff] at calm
    rw [Continuation.resume?_seq, Loop.tick, running]
    have first := @runs_in_place p calm.1
      (l.returnValue ⟨caller, .seq reversed (p :: ps) :: stack, .yield v⟩ v) caller
      (.seq (v :: reversed) ps :: stack) isOpen rfl
    exact first.bind fun l' w stays current => goes_on_in_place ps calm.2 stays current

end

end Loop

end MachineBridge
