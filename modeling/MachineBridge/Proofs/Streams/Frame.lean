import MachineBridge.Proofs.Frame

/-!
# MachineBridge.Proofs.Streams.Frame

What the streams of a machine depend on, and what the watchers follow.  Most operations of the
bridge leave all of them alone.  What is left are the operations on streams themselves, and the
tasks and watchers that come with a subscription of their own.
-/

namespace MachineBridge

namespace Bridge

def states? (b : Bridge) (m : Nat) : Option StateStream := b.machines[m]?.map (·.state)

/-- The pipeline for the lost attachments of a machine, with the configuration that it looks
devices up in. -/
def pipeline? (b : Bridge) (m : Nat) : Option (DisconnectPipeline × MachineConfiguration) :=
  b.machines[m]?.map fun x => (x.disconnect, x.configuration)

/-- The subscriptions that watchers follow, each with the number of its machine. -/
def watched (b : Bridge) : List (Nat × Nat) := b.watchers.map fun w => (w.machine, w.subscription)

theorem states?_of_found {b : Bridge} {m : Nat} {machine : Machine}
    (found : b.machines[m]? = some machine) : b.states? m = some machine.state := by
  rw [states?, found]
  rfl

theorem pipeline?_of_found {b : Bridge} {m : Nat} {machine : Machine}
    (found : b.machines[m]? = some machine) :
    b.pipeline? m = some (machine.disconnect, machine.configuration) := by
  rw [pipeline?, found]
  rfl

/-- The stream of a machine depends on the machine. -/
theorem states?_congr {b b' : Bridge} {m : Nat} (same : b'.machines[m]? = b.machines[m]?) :
    b'.states? m = b.states? m := by
  rw [states?, states?, same]

theorem pipeline?_congr {b b' : Bridge} {m : Nat} (same : b'.machines[m]? = b.machines[m]?) :
    b'.pipeline? m = b.pipeline? m := by
  rw [pipeline?, pipeline?, same]

/-! ## changing a machine -/

/-- Changes that agree on a machine change it alike. -/
theorem modifyMachine_congr {b : Bridge} {m : Nat} {machine : Machine}
    (found : b.machines[m]? = some machine) {f g : Machine → Machine}
    (same : f machine = g machine) : b.modifyMachine m f = b.modifyMachine m g := by
  have machines : b.machines.modify m f = b.machines.modify m g := by
    refine List.ext_getElem? fun k => ?_
    rw [List.getElem?_modify, List.getElem?_modify]
    by_cases own : m = k
    · subst own
      simp [found, same]
    · simp [own]
  exact congrArg (fun machines => { b with machines }) machines

/-- There is nothing to change in a machine that is not there. -/
theorem modifyMachine_of_absent {b : Bridge} {m : Nat} (absent : b.machines[m]? = none)
    (f : Machine → Machine) : b.modifyMachine m f = b := by
  have machines : b.machines.modify m f = b.machines :=
    List.modify_eq_self (List.getElem?_eq_none_iff.1 absent)
  exact congrArg (fun machines => { b with machines }) machines

/-- A change of one machine changes the stream of this machine at most. -/
theorem states?_modifyMachine (b : Bridge) (m k : Nat) {f : Machine → Machine}
    {g : StateStream → StateStream} (hf : ∀ x, (f x).state = g x.state) :
    (b.modifyMachine m f).states? k = if m = k then (b.states? k).map g else b.states? k :=
  b.map_getElem?_modifyMachine m k hf

/-- A change of one machine changes the pipeline of this machine at most. -/
theorem pipeline?_modifyMachine (b : Bridge) (m k : Nat) {f : Machine → Machine}
    {g : DisconnectPipeline → MachineConfiguration → DisconnectPipeline}
    (hf : ∀ x, (f x).disconnect = g x.disconnect x.configuration)
    (hc : ∀ x, (f x).configuration = x.configuration) :
    (b.modifyMachine m f).pipeline? k =
      if m = k then (b.pipeline? k).map fun p => (g p.1 p.2, p.2) else b.pipeline? k :=
  b.map_getElem?_modifyMachine m k fun x => by rw [hf, hc]

/-- A change of a machine that leaves its stream of states alone. -/
theorem states?_modifyMachine_of_same (b : Bridge) (m : Nat) {f : Machine → Machine}
    (hf : ∀ x, (f x).state = x.state) : (b.modifyMachine m f).states? = b.states? :=
  funext fun k => b.map_getElem?_modifyMachine_of_same m k hf

/-- A change of a machine that leaves its pipeline alone. -/
theorem pipeline?_modifyMachine_of_same (b : Bridge) (m : Nat) {f : Machine → Machine}
    (hf : ∀ x, (f x).disconnect = x.disconnect) (hc : ∀ x, (f x).configuration = x.configuration) :
    (b.modifyMachine m f).pipeline? = b.pipeline? :=
  funext fun k => b.map_getElem?_modifyMachine_of_same m k fun x => by rw [hf, hc]

/-! ## machines that come into being -/

/-- A machine that comes into being stands behind all others, and its streams are empty. -/
theorem getElem?_beginCreate (b : Bridge) (platform : PlatformVersion) (c : MachineConfiguration)
    (m : Nat) : (b.beginCreate platform c).1.machines[m]? = b.machines[m]? ∨
      b.machines[m]? = none ∧ ∃ machine, (b.beginCreate platform c).1.machines[m]? = some machine ∧
        machine.state = {} ∧ machine.disconnect = { token := ⟨b.registry.next + 1⟩ } := by
  unfold beginCreate
  split
  · exact .inl rfl
  · split
    · exact .inl rfl
    · dsimp only
      rw [getElem?_added]
      by_cases new : m = b.machines.length
      · rw [if_pos new]
        exact .inr ⟨List.getElem?_eq_none (Nat.le_of_eq new.symm), _, rfl, rfl, rfl⟩
      · exact .inl (if_neg new)

/-- A machine comes into being with the platform and the configuration that it is given. -/
theorem beginCreate_of_ok {b : Bridge} {platform : PlatformVersion} {c : MachineConfiguration}
    {m : Nat} (created : (b.beginCreate platform c).2 = .ok m) :
    ∃ machine, (b.beginCreate platform c).1.machines[m]? = some machine ∧
      machine.platform = platform ∧ machine.configuration = c := by
  cases allowed : platform.require PlatformVersion.forMachines with
  | error e =>
    rw [beginCreate, allowed] at created
    cases created
  | ok _ =>
    cases valid : c.validate with
    | error e =>
      rw [beginCreate, allowed] at created
      simp only [valid] at created
      cases created
    | ok _ =>
      rw [beginCreate, allowed] at created ⊢
      simp only [valid] at created ⊢
      cases created
      exact ⟨_, List.getElem?_concat_length, rfl, rfl⟩

/-! ## edits of other parts -/

variable {b b' : Bridge} {ps : List Part}

/-- The streams of states come with their machines. -/
theorem Edits.states? (h : Edits ps b b') (apart : Part.apart ps [.machines, .states] = true) :
    b'.states? = b.states? := by
  refine h.keeps_view (fun {p b b'} edit other => ?_) apart
  have same {m : Nat} {f : Machine → Machine} (state : ∀ x, (f x).state = x.state) :
      (b.modifyMachine m f).states? = b.states? := b.states?_modifyMachine_of_same m state
  cases edit with
  | machines | states => simp at other
  | phases only | windows only | pipelines only _ | references only =>
    exact same fun x => (congrArg (·.state) (only x)).trans rfl
  | runtime => exact same fun _ => rfl
  | _ => rfl

/-- The pipelines come with their machines, and the machines keep their configurations. -/
theorem Edits.pipeline? (h : Edits ps b b')
    (apart : Part.apart ps [.machines, .pipelines] = true) : b'.pipeline? = b.pipeline? := by
  refine h.keeps_view (fun {p b b'} edit other => ?_) apart
  have same {m : Nat} {f : Machine → Machine} (disconnect : ∀ x, (f x).disconnect = x.disconnect)
      (configuration : ∀ x, (f x).configuration = x.configuration) :
      (b.modifyMachine m f).pipeline? = b.pipeline? :=
    b.pipeline?_modifyMachine_of_same m disconnect configuration
  cases edit with
  | machines | pipelines => simp at other
  | phases only | windows only | states only | references only =>
    exact same (fun x => (congrArg (·.disconnect) (only x)).trans rfl)
      fun x => (congrArg (·.configuration) (only x)).trans rfl
  | runtime => exact same (fun _ => rfl) fun _ => rfl
  | _ => rfl

/-- A modified watcher is found where it was. -/
theorem getElem?_modify_watchers (ws : List Watcher) (j w : Nat) (f : Watcher → Watcher) :
    (ws.modify j f)[w]? = if j = w then ws[w]?.map f else ws[w]? := by
  rw [List.getElem?_modify]
  split <;> simp

/-- What a modification of a watcher leaves alone. -/
theorem map_modify_watchers {α : Type} (ws : List Watcher) (j : Nat) {f : Watcher → Watcher}
    {g : Watcher → α} (hg : ∀ x, g (f x) = g x) : (ws.modify j f).map g = ws.map g := by
  refine List.ext_getElem? fun n => ?_
  rw [List.getElem?_map, List.getElem?_map, getElem?_modify_watchers]
  split
  · rw [Option.map_map]
    exact Option.map_congr fun x _ => hg x
  · rfl

/-- What the watchers follow changes only when one is started. -/
theorem Edits.watched (h : Edits ps b b') (apart : Part.apart ps [.watchers] = true) :
    b'.watched = b.watched := by
  refine h.keeps_view (fun {p b b'} edit other => ?_) apart
  cases edit with
  | watchers => simp at other
  | watching only => exact map_modify_watchers _ _ fun x => by rw [only x]
  | _ => rfl

end Bridge

end MachineBridge
