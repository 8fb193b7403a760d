import MachineBridge.Proofs.Registry.Ownership

/-!
# MachineBridge.Proofs.Registry.Lifetime

How long a shared cell lives and what it reads meanwhile.  A step is described by its
`Effect`: the cell it may create, which it refers to at once, and what it adds to the
number of each cell.  Over a run the number of a cell is all that was added to it, a name
refers to what the last successful hold put under it, and the step that takes the last
reference to a cell comes once at most: the cell is dropped after it.
-/

namespace MachineBridge.Ledger

variable {l : Ledger} {v : Value}

/-! ## the effect of a step -/

/-- The number in a cell; there is none in a cell that was not created. -/
def number (l : Ledger) (id : Nat) : Int64 := (l.cells[id]?.map (·.number)).getD 0

def creates : Step → Bool
  | .register (.cell _) _ => true
  | .registerShared _ => true
  | _ => false

/-- What a step adds to the number of a cell: the number it is created with, and what is
added through a token that names it. -/
def adds (l : Ledger) (id : Nat) : Step → Int64
  | .register (.cell n) _ => if id = l.cells.length then n else 0
  | .registerShared n => if id = l.cells.length then n else 0
  | .add token n => if l.registry.get? token = some (.cell id) then n else 0
  | _ => 0

/-- What a step does to cells and to the references to them. -/
structure Effect (l l' : Ledger) (new : Bool) (added : Nat → Int64) : Prop where
  length : l'.cells.length = if new then l.cells.length + 1 else l.cells.length
  created : new = true → .cell l.cells.length ∈ l'.references
  older : ∀ id, .cell id ∈ l'.references → id < l.cells.length → .cell id ∈ l.references
  number : ∀ id, l'.number id = l.number id + added id

@[simp] theorem length_retain (l : Ledger) (v : Value) :
    (l.retain v).cells.length = l.cells.length := by
  unfold Ledger.retain
  split <;> simp

@[simp] theorem length_letGo (l : Ledger) (v : Value) :
    (l.letGo v).cells.length = l.cells.length := by
  unfold Ledger.letGo
  split <;> simp

/-- Numbers change with what changes the numbers of cells only. -/
theorem number_modify (l : Ledger) (id : Nat) {f : Cell → Cell}
    (same : ∀ c, (f c).number = c.number) (other : Nat) :
    ({ l with cells := l.cells.modify id f } : Ledger).number other = l.number other := by
  simp only [number, List.getElem?_modify]
  cases l.cells[other]? with
  | none => rfl
  | some c =>
    by_cases eq : id = other
    · simp [eq, same]
    · simp [eq]

@[simp] theorem number_retain (l : Ledger) (v : Value) (id : Nat) :
    (l.retain v).number id = l.number id := by
  rcases cell_or_data v with ⟨cell, rfl⟩ | data
  · exact number_modify l cell (by intro c; rfl) id
  · rw [retain_of_data data]

@[simp] theorem number_letGo (l : Ledger) (v : Value) (id : Nat) :
    (l.letGo v).number id = l.number id := by
  rcases cell_or_data v with ⟨cell, rfl⟩ | data
  · exact number_modify l cell (by intro c; rfl) id
  · rw [letGo_of_data data]

/-- A new cell has its number, and others keep theirs. -/
theorem number_append (l : Ledger) (n : Int64) (id : Nat) :
    ({ l with cells := l.cells ++ [⟨n, 0, false⟩] } : Ledger).number id =
      l.number id + if id = l.cells.length then n else 0 := by
  simp only [number, List.getElem?_append, List.getElem?_singleton]
  split
  · next old => simp [Nat.ne_of_lt old]
  · next late =>
    have none : l.cells[id]? = none := List.getElem?_eq_none (Nat.not_lt.mp late)
    rw [none]
    by_cases first : id = l.cells.length
    · simp [first]
    · rw [if_neg (by omega), if_neg first]
      rfl

/-- A step that neither creates cells nor adds to them. -/
theorem Effect.of_still {l l' : Ledger} (length : l'.cells.length = l.cells.length)
    (older : ∀ id, .cell id ∈ l'.references → .cell id ∈ l.references)
    (number : ∀ id, l'.number id = l.number id) : Effect l l' false fun _ => 0 where
  length := length
  created := by simp
  older id mem _ := older id mem
  number id := by rw [number, Int64.add_zero]

/-- A step that leaves a ledger as it is. -/
theorem Effect.refl (l : Ledger) : Effect l l false fun _ => 0 :=
  .of_still rfl (fun _ mem => mem) fun _ => rfl

@[simp] theorem length_store (l : Ledger) (token : Handle) (v : Value) :
    (l.store token v).cells.length = l.cells.length := by
  simp [Ledger.store]

@[simp] theorem number_store (l : Ledger) (token : Handle) (v : Value) (id : Nat) :
    (l.store token v).number id = l.number id :=
  number_retain _ v id

/-- A value that is stored is referred to once more. -/
@[simp] theorem references_store (l : Ledger) (token : Handle) (v : Value) :
    (l.store token v).references = v :: l.references := by
  cases v <;> rfl

/-- Behind a step that leaves cells alone. -/
theorem Effect.still_trans {l l' l'' : Ledger} {new : Bool} {added : Nat → Int64}
    (first : Effect l l' false fun _ => 0) (second : Effect l' l'' new added) :
    Effect l l'' new added := by
  have same : l'.cells.length = l.cells.length := first.length
  refine ⟨?_, fun made => ?_, fun id mem old => ?_, fun id => ?_⟩
  · rw [second.length, same]
  · rw [← same]
    exact second.created made
  · exact first.older id (second.older id mem (same ▸ old)) old
  · rw [second.number, first.number, Int64.add_zero]

theorem effect_issue (l : Ledger) :
    Effect l { l with registry := l.registry.issue.1 } false fun _ => 0 :=
  .of_still rfl (fun _ mem => mem) fun _ => rfl

/-- Storing what is no cell. -/
theorem effect_store (l : Ledger) (token : Handle) (data : ∀ id, v ≠ .cell id) :
    Effect l (l.store token v) false fun _ => 0 := by
  refine .of_still (length_store l token v) (fun id mem => ?_) (number_store l token v)
  rw [references_store, List.mem_cons] at mem
  exact mem.resolve_left fun same => data id same.symm

/-- A value without a cell is registered and counts for nothing. -/
theorem effect_register (l : Ledger) (data : ∀ id, v ≠ .cell id) :
    Effect l (l.register v).1 false fun _ => 0 :=
  (effect_issue l).still_trans (effect_store _ _ data)

/-- Storing what was built for it. -/
theorem effect_store_build (l : Ledger) (token : Handle) (content : Content) (via : Via) :
    Effect l ((l.build content).1.store token (l.build content).2)
      (creates (.register content via)) fun id => l.adds id (.register content via) := by
  cases content with
  | cell n =>
    refine ⟨?_, fun _ => ?_, fun id mem old => ?_, fun id => ?_⟩
    · rw [length_store]
      exact List.length_append
    · rw [references_store]
      exact List.mem_cons_self
    · rw [references_store] at mem
      refine (List.mem_cons.mp mem).resolve_left fun same => ?_
      exact Nat.ne_of_lt old (Value.cell.inj same)
    · rw [number_store]
      exact number_append l n id
  | _ => exact effect_store l token fun id => by simp [Ledger.build]

/-- A churn creates no cell and adds nothing. -/
theorem effect_churn (release : Bool) (left : Nat) (l : Ledger) (tally : Tally) :
    Effect l (Ledger.churn release left l tally).1 false fun _ => 0 := by
  induction left generalizing l tally with
  | zero => exact .refl _
  | succ left ih =>
    rw [Ledger.churn]
    cases release with
    | true => exact (effect_issue l).still_trans (ih _ _)
    | false =>
      refine .still_trans (effect_register l (v := .uint64 (UInt64.ofNat left)) ?_) (ih _ _)
      exact fun id => by simp

/-- A name that takes hold of a value is one more owner of it. -/
theorem effect_hold (h : Sound l) (k : Kind) (token : Handle) (name : String) :
    Effect l (l.hold k token name).1 false fun _ => 0 := by
  unfold Ledger.hold
  split
  · exact .refl _
  · next v resolved =>
    have found := (Registry.resolve_eq_ok_iff.mp resolved).1
    have owned : v ∈ l.references := h.mem_references_iff.mpr (.inl ⟨token, found⟩)
    have older : ∀ w, w ∈ l.registry.slots.map Prod.snd ++ (v :: (l.others name).map Prod.snd) →
        w ∈ l.references := by
      intro w mem
      rcases List.mem_cons.mp (List.perm_middle.mem_iff.mp mem) with rfl | mem
      · exact owned
      · exact ((List.filter_sublist.map Prod.snd).append_left _).subset mem
    cases l.held.lookup name with
    | some old =>
      refine .of_still (by simp) (fun id mem => older _ ?_)
        fun id => (number_letGo _ old id).trans (number_retain l v id)
      simpa [references, others, Registrations.registry_letGo, Registrations.registry_retain]
        using mem
    | none =>
      refine .of_still (by simp) (fun id mem => older _ ?_) fun id => number_retain l v id
      simpa [references, others, Registrations.registry_retain] using mem

/-- An addition changes one number by what is added. -/
theorem effect_add (h : Sound l) (token : Handle) (n : Int64) :
    Effect l (l.step (.add token n)).1 false fun id => l.adds id (.add token n) := by
  cases resolved : l.registry.resolve .cell token with
  | error e =>
    have none : (fun id => l.adds id (.add token n)) = fun _ => 0 := by
      funext id
      refine if_neg fun found => ?_
      have named : l.registry.resolve .cell token = .ok (.cell id) :=
        Registry.resolve_eq_ok_iff.mpr ⟨found, rfl⟩
      rw [resolved] at named
      cases named
    rw [none]
    simp only [Ledger.step, Ledger.add, resolved]
    exact .refl _
  | ok v =>
    obtain ⟨found, kind⟩ := Registry.resolve_eq_ok_iff.mp resolved
    obtain ⟨cell, rfl⟩ | data := cell_or_data v
    · have known := h.counted.known cell (h.mem_references_iff.mpr (.inl ⟨token, found⟩))
      simp only [Ledger.step, Ledger.add, resolved]
      refine ⟨List.length_modify _ _ _, by simp, fun id mem _ => mem, fun id => ?_⟩
      simp only [number, List.getElem?_modify, adds, found, Option.some.injEq, Value.cell.injEq]
      by_cases same : cell = id
      · subst same
        simp [List.getElem?_eq_getElem known]
      · simp [same]
    · cases v <;> simp_all [Value.kind]

/-- Every step has its effect on the cells, and no other. -/
theorem effect_step (h : Sound l) (s : Step) :
    Effect l (l.step s).1 (creates s) fun id => l.adds id s := by
  cases s with
  | register content via =>
    have stored := effect_store_build { l with registry := l.registry.issue.1 }
      l.registry.issue.2 content via
    have built := (effect_issue l).still_trans stored
    cases via <;> exact built
  | registerShared number =>
    have built := (effect_issue l).still_trans
      (effect_store_build { l with registry := l.registry.issue.1 } l.registry.issue.2
        (.cell number) .plain)
    -- The second token refers to the same cell.
    refine ⟨?_, fun _ => ?_, fun id mem old => ?_, fun id => ?_⟩
    · exact (length_store _ _ _).trans built.length
    · exact references_store _ _ _ ▸ List.mem_cons_self
    · refine built.older id ?_ old
      refine (List.mem_cons.mp (references_store _ _ _ ▸ mem)).resolve_left fun same => ?_
      exact Nat.ne_of_lt old (Value.cell.inj same)
    · exact (number_store _ _ _ id).trans (built.number id)
  | registerNested number =>
    have inner := (effect_issue l).still_trans
      (effect_register { l with registry := l.registry.issue.1 } (v := .int32 number) (by simp))
    exact inner.still_trans
      (effect_store _ ⟨l.registry.next⟩ (v := .word l.registry.next) (by simp))
  | registerPanicking => exact effect_issue l
  | resolve token k =>
    rw [Ledger.step]
    split <;> exact .refl _
  | release token =>
    show Effect l (l.release token).1 false fun _ => 0
    unfold Ledger.release
    cases found : l.registry.get? token with
    | none =>
      rw [Registry.release_of_unnamed found]
      exact .refl _
    | some v =>
      rw [Registry.release_of_named found]
      refine .of_still (length_letGo _ v) (fun id mem => ?_) (number_letGo _ v)
      rw [references_letGo] at mem
      exact ((List.filter_sublist.map Prod.snd).append_right _).subset mem
  | contains token => exact .refl _
  | isEmpty => exact .refl _
  | debug => exact .refl _
  | hold token k name =>
    exact effect_hold h k token name
  | read name =>
    rw [Ledger.step]
    split <;> exact .refl _
  | letGo name =>
    show Effect l (l.letGoName name).1 false fun _ => 0
    unfold Ledger.letGoName
    split
    · next v found =>
      refine .of_still (length_letGo _ v) (fun id mem => ?_) (number_letGo _ v)
      rw [references_letGo] at mem
      exact ((List.filter_sublist.map Prod.snd).append_left _).subset mem
    · exact .refl _
  | add token n => exact effect_add h token n
  | drops => exact .refl _
  | concurrent workers count release => exact effect_churn release _ l {}

/-! ## numbers over a run -/

/-- What a run adds to the number of a cell. -/
def total (id : Nat) : Ledger → List Step → Int64
  | _, [] => 0
  | l, s :: rest => l.adds id s + total id (l.step s).1 rest

/-- The number of a cell is what it was, and all that was added to it. -/
theorem number_run (h : Sound l) (id : Nat) (steps : List Step) :
    (l.run steps).number id = l.number id + total id l steps := by
  induction steps generalizing l with
  | nil => exact (Int64.add_zero _).symm
  | cons s rest ih =>
    rw [total, ← Int64.add_assoc, ← (effect_step h s).number]
    exact ih (h.step s)

/-! ## references that go -/

/-- A step takes the last reference to a cell. -/
def parts (id : Nat) (l : Ledger) (s : Step) : Bool :=
  .cell id ∈ l.references ∧ .cell id ∉ (l.step s).1.references

/-- How often the last reference to a cell goes in a run. -/
def partings (id : Nat) : Ledger → List Step → Nat
  | _, [] => 0
  | l, s :: rest => (if parts id l s then 1 else 0) + partings id (l.step s).1 rest

theorem partings_concat (id : Nat) (l : Ledger) (steps : List Step) (s : Step) :
    partings id l (steps ++ [s]) =
      partings id l steps + if parts id (l.run steps) s then 1 else 0 := by
  induction steps generalizing l with
  | nil => exact Nat.add_comm _ 0
  | cons t rest ih =>
    rw [List.cons_append, partings, partings, ih, Nat.add_assoc]
    rfl

/-- A cell is dropped, which one that was not created is not. -/
def isDropped (l : Ledger) (id : Nat) : Bool := l.cells[id]?.any (·.dropped)

/-- A cell is dropped exactly if nobody refers to it any more. -/
theorem Sound.isDropped_iff (h : Sound l) (id : Nat) :
    l.isDropped id = true ↔ id < l.cells.length ∧ .cell id ∉ l.references := by
  unfold isDropped
  cases found : l.cells[id]? with
  | none =>
    have late := List.getElem?_eq_none_iff.mp found
    simp [Nat.not_lt.mpr late]
  | some c =>
    have old := (List.getElem?_eq_some_iff.mp found).1
    simp only [Option.any_some, (h.counted.fits id c found).dropped, List.count_eq_zero, old,
      true_and]

/-- A step drops a cell if it takes the last reference to it; dropped cells stay so. -/
theorem isDropped_step (h : Sound l) (s : Step) (id : Nat) :
    (l.step s).1.isDropped id = true ↔ l.isDropped id = true ∨ parts id l s = true := by
  have effect := effect_step h s
  have longer : l.cells.length ≤ (l.step s).1.cells.length := by
    rw [effect.length]
    split <;> omega
  rw [(h.step s).isDropped_iff, h.isDropped_iff, parts, decide_eq_true_iff]
  constructor
  · rintro ⟨there, gone⟩
    have old : id < l.cells.length := by
      by_contra late
      rw [effect.length] at there
      split at there
      · next made =>
        obtain rfl : id = l.cells.length := by omega
        exact gone (effect.created made)
      · exact late there
    by_cases owned : .cell id ∈ l.references
    · exact .inr ⟨owned, gone⟩
    · exact .inl ⟨old, owned⟩
  · rintro (⟨old, unowned⟩ | ⟨owned, gone⟩)
    · exact ⟨Nat.lt_of_lt_of_le old longer, fun mem => unowned (effect.older id mem old)⟩
    · exact ⟨Nat.lt_of_lt_of_le (h.counted.known id owned) longer, gone⟩

/-- The last reference to a cell goes once, if it is dropped, and never otherwise. -/
theorem partings_run (steps : List Step) (id : Nat) :
    partings id {} steps = if (run {} steps).isDropped id then 1 else 0 := by
  induction steps using List.reverseRecOn with
  | nil => rfl
  | append_singleton steps s ih =>
    have sound : Sound (run {} steps) := sound_initial.run steps
    rw [partings_concat, ih, run_append]
    generalize run {} steps = l at sound
    have step : (run l [s]).isDropped id = true ↔ _ := isDropped_step sound s id
    have owned : parts id l s = true → ¬ l.isDropped id = true := by
      rw [parts, decide_eq_true_iff, sound.isDropped_iff]
      exact fun parts dropped => dropped.2 parts.1
    by_cases dropped : l.isDropped id = true
    · rw [if_pos dropped, if_neg fun parts => owned parts dropped, if_pos (step.mpr (.inl dropped))]
    · by_cases parts : parts id l s = true
      · rw [if_neg dropped, if_pos parts, if_pos (step.mpr (.inr parts))]
      · rw [if_neg dropped, if_neg parts, if_neg fun after => (step.mp after).elim dropped parts]

/-! ## held references -/

/-- A step puts something else under a name, or nothing. -/
def takes (l : Ledger) (name : String) : Step → Bool
  | .letGo n => n = name
  | .hold token k n => n = name ∧ (l.registry.resolve k token).isOk
  | _ => false

/-- What a name refers to is kept over a run. -/
def Keeps (name : String) : Ledger → List Step → Prop
  | _, [] => True
  | l, s :: rest => l.takes name s = false ∧ Keeps name (l.step s).1 rest

theorem keeps_append (name : String) (l : Ledger) (first second : List Step) :
    Keeps name l (first ++ second) ↔ Keeps name l first ∧ Keeps name (l.run first) second := by
  induction first generalizing l with
  | nil => simp [Keeps, run]
  | cons s rest ih =>
    rw [List.cons_append, Keeps, Keeps, ih, and_assoc]
    rfl

theorem held_churn (release : Bool) (left : Nat) (l : Ledger) (tally : Tally) :
    (Ledger.churn release left l tally).1.held = l.held := by
  induction left generalizing l tally with
  | zero => rfl
  | succ left ih =>
    rw [Ledger.churn]
    cases release <;> exact ih _ _

/-- What a name refers to after another name was given a reference. -/
theorem lookup_hold {k : Kind} {token : Handle} (resolved : l.registry.resolve k token = .ok v)
    (other name : String) : (l.hold k token other).1.held.lookup name =
      if name = other then some v else l.held.lookup name := by
  have held : (l.hold k token other).1.held = (other, v) :: l.others other := by
    rw [Ledger.hold, resolved]
    cases l.held.lookup other <;> simp [others]
  rw [held, List.lookup_cons]
  by_cases same : name = other
  · simp [same]
  · rw [beq_eq_false_iff_ne.mpr same, if_neg same]
    exact (lookup_filter l.held other name).trans (if_neg same)

theorem lookup_letGo (l : Ledger) (other name : String) :
    (l.letGoName other).1.held.lookup name =
      if name = other then none else l.held.lookup name := by
  unfold letGoName
  split
  · rw [held_letGo]
    exact lookup_filter l.held other name
  · next missing =>
    split
    · next same => exact same ▸ missing
    · rfl

/-- A name refers to what it did, unless the step takes it. -/
theorem lookup_step_of_kept {name : String} {s : Step} (kept : l.takes name s = false) :
    (l.step s).1.held.lookup name = l.held.lookup name := by
  cases s with
  | register content via => cases via <;> simp [Ledger.step, Ledger.store]
  | registerShared number => simp [Ledger.step, Ledger.register, Ledger.store]
  | registerNested number => simp [Ledger.step, Ledger.register, Ledger.store]
  | release token =>
    simp only [Ledger.step, Ledger.release]
    split <;> simp
  | hold token k other =>
    show (l.hold k token other).1.held.lookup name = _
    cases resolved : l.registry.resolve k token with
    | error e => rw [Ledger.hold, resolved]
    | ok v =>
      rw [lookup_hold resolved, if_neg]
      rintro rfl
      simp [takes, resolved, Except.isOk, Except.toBool] at kept
  | letGo other =>
    show (l.letGoName other).1.held.lookup name = _
    rw [lookup_letGo, if_neg]
    rintro rfl
    simp [takes] at kept
  | add token n =>
    have held : (l.add token n).1.held = l.held := by
      unfold Ledger.add
      split <;> rfl
    rw [Ledger.step]
    split <;> simp_all
  | concurrent workers count release => exact congrArg _ (held_churn release _ l {})
  | resolve token k => simp only [Ledger.step]; split <;> rfl
  | read other => simp only [Ledger.step]; split <;> rfl
  | _ => rfl

/-- What a name refers to is kept over a run that takes it nowhere. -/
theorem lookup_run_of_keeps {name : String} {steps : List Step} (keeps : Keeps name l steps) :
    (l.run steps).held.lookup name = l.held.lookup name := by
  induction steps generalizing l with
  | nil => rfl
  | cons s rest ih => exact (ih keeps.2).trans (lookup_step_of_kept keeps.1)

/-- A name refers to what the last successful hold put under it. -/
theorem lookup_run_iff (steps : List Step) (name : String) (v : Value) :
    (run {} steps).held.lookup name = some v ↔ ∃ before token k after,
      steps = before ++ .hold token k name :: after ∧
      (run {} before).registry.resolve k token = .ok v ∧
      Keeps name (run {} (before ++ [.hold token k name])) after := by
  constructor
  · intro found
    induction steps using List.reverseRecOn with
    | nil => simp [run] at found
    | append_singleton steps s ih =>
      rw [run_append] at found
      cases taken : (run {} steps).takes name s with
      | false =>
        obtain ⟨before, token, k, after, rfl, resolved, keeps⟩ :=
          ih ((lookup_step_of_kept taken).symm.trans found)
        refine ⟨before, token, k, after ++ [s], by simp, resolved, ?_⟩
        rw [keeps_append]
        refine ⟨keeps, ?_, trivial⟩
        rwa [← run_append, List.append_assoc]
      | true =>
        cases s with
        | letGo other =>
          obtain rfl : other = name := by simpa [takes] using taken
          have gone := lookup_letGo (run {} steps) other other
          rw [if_pos rfl] at gone
          exact absurd (gone.symm.trans found) (by simp)
        | hold token k other =>
          have last : other = name ∧ _ := of_decide_eq_true taken
          obtain ⟨rfl, fine⟩ := last
          cases resolved : (run {} steps).registry.resolve k token with
          | error e => simp [resolved, Except.isOk, Except.toBool] at fine
          | ok w =>
            have new := lookup_hold resolved other other
            rw [if_pos rfl] at new
            obtain rfl : w = v := Option.some.inj (new.symm.trans found)
            exact ⟨steps, token, k, [], rfl, resolved, trivial⟩
        | _ => simp [takes] at taken
  · rintro ⟨before, token, k, after, rfl, resolved, keeps⟩
    rw [List.append_cons, run_append, lookup_run_of_keeps keeps, run_append]
    exact (lookup_hold resolved name name).trans (if_pos rfl)

/-! ## refused steps -/

/-- A step that fails changes nothing. -/
theorem step_of_failed (l : Ledger) {s : Step} {e : HandleError}
    (failed : (l.step s).2 = .failed e) : (l.step s).1 = l := by
  cases s with
  | register content via => cases via <;> simp [Ledger.step] at failed
  | resolve token k =>
    rw [Ledger.step] at failed ⊢
    split <;> rfl
  | read name =>
    rw [Ledger.step] at failed ⊢
    split <;> rfl
  | release token =>
    cases released : l.registry.release token with
    | error e => simp only [Ledger.step, Ledger.release, released]
    | ok freed => simp [Ledger.step, Ledger.release, released, Reply.ofUnit] at failed
  | hold token k name =>
    cases resolved : l.registry.resolve k token with
    | error e => simp only [Ledger.step, Ledger.hold, resolved]
    | ok v => simp [Ledger.step, Ledger.hold, resolved, Reply.ofUnit] at failed
  | add token n =>
    cases resolved : l.registry.resolve .cell token with
    | error e => simp only [Ledger.step, Ledger.add, resolved]
    | ok v =>
      obtain ⟨cell, rfl⟩ | data := cell_or_data v
      · simp [Ledger.step, Ledger.add, resolved] at failed
      · have kind := (Registry.resolve_eq_ok_iff.mp resolved).2
        cases v <;> simp_all [Value.kind]
  | _ => simp [Ledger.step] at failed

/-! ## the lifetime of cells -/

/-- What is known of shared cells after a run. -/
structure Lifetimes (steps : List Step) : Prop where
  /-- A cell is dropped when no token names it and no reference to it is held. -/
  dropped : ∀ (id : Nat) (c : Cell), (run {} steps).cells[id]? = some c →
    (c.dropped = true ↔ (∀ token, (run {} steps).registry.get? token ≠ some (.cell id)) ∧
      ∀ name, (run {} steps).held.lookup name ≠ some (.cell id))
  /-- The last reference to it went once then, and otherwise never. -/
  once : ∀ (id : Nat) (c : Cell), (run {} steps).cells[id]? = some c →
    partings id {} steps = if c.dropped then 1 else 0
  /-- Those cells are counted whose last reference went. -/
  counts : ((run {} steps).step .drops).2 = .number
    ((List.range (run {} steps).cells.length).countP fun id => partings id {} steps = 1)
  /-- A reference is held from a hold that succeeds until its name is taken. -/
  holds : ∀ (name : String) (v : Value),
    (run {} steps).held.lookup name = some v ↔ ∃ before token k after,
      steps = before ++ .hold token k name :: after ∧
      (run {} before).registry.resolve k token = .ok v ∧
      Keeps name (run {} (before ++ [.hold token k name])) after
  /-- A held reference reads all that was added to its cell. -/
  reads : ∀ (name : String) (id : Nat), (run {} steps).held.lookup name = some (.cell id) →
    ((run {} steps).step (.read name)).2 = .value (.cell (total id {} steps))
  /-- A token of the cell reads the same. -/
  resolves : ∀ (token : Handle) (id : Nat),
    (run {} steps).registry.get? token = some (.cell id) →
    ((run {} steps).step (.resolve token .cell)).2 = .value (.cell (total id {} steps))
  /-- A step that fails changes no cell, no token and no held reference. -/
  fails : ∀ (s : Step) (e : HandleError), ((run {} steps).step s).2 = .failed e →
    ((run {} steps).step s).1 = run {} steps

/-- The cells dropped so far, counted by their numbers. -/
theorem drops_eq_countP (l : Ledger) :
    l.drops = (List.range l.cells.length).countP l.isDropped := by
  have cells : l.cells.map (·.dropped) = (List.range l.cells.length).map l.isDropped := by
    refine List.ext_getElem (by simp) fun id old _ => ?_
    rw [List.length_map] at old
    simp [isDropped, List.getElem?_eq_getElem old]
  have dropped := congrArg (List.countP id) cells
  rwa [List.countP_map, List.countP_map] at dropped

/-- A cell shows the sum of all that was added to it. -/
theorem content_cell (steps : List Step) (id : Nat) :
    (run {} steps).content (.cell id) = .cell (total id {} steps) := by
  have number := number_run sound_initial id steps
  rw [show ({} : Ledger).number id = 0 from rfl, Int64.zero_add] at number
  exact congrArg Content.cell number

theorem lifetimes (steps : List Step) : Lifetimes steps where
  dropped id c found := by
    have sound := sound_initial.run steps
    rw [(sound.counted.fits id c found).dropped, List.count_eq_zero, sound.mem_references_iff]
    simp
  once id c found := by
    rw [partings_run, isDropped, found, Option.any_some]
  counts := by
    have counted : ∀ id, decide (partings id {} steps = 1) = (run {} steps).isDropped id := by
      intro id
      rw [partings_run]
      cases (run {} steps).isDropped id <;> rfl
    simp only [counted]
    exact congrArg (fun n : Nat => Reply.number n) (drops_eq_countP (run {} steps))
  holds := lookup_run_iff steps
  reads name id found := by
    simp only [step, found, content_cell]
  resolves token id found := by
    have resolved : (run {} steps).registry.resolve .cell token = .ok (.cell id) :=
      Registry.resolve_eq_ok_iff.mpr ⟨found, rfl⟩
    simp only [step, resolved, content_cell]
  fails s e := step_of_failed (run {} steps)

end MachineBridge.Ledger
