import MachineBridge.Proofs.Isolation.Step

/-!
# MachineBridge.Proofs.Isolation.Others

What a step of a machine leaves to the others.  A step gives fresh tokens to its machine, if
any, and keeps the numbers of the calls (`MachineStep.extends`), so every token and every call
keeps its rank.  What another machine sees stays the same (`MachineStep.alone_of_ne`), and the
tokens stay in order and apart (`MachineStep.tidy`).
-/

namespace MachineBridge

namespace Bridge

variable {b b' : Bridge} {j m n : Nat} {x x' : Machine} {new : List Handle} {h : Handle}

/-! ## numbered lists -/

section Lists

variable {α β : Type} {p : α → Bool} {f : α → α}

/-- A change of an element is a change of its image. -/
theorem map_modify {g : β → β} {t : α → β} (commutes : ∀ a, t (f a) = g (t a)) (l : List α)
    (n : Nat) : (l.modify n f).map t = (l.map t).modify n g := by
  induction l generalizing n with
  | nil => simp
  | cons a rest ih => cases n <;> simp [commutes, ih]

/-- A change of elements that a filter lets pass is a change of the filtered list. -/
theorem filter_modify (same : ∀ a, p (f a) = p a) (l : List α) (n : Nat) :
    (l.modify n f).filter p =
      if (l[n]?).any p then (l.filter p).modify ((l.take n).countP p) f else l.filter p := by
  induction l generalizing n with
  | nil => simp
  | cons a rest ih =>
    cases n with
    | zero => cases passes : p a <;> simp [same, passes]
    | succ n =>
      simp only [List.modify_succ_cons, List.filter_cons, ih, List.getElem?_cons_succ,
        List.take_succ_cons, List.countP_cons]
      cases passes : p a <;> simp [apply_ite (a :: ·)]

/-- An element that a filter lets pass is found behind those before it that pass. -/
theorem getElem?_filter_countP {l : List α} {n : Nat} {a : α} (found : l[n]? = some a)
    (passes : p a = true) : (l.filter p)[(l.take n).countP p]? = some a := by
  induction l generalizing n with
  | nil => cases found
  | cons b rest ih =>
    cases n with
    | zero =>
      cases found
      rw [List.filter_cons_of_pos passes]
      rfl
    | succ n =>
      rw [List.take_succ_cons, List.countP_cons, List.filter_cons]
      split
      · exact ih found
      · exact ih found

end Lists

/-! ## what a step gives -/

/-- `b'` has given the new tokens to a machine, and nothing to the others. The calls have kept
their numbers. -/
structure Extends (b : Bridge) (m : Nat) (new : List Handle) (b' : Bridge) : Prop where
  others : ∀ j, j ≠ m → b'.given j = b.given j
  own : b'.given m = b.given m ++ new
  ordered : new.Pairwise (·.raw < ·.raw)
  fresh : ∀ h ∈ new, b.registry.next ≤ h.raw ∧ h.raw < b'.registry.next
  counter : b.registry.next ≤ b'.registry.next
  owners : b.calls.map (·.machine) <+: b'.calls.map (·.machine)

/-- Tokens are given to the machine that changes, if to any. -/
theorem given_of_set (found : b.machines[m]? = some x)
    (set : b'.machines = b.machines.set m x') (j : Nat) :
    b'.given j = if m = j then x'.given else b.given j := by
  rw [given, set, List.getElem?_set]
  split
  · rw [if_pos (List.getElem?_eq_some_iff.1 found).1]
    rfl
  · rfl

/-- A machine that keeps its tokens. -/
theorem given_of_kept (found : b.machines[m]? = some x)
    (set : b'.machines = b.machines.set m x') (kept : x'.given = x.given) (j : Nat) :
    b'.given j = b.given j := by
  rw [given_of_set found set]
  split
  · next same =>
    subst same
    rw [kept, given_of_found found]
  · rfl

/-- A machine that is created is given two tokens. -/
theorem given_begun (b : Bridge) (platform : PlatformVersion) (c : MachineConfiguration) (j : Nat) :
    (b.begun platform c).given j =
      if j = b.machines.length then [⟨b.registry.next⟩, ⟨b.registry.next + 1⟩] else b.given j := by
  simp only [given, begun, List.getElem?_append, List.getElem?_singleton]
  obtain before | rfl | beyond := Nat.lt_trichotomy j b.machines.length
  · rw [if_pos before, if_neg (Nat.ne_of_lt before)]
  · rw [if_neg (Nat.lt_irrefl _), if_pos (Nat.sub_self _), if_pos rfl]
    rfl
  · rw [if_neg (Nat.lt_asymm beyond), if_neg (Nat.sub_ne_zero_of_lt beyond),
      if_neg (Nat.ne_of_gt beyond), List.getElem?_eq_none (Nat.le_of_lt beyond)]

/-- A call gives one token to its machine. -/
theorem given_calling (found : b.machines[m]? = some x) (op : Operation) (j : Nat) :
    (b.calling m x op).given j =
      if m = j then b.given m ++ [⟨b.registry.next⟩] else b.given j := by
  rw [given_of_set found rfl, Machine.given_record, given_of_found found]
  rfl

theorem next_erased (r : Registry) (hs : List Handle) : (erased r hs).next = r.next := by
  induction hs generalizing r with
  | nil => rfl
  | cons h rest ih => exact ih (r.erase h)

/-- What is erased is taken out of its place, and the rest keeps its order. -/
theorem slots_erased_sublist (r : Registry) (hs : List Handle) :
    (erased r hs).slots.Sublist r.slots := by
  induction hs generalizing r with
  | nil => exact .refl _
  | cons h rest ih => exact (ih (r.erase h)).trans List.filter_sublist

/-- A decision changes nothing of a call but its outcome. -/
theorem map_decideCall {α : Type} (b : Bridge) (n : Nat) (o : Outcome) {f : ControlCall → α}
    (same : ∀ call outcome, f { call with outcome } = f call) :
    (b.decideCall n o).calls.map f = b.calls.map f :=
  (map_modify (g := id) (fun call => same call _) b.calls n).trans (List.modify_id ..)

/-- A step that gives no token. -/
theorem extends_of_kept (given : ∀ j, b'.given j = b.given j)
    (next : b'.registry.next = b.registry.next)
    (owners : b'.calls.map (·.machine) = b.calls.map (·.machine)) (m : Nat) :
    b.Extends m [] b' where
  others j _ := given j
  own := by rw [given, List.append_nil]
  ordered := .nil
  fresh h mem := nomatch mem
  counter := Nat.le_of_eq next.symm
  owners := owners ▸ List.prefix_rfl

/-- A machine that is begun is given the next two tokens. -/
theorem extends_begun (b : Bridge) (platform : PlatformVersion) (c : MachineConfiguration) :
    b.Extends b.machines.length [⟨b.registry.next⟩, ⟨b.registry.next + 1⟩]
      (b.begun platform c) where
  others j other := by rw [given_begun, if_neg other]
  own := by
    rw [given_begun, if_pos rfl, given_of_absent (List.getElem?_eq_none (Nat.le_refl _))]
    rfl
  ordered := by simp
  fresh := by
    have next : (b.begun platform c).registry.next = b.registry.next + 2 := rfl
    simp [next]
  counter := Nat.le_add_right b.registry.next 2
  owners := List.prefix_rfl

/-- A machine that is called is given the next token. -/
theorem extends_calling (found : b.machines[m]? = some x) (op : Operation) :
    b.Extends m [⟨b.registry.next⟩] (b.calling m x op) where
  others j other := by rw [given_calling found, if_neg other.symm]
  own := by rw [given_calling found, if_pos rfl]
  ordered := List.pairwise_singleton ..
  fresh := by
    have next : (b.calling m x op).registry.next = b.registry.next + 1 := rfl
    simp [next]
  counter := Nat.le_succ b.registry.next
  owners := ⟨[m], by simp [calling]⟩

/-- A step gives fresh tokens to its machine only, if any. -/
theorem MachineStep.extends (step : b.MachineStep m b') : ∃ new, b.Extends m new b' := by
  cases step with
  | same => exact ⟨[], extends_of_kept (fun _ => rfl) rfl rfl m⟩
  | @changes x x' hs found own keeps =>
    refine ⟨[], extends_of_kept (fun j => ?_) ?_ ?_ m⟩
    · exact given_of_kept found rfl keeps.given j
    · exact next_erased b.registry hs
    · rfl
  | decides found own given =>
    refine ⟨[], extends_of_kept (fun j => ?_) ?_ ?_ m⟩
    · rfl
    · rfl
    · exact map_decideCall _ _ _ fun _ _ => rfl
  | begins fresh =>
    subst fresh
    exact ⟨_, extends_begun b _ _⟩
  | calls found => exact ⟨_, extends_calling found _⟩

/-! ## tokens and calls keep their ranks -/

/-- The rank of a call depends on whose the calls before it are. -/
theorem callRank_eq_countP (b : Bridge) (j n : Nat) :
    b.callRank j n = ((b.calls.map (·.machine)).take n).countP (· == j) := by
  rw [← List.map_take, List.countP_map]
  rfl

namespace Extends

/-- What was given to a machine stays given. -/
theorem subset (ext : b.Extends m new b') (mem : h ∈ b.given j) : h ∈ b'.given j := by
  by_cases own : j = m
  · subst own
    rw [ext.own]
    exact List.mem_append_left new mem
  · rwa [ext.others j own]

/-- What is given now was given before, or is one of the new tokens. -/
theorem mem_cases (ext : b.Extends m new b') (mem : h ∈ b'.given j) :
    h ∈ b.given j ∨ j = m ∧ h ∈ new := by
  by_cases own : j = m
  · subst own
    rw [ext.own, List.mem_append] at mem
    exact mem.imp_right fun fresh => ⟨rfl, fresh⟩
  · exact .inl (ext.others j own ▸ mem)

/-- A token that was issued before the step is given to nobody by it. -/
theorem mem_given_iff (ext : b.Extends m new b') (old : h.raw < b.registry.next) :
    h ∈ b'.given j ↔ h ∈ b.given j := by
  refine ⟨fun mem => (ext.mem_cases mem).resolve_right ?_, ext.subset⟩
  exact fun fresh => Nat.not_le_of_lt old (ext.fresh h fresh.2).1

/-- Tokens that were given keep their ranks. -/
theorem rank_eq (ext : b.Extends m new b') (mem : h ∈ b.given j) : b'.rank j h = b.rank j h := by
  by_cases own : j = m
  · subst own
    rw [rank, ext.own, List.idxOf_append_of_mem mem]
    rfl
  · rw [rank, ext.others j own]
    rfl

theorem owner?_eq (ext : b.Extends m new b') (old : n < b.calls.length) :
    (b'.calls[n]?).map (·.machine) = (b.calls[n]?).map (·.machine) := by
  obtain ⟨later, owners⟩ := ext.owners
  rw [← List.getElem?_map, ← List.getElem?_map, ← owners,
    List.getElem?_append_left (by rwa [List.length_map])]

/-- A component keeps the machine that it belongs to. -/
theorem holder?_eq (ext : b.Extends m new b') {v : Value} (holds : b.holder? v = some j) :
    b'.holder? v = some j := by
  cases v with
  | completion n =>
    obtain ⟨call, found, -⟩ := Option.map_eq_some_iff.1 holds
    exact (ext.owner?_eq (List.getElem?_eq_some_iff.1 found).1).trans holds
  | _ => exact holds

/-- Calls that were made keep their places among those of a machine. -/
theorem callRank_eq (ext : b.Extends m new b') (old : n ≤ b.calls.length) (j : Nat) :
    b'.callRank j n = b.callRank j n := by
  obtain ⟨later, owners⟩ := ext.owners
  rw [callRank_eq_countP, callRank_eq_countP, ← owners,
    List.take_append_of_le_length (by rwa [List.length_map])]

/-- Slots that there were look the same afterwards, to every machine. -/
theorem localSlot?_eq (ext : b.Extends m new b') (tidy : b.Tidy) {s : Handle × Value}
    (mem : s ∈ b.registry.slots) (j : Nat) : b'.localSlot? j s = b.localSlot? j s := by
  obtain ⟨k, holds, given⟩ := tidy.slots s mem
  have same : b'.localValue j s.2 = b.localValue j s.2 := by
    cases value : s.2 with
    | completion n =>
      rw [value] at holds
      obtain ⟨call, found, -⟩ := Option.map_eq_some_iff.1 holds
      have old := (List.getElem?_eq_some_iff.1 found).1
      exact congrArg Value.completion (ext.callRank_eq (Nat.le_of_lt old) j)
    | _ => rfl
  have known := ext.mem_given_iff (j := j) (tidy.issued k s.1 given).2
  by_cases own : s.1 ∈ b.given j
  · rw [localSlot?, if_pos (known.2 own), localSlot?, if_pos own, ext.rank_eq own, same]
  · rw [localSlot?, if_neg (mt known.1 own), localSlot?, if_neg own]

/-- The slots of a machine alone are the same as before. -/
theorem localSlots_eq (ext : b.Extends m new b') (tidy : b.Tidy) {slots : List (Handle × Value)}
    (old : ∀ s ∈ slots, s ∈ b.registry.slots) (j : Nat) :
    slots.filterMap (b'.localSlot? j) = slots.filterMap (b.localSlot? j) :=
  List.filterMap_congr fun s mem => ext.localSlot?_eq tidy (old s mem) j

end Extends

/-! ## tokens stay in order and apart -/

namespace Extends

theorem ordered_given (ext : b.Extends m new b') (tidy : b.Tidy) (j : Nat) :
    (b'.given j).Pairwise (·.raw < ·.raw) := by
  by_cases own : j = m
  · subst own
    rw [ext.own, List.pairwise_append]
    refine ⟨tidy.ordered j, ext.ordered, fun h old k fresh => ?_⟩
    exact Nat.lt_of_lt_of_le (tidy.issued j h old).2 (ext.fresh k fresh).1
  · rw [ext.others j own]
    exact tidy.ordered j

theorem issued_given (ext : b.Extends m new b') (tidy : b.Tidy) (mem : h ∈ b'.given j) :
    0 < h.raw ∧ h.raw < b'.registry.next := by
  obtain old | ⟨-, fresh⟩ := ext.mem_cases mem
  · have issued := tidy.issued j h old
    exact ⟨issued.1, Nat.lt_of_lt_of_le issued.2 ext.counter⟩
  · have issued := ext.fresh h fresh
    exact ⟨Nat.lt_of_lt_of_le tidy.started issued.1, issued.2⟩

/-- No token is given to two machines. -/
theorem apart_given (ext : b.Extends m new b') (tidy : b.Tidy) {k : Nat} (first : h ∈ b'.given j)
    (second : h ∈ b'.given k) : j = k := by
  have older {i : Nat} (mem : h ∈ b.given i) : ¬h ∈ new := fun fresh =>
    Nat.not_le_of_lt (tidy.issued i h mem).2 (ext.fresh h fresh).1
  obtain old | ⟨rfl, fresh⟩ := ext.mem_cases first
  · obtain old' | ⟨-, fresh⟩ := ext.mem_cases second
    · exact tidy.apart j k h old old'
    · exact absurd fresh (older old)
  · obtain old | ⟨rfl, -⟩ := ext.mem_cases second
    · exact absurd fresh (older old)
    · rfl

end Extends

/-- A step leaves every machine plain. -/
theorem MachineStep.plain (step : b.MachineStep m b') (tidy : b.Tidy)
    (found : b'.machines[j]? = some x) : x.Plain := by
  cases step with
  | same | decides => exact tidy.plain j x found
  | changes hs known own keeps =>
    rw [List.getElem?_set] at found
    split at found
    · cases (Option.ite_none_right_eq_some.1 found).2
      exact keeps.plain (tidy.plain m _ known)
    · exact tidy.plain j x found
  | calls known =>
    rw [calling, List.getElem?_set] at found
    split at found
    · cases (Option.ite_none_right_eq_some.1 found).2
      have plain := tidy.plain m _ known
      exact
        { state := Machine.given_record _ _ ▸ List.mem_append_left _ plain.state
          disconnect := Machine.given_record _ _ ▸ List.mem_append_left _ plain.disconnect
          window := plain.window }
    · exact tidy.plain j x found
  | begins fresh =>
    rw [begun, List.getElem?_append, List.getElem?_singleton] at found
    split at found
    · exact tidy.plain j x found
    · cases (Option.ite_none_right_eq_some.1 found).2
      constructor <;> simp [Machine.given, RuntimeCall.tokens]

/-- A call that has just begun has the token that its machine was given for it. -/
theorem MachineStep.called (step : b.MachineStep m b') (ext : b.Extends m new b') (tidy : b.Tidy)
    {call : ControlCall} (mem : call ∈ b'.calls) : call.token ∈ b'.given call.machine := by
  cases step with
  | same => exact tidy.called call mem
  | changes | begins => exact ext.subset (tidy.called call mem)
  | @calls x op known =>
    obtain old | latest := List.mem_append.1 mem
    · exact ext.subset (tidy.called call old)
    · cases List.mem_singleton.1 latest
      rw [given_calling known, if_pos rfl]
      exact List.mem_append_right _ (List.mem_singleton_self _)
  | decides =>
    have decided := List.mem_map_of_mem (f := fun c => (c.machine, c.token)) mem
    rw [map_decideCall _ _ _ fun _ _ => rfl] at decided
    obtain ⟨before, old, same⟩ := List.mem_map.1 decided
    rw [← (Prod.mk.inj same).1, ← (Prod.mk.inj same).2]
    exact ext.subset (tidy.called before old)

/-- Whatever is registered is a component of a machine, under a token of the machine. -/
theorem MachineStep.slots (step : b.MachineStep m b') (ext : b.Extends m new b') (tidy : b.Tidy)
    {s : Handle × Value} (mem : s ∈ b'.registry.slots) :
    ∃ k, b'.holder? s.2 = some k ∧ s.1 ∈ b'.given k := by
  have older (old : s ∈ b.registry.slots) : ∃ k, b'.holder? s.2 = some k ∧ s.1 ∈ b'.given k := by
    obtain ⟨k, holds, given⟩ := tidy.slots s old
    exact ⟨k, ext.holder?_eq holds, ext.subset given⟩
  cases step with
  | same => exact older mem
  | changes hs known own keeps => exact older ((slots_erased_sublist b.registry hs).subset mem)
  | decides => exact older (List.mem_of_mem_filter mem)
  | begins fresh =>
    subst fresh
    obtain rfl | rfl | old : s = _ ∨ s = _ ∨ s ∈ b.registry.slots := by
      simpa [begun, Registry.register, Registry.issue, Registry.store] using mem
    · exact ⟨_, rfl, by rw [given_begun, if_pos rfl]; simp⟩
    · exact ⟨_, rfl, by rw [given_begun, if_pos rfl]; simp⟩
    · exact older old
  | calls known =>
    obtain rfl | old := List.mem_cons.1 mem
    · refine ⟨m, ?_, ?_⟩
      · rw [holder?, calling, List.getElem?_concat_length]
        rfl
      · rw [given_calling known, if_pos rfl]
        exact List.mem_append_right _ (List.mem_singleton_self _)
    · exact older old

/-- What is registered stays in order after each step. -/
theorem MachineStep.tidy (step : b.MachineStep m b') (tidy : b.Tidy) : b'.Tidy := by
  obtain ⟨new, ext⟩ := step.extends
  exact
    { ordered := ext.ordered_given tidy
      issued := fun j h mem => ext.issued_given tidy mem
      apart := fun j k h first second => ext.apart_given tidy first second
      started := Nat.lt_of_lt_of_le tidy.started ext.counter
      plain := fun j x found => step.plain tidy found
      called := fun call mem => step.called ext tidy mem
      slots := fun s mem => step.slots ext tidy mem }

/-! ## what the other machines see -/

/-- What a machine sees is the machine, its calls and its slots. -/
theorem alone_congr (machine : b'.machines[j]? = b.machines[j]?)
    (calls : b'.calls.filter (isCallOf j) = b.calls.filter (isCallOf j))
    (slots : b'.registry.slots.filterMap (b'.localSlot? j) =
      b.registry.slots.filterMap (b.localSlot? j)) :
    b'.alone j = b.alone j := by
  have given : b'.given j = b.given j := by rw [Bridge.given, machine]; rfl
  simp only [alone, given, rank_of_given given, machine, calls, slots]

/-- A decision is seen by the machine that the call is of. -/
theorem callsOf_decideCall (b : Bridge) (n : Nat) (o : Outcome) (j : Nat) :
    (b.decideCall n o).calls.filter (isCallOf j) =
      if (b.calls[n]?).any (isCallOf j) then
        (b.calls.filter (isCallOf j)).modify (b.callRank j n) fun call =>
          { call with outcome := call.outcome.or (some o) }
      else b.calls.filter (isCallOf j) := by
  refine filter_modify (fun call => ?_) b.calls n
  rfl

/-- A token that a machine was not given is erased without the machine seeing it. -/
theorem localSlots_erase_of_foreign (foreign : h ∉ b.given j) (r : Registry) :
    (r.erase h).slots.filterMap (b.localSlot? j) = r.slots.filterMap (b.localSlot? j) := by
  rw [Registry.erase, List.filterMap_filter]
  refine List.filterMap_congr fun s _ => ?_
  obtain ⟨token, v⟩ := s
  by_cases same : token = h
  · subst same
    rw [localSlot?_of_foreign foreign, ite_self]
  · exact if_pos (decide_eq_true same)

/-- What is erased for other machines is not seen by a machine. -/
theorem localSlots_erased_of_foreign {hs : List Handle} (foreign : ∀ h ∈ hs, h ∉ b.given j)
    (r : Registry) :
    (erased r hs).slots.filterMap (b.localSlot? j) = r.slots.filterMap (b.localSlot? j) := by
  induction hs generalizing r with
  | nil => rfl
  | cons h rest ih =>
    obtain ⟨first, others⟩ := List.forall_mem_cons.1 foreign
    exact (ih others (r.erase h)).trans (localSlots_erase_of_foreign first r)

/-- A value is stored under such a token without the machine seeing it. -/
theorem localSlots_register_of_foreign (r : Registry) (foreign : ⟨r.next⟩ ∉ b.given j) (v : Value) :
    (r.register v).1.slots.filterMap (b.localSlot? j) = r.slots.filterMap (b.localSlot? j) :=
  List.filterMap_cons_none (localSlot?_of_foreign foreign)

/-- A step of a machine is not seen by the others. -/
theorem MachineStep.alone_of_ne (step : b.MachineStep m b') (tidy : b.Tidy) (other : j ≠ m) :
    b'.alone j = b.alone j := by
  obtain ⟨new, ext⟩ := step.extends
  -- what the step erases belongs to `m`, and what it stores is under tokens that are fresh
  have foreign {h : Handle} (own : h ∈ b.given m) : h ∉ b.given j := fun mem =>
    other (tidy.apart j m h mem own)
  have fresh {h : Handle} (new : b.registry.next ≤ h.raw) : h ∉ b'.given j := fun mem =>
    Nat.not_le_of_lt (tidy.issued j h (ext.others j other ▸ mem)).2 new
  have kept := ext.localSlots_eq tidy (fun _ => id) j
  cases step with
  | same => rfl
  | @changes x x' hs found own keeps =>
    have old := ext.localSlots_eq tidy (slots_erased_sublist b.registry hs).subset j
    refine alone_congr (List.getElem?_set_ne other.symm) rfl (old.trans ?_)
    refine localSlots_erased_of_foreign (fun h mem => foreign ?_) b.registry
    rw [given_of_found found]
    exact own h mem
  | @begins platform c new =>
    subst new
    refine alone_congr ?_ rfl (Eq.trans ?_ kept)
    · rw [begun, List.getElem?_append, List.getElem?_singleton]
      split
      · rfl
      · next beyond =>
        rw [if_neg (by omega), List.getElem?_eq_none (Nat.le_of_not_lt beyond)]
    · refine (localSlots_register_of_foreign _ (fresh ?_) _).trans
        (localSlots_register_of_foreign _ (fresh (Nat.le_refl _)) _)
      exact Nat.le_succ b.registry.next
  | @calls x op found =>
    refine alone_congr (List.getElem?_set_ne other.symm) ?_ (Eq.trans ?_ kept)
    · rw [calling, List.filter_append]
      simp [isCallOf, other.symm]
    · exact localSlots_register_of_foreign b.registry (fresh (Nat.le_refl _)) _
  | @decides h n call o found own given =>
    have old : ∀ s ∈ (b.registry.erase h).slots, s ∈ b.registry.slots := fun s mem =>
      List.mem_of_mem_filter mem
    refine alone_congr rfl ?_ ((ext.localSlots_eq tidy old j).trans
      (localSlots_erase_of_foreign (foreign given) b.registry))
    refine (callsOf_decideCall _ n o j).trans (if_neg ?_)
    simpa [found, isCallOf, own] using other.symm

end Bridge

end MachineBridge
