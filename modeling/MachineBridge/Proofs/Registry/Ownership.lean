import MachineBridge.Registry.Ledger
import MachineBridge.Proofs.Registrations
import Mathlib.Data.List.Perm.Basic

/-!
# MachineBridge.Proofs.Registry.Ownership

The owners of shared cells.  Everything that refers to a cell stands in one of two tables,
that of the tokens and that of the references held under names.  `Counted` says that each
cell counts what refers to it and is dropped when nothing does; it asks only how often a
value is referred to, so an operation that moves references from one place to another
rests on a permutation, and only `retain`, `letGo` and `build` touch the cells.
-/

namespace MachineBridge.Ledger

/-! ## tables with distinct keys -/

section Table

variable {α : Type} [DecidableEq α] {table : List (α × Value)} {key : α} {v : Value}

/-- A value that is found stands in the table once more than without its key. -/
theorem perm_of_lookup (nodup : (table.map Prod.fst).Nodup) (found : table.lookup key = some v) :
    (table.map Prod.snd).Perm (v :: (table.filter fun (k, _) => k ≠ key).map Prod.snd) := by
  induction table with
  | nil => simp at found
  | cons entry rest ih =>
    obtain ⟨k, w⟩ := entry
    rw [List.map_cons, List.nodup_cons] at nodup
    by_cases same : k = key
    · subst same
      have others : ∀ entry ∈ rest, entry.1 ≠ k := fun entry mem same =>
        nodup.1 (List.mem_map.mpr ⟨entry, mem, same⟩)
      obtain rfl : w = v := by simpa using found
      simp only [ne_eq, not_true_eq_false, decide_false, Bool.false_eq_true, not_false_eq_true,
        List.filter_cons_of_neg, List.map_cons]
      rw [List.filter_eq_self.mpr (by simpa using others)]
    · rw [List.lookup_cons, beq_eq_false_iff_ne.mpr (Ne.symm same)] at found
      rw [List.filter_cons_of_pos (by simpa using same), List.map_cons, List.map_cons]
      exact ((ih nodup.2 found).cons w).trans (List.Perm.swap v w _)

/-- A key without a value is in no entry. -/
theorem filter_of_lookup_none (none : table.lookup key = none) :
    (table.filter fun (k, _) => k ≠ key) = table := by
  rw [List.lookup_eq_none_iff] at none
  refine List.filter_eq_self.mpr fun entry mem => decide_eq_true fun same => ?_
  exact absurd (none entry mem) (by simp [same])

/-- Without the entries of a key, that key finds nothing and every other one what it did. -/
theorem lookup_filter (table : List (α × Value)) (key other : α) :
    (table.filter fun (k, _) => k ≠ key).lookup other =
      if other = key then none else table.lookup other := by
  induction table with
  | nil => simp
  | cons entry rest ih =>
    obtain ⟨k, w⟩ := entry
    by_cases same : k = key
    · rw [List.filter_cons_of_neg (by simpa using same), ih]
      split
      · rfl
      · next distinct =>
        rw [List.lookup_cons, beq_eq_false_iff_ne.mpr fun eq => distinct (eq.trans same)]
    · rw [List.filter_cons_of_pos (by simpa using same), List.lookup_cons, List.lookup_cons, ih]
      by_cases found : other = k
      · simp [found, same]
      · rw [beq_eq_false_iff_ne.mpr found]

/-- Where the keys are distinct each of them finds its own value. -/
theorem lookup_of_mem (nodup : (table.map Prod.fst).Nodup) (mem : (key, v) ∈ table) :
    table.lookup key = some v := by
  induction table with
  | nil => simp at mem
  | cons entry rest ih =>
    obtain ⟨k, w⟩ := entry
    rw [List.map_cons, List.nodup_cons] at nodup
    rcases List.mem_cons.mp mem with same | later
    · obtain ⟨rfl, rfl⟩ := Prod.mk.inj same
      simp
    · have other : key ≠ k := fun same => nodup.1 (List.mem_map.mpr ⟨_, later, same⟩)
      rw [List.lookup_cons, beq_eq_false_iff_ne.mpr other]
      exact ih nodup.2 later

/-- Where the keys are distinct a value stands in the table if some key finds it. -/
theorem mem_table_iff (nodup : (table.map Prod.fst).Nodup) :
    v ∈ table.map Prod.snd ↔ ∃ key, table.lookup key = some v := by
  constructor
  · intro mem
    obtain ⟨⟨key, w⟩, entry, rfl⟩ := List.mem_map.mp mem
    exact ⟨key, lookup_of_mem nodup entry⟩
  · rintro ⟨key, found⟩
    exact (perm_of_lookup nodup found).mem_iff.mpr List.mem_cons_self

end Table

variable {l : Ledger} {v w : Value} {refs refs' : List Value}

/-! ## counted cells -/

/-- A cell counts its references and is dropped when there is none. -/
structure Fits (c : Cell) (refs : Nat) : Prop where
  owners : c.owners = refs
  dropped : c.dropped = true ↔ refs = 0

/-- Each cell counts the references to it, and none of them leads nowhere. -/
structure Counted (cells : List Cell) (refs : List Value) : Prop where
  fits : ∀ (id : Nat) (c : Cell), cells[id]? = some c → Fits c (refs.count (.cell id))
  known : ∀ id, .cell id ∈ refs → id < cells.length

/-- All that matters is how often a cell is referred to. -/
theorem Counted.congr {cells : List Cell} (h : Counted cells refs)
    (same : ∀ id, refs'.count (.cell id) = refs.count (.cell id)) : Counted cells refs' where
  fits id c found := same id ▸ h.fits id c found
  known id mem := by
    rw [← List.count_pos_iff, same, List.count_pos_iff] at mem
    exact h.known id mem

/-- Counts do not depend on the order of references. -/
theorem Counted.perm {cells : List Cell} (h : Counted cells refs) (perm : refs.Perm refs') :
    Counted cells refs' :=
  h.congr fun id => (perm.count_eq (.cell id)).symm

/-- References to one cell come or go, and the cell with them. -/
theorem Counted.modify {cells : List Cell} {id : Nat} {f : Cell → Cell} (h : Counted cells refs)
    (mem : .cell id ∈ refs)
    (own : ∀ c, Fits c (refs.count (.cell id)) → Fits (f c) (refs'.count (.cell id)))
    (others : ∀ other, other ≠ id → refs'.count (.cell other) = refs.count (.cell other)) :
    Counted (cells.modify id f) refs' where
  fits other c found := by
    rw [List.getElem?_modify] at found
    obtain ⟨old, before, rfl⟩ := Option.map_eq_some_iff.mp found
    have fits := h.fits other old before
    split
    · next same =>
      subst same
      exact own old fits
    · next distinct =>
      rw [others other (Ne.symm distinct)]
      exact fits
  known other there := by
    rw [List.length_modify]
    by_cases same : other = id
    · exact same ▸ h.known id mem
    · rw [← List.count_pos_iff, others other same, List.count_pos_iff] at there
      exact h.known other there

/-- A value other than a cell is counted nowhere. -/
theorem count_cons_of_data (data : ∀ id, v ≠ .cell id) (refs : List Value) (id : Nat) :
    (v :: refs).count (.cell id) = refs.count (.cell id) :=
  List.count_cons_of_ne (data id)

theorem retain_of_data (data : ∀ id, v ≠ .cell id) (l : Ledger) : l.retain v = l := by
  cases v <;> first | rfl | exact absurd rfl (data _)

theorem letGo_of_data (data : ∀ id, v ≠ .cell id) (l : Ledger) : l.letGo v = l := by
  cases v <;> first | rfl | exact absurd rfl (data _)

/-- A value is a cell, or it is not. -/
theorem cell_or_data (v : Value) : (∃ id, v = .cell id) ∨ ∀ id, v ≠ .cell id := by
  cases v <;> simp

/-- What is referred to already gets one more reference. -/
theorem Counted.retain (h : Counted l.cells refs) (owned : ∀ id, v = .cell id → v ∈ refs) :
    Counted (l.retain v).cells (v :: refs) := by
  rcases cell_or_data v with ⟨id, rfl⟩ | data
  · have mem := owned id rfl
    refine h.modify mem (fun c fits => ?_) (fun other distinct => ?_)
    · have pos := List.count_pos_iff.mpr mem
      rw [List.count_cons_self]
      refine ⟨congrArg (· + 1) fits.owners, fits.dropped.trans ?_⟩
      omega
    · exact List.count_cons_of_ne fun same => distinct (Value.cell.inj same).symm
  · rw [retain_of_data data]
    exact h.congr (count_cons_of_data data refs)

/-- A reference less; the last one drops the cell. -/
theorem Counted.letGo (h : Counted l.cells (v :: refs)) : Counted (l.letGo v).cells refs := by
  rcases cell_or_data v with ⟨id, rfl⟩ | data
  · refine h.modify List.mem_cons_self (fun c fits => ?_) (fun other distinct => ?_)
    · have owners := fits.owners
      have dropped := fits.dropped
      rw [List.count_cons_self] at owners dropped
      refine ⟨by rw [owners]; rfl, ?_⟩
      simp only [Bool.or_eq_true, beq_iff_eq, dropped, owners]
      omega
    · exact (List.count_cons_of_ne fun same => distinct (Value.cell.inj same).symm).symm
  · rw [letGo_of_data data]
    exact h.congr fun id => (count_cons_of_data data refs id).symm

/-- A built value is referred to by whoever retains it first. -/
theorem Counted.build (h : Counted l.cells refs) (content : Content) :
    Counted ((l.build content).1.retain (l.build content).2).cells
      ((l.build content).2 :: refs) := by
  have data {v : Value} (data : ∀ id, v ≠ .cell id) : Counted (l.retain v).cells (v :: refs) :=
    h.retain fun id same => absurd same (data id)
  cases content with
  | cell n =>
    have new : refs.count (.cell l.cells.length) = 0 :=
      List.count_eq_zero.mpr fun mem => Nat.lt_irrefl _ (h.known _ mem)
    show Counted ((l.cells ++ [(⟨n, 0, false⟩ : Cell)]).modify l.cells.length _)
      (.cell l.cells.length :: refs)
    refine ⟨fun id c found => ?_, fun id mem => ?_⟩
    · rw [List.getElem?_modify] at found
      obtain ⟨old, before, rfl⟩ := Option.map_eq_some_iff.mp found
      rw [List.getElem?_append] at before
      split at before
      · next older =>
        have distinct : l.cells.length ≠ id := Nat.ne_of_gt older
        rw [if_neg distinct, List.count_cons_of_ne fun same => distinct (Value.cell.inj same)]
        exact h.fits id old before
      · next late =>
        rw [List.getElem?_singleton, Option.ite_none_right_eq_some] at before
        obtain ⟨first, made⟩ := before
        obtain rfl : l.cells.length = id := by omega
        rw [if_pos rfl, List.count_cons_self, new, ← Option.some.inj made]
        exact ⟨rfl, by simp⟩
    · rw [List.length_modify, List.length_append, List.length_singleton]
      rcases List.mem_cons.mp mem with same | older
      · exact Value.cell.inj same ▸ Nat.lt_succ_self _
      · exact Nat.lt_succ_of_lt (h.known id older)
  | _ => exact data (by simp [Ledger.build])

/-! ## the two tables -/

/-- All that refers to values: tokens, and names of held references. -/
def references (l : Ledger) : List Value := l.registry.slots.map Prod.snd ++ l.held.map Prod.snd

/-- Tokens and names refer to one value each, and no token was issued twice. -/
structure Tables (l : Ledger) : Prop where
  keys : (l.registry.slots.map Prod.fst).Nodup
  issued : ∀ h, l.registry.get? h ≠ none → h.raw < l.registry.next
  names : (l.held.map Prod.fst).Nodup

/-- The tables are in order, and the cells count what stands in them. -/
structure Sound (l : Ledger) : Prop extends Tables l where
  counted : Counted l.cells l.references

/-- Nobody owns anything at the beginning. -/
theorem sound_initial : Sound {} where
  keys := List.nodup_nil
  issued h named := absurd rfl named
  names := List.nodup_nil
  counted := ⟨fun id c found => by simp at found, fun id mem => by simp [references] at mem⟩

/-- A value is referred to by a token or under a name. -/
theorem Tables.mem_references_iff (h : Tables l) : v ∈ l.references ↔
    (∃ token, l.registry.get? token = some v) ∨ ∃ name, l.held.lookup name = some v := by
  rw [references, List.mem_append, mem_table_iff h.keys, mem_table_iff h.names]
  rfl

@[simp] theorem held_retain (l : Ledger) (v : Value) : (l.retain v).held = l.held := by
  cases v <;> rfl

@[simp] theorem held_letGo (l : Ledger) (v : Value) : (l.letGo v).held = l.held := by
  cases v <;> rfl

@[simp] theorem references_letGo (l : Ledger) (v : Value) :
    (l.letGo v).references = l.references := by
  cases v <;> rfl

theorem Tables.retain (h : Tables l) (v : Value) : Tables (l.retain v) := by
  cases v <;> exact ⟨h.keys, h.issued, h.names⟩

/-- Who lets go of a value leaves the tables as they are. -/
theorem Tables.letGo (h : Tables l) (v : Value) : Tables (l.letGo v) := by
  cases v <;> exact ⟨h.keys, h.issued, h.names⟩

/-- Issuing a token leaves all in order. -/
theorem Sound.issue (h : Sound l) : Sound { l with registry := l.registry.issue.1 } where
  keys := h.keys
  issued token named := Nat.lt_succ_of_lt (h.issued token named)
  names := h.names
  counted := h.counted

/-- A value that is retained already stands under its token. -/
theorem Tables.store (h : Tables l) {token : Handle} (free : l.registry.get? token = none)
    (issued : token.raw < l.registry.next)
    (counted : Counted (l.retain v).cells (v :: l.references)) : Sound (l.store token v) := by
  have keys : ((token, v) :: l.registry.slots |>.map Prod.fst).Nodup :=
    List.nodup_cons.mpr ⟨fun mem => Registry.mem_keys_iff.mp mem free, h.keys⟩
  have known : ∀ other, (l.registry.store token v).get? other ≠ none →
      other.raw < l.registry.next := by
    intro other named
    rw [Registry.get?_store] at named
    split at named
    · next same => exact same ▸ issued
    · exact h.issued other named
  have tables : Tables { l with registry := l.registry.store token v } := ⟨keys, known, h.names⟩
  refine ⟨tables.retain v, ?_⟩
  cases v <;> exact counted

@[simp] theorem registry_build (l : Ledger) (content : Content) :
    (l.build content).1.registry = l.registry := by
  cases content <;> rfl

@[simp] theorem held_build (l : Ledger) (content : Content) :
    (l.build content).1.held = l.held := by
  cases content <;> rfl

@[simp] theorem references_build (l : Ledger) (content : Content) :
    (l.build content).1.references = l.references := by
  cases content <;> rfl

theorem Tables.build (h : Tables l) (content : Content) : Tables (l.build content).1 := by
  cases content <;> exact ⟨h.keys, h.issued, h.names⟩

/-- A value is built and stored under a token that was issued for it. -/
theorem Sound.store_build (h : Sound l) {token : Handle} (free : l.registry.get? token = none)
    (issued : token.raw < l.registry.next) (content : Content) :
    Sound ((l.build content).1.store token (l.build content).2) := by
  refine (h.build content).store ?_ ?_ ?_
  · rwa [registry_build]
  · rwa [registry_build]
  · rw [references_build]
    exact h.counted.build content

/-- Tokens that were not issued name nothing. -/
theorem Tables.free (h : Tables l) {token : Handle} (late : l.registry.next ≤ token.raw) :
    l.registry.get? token = none := by
  by_contra named
  exact Nat.not_lt.mpr late (h.issued _ named)

/-- Registering what needs no retaining or is referred to already. -/
theorem Sound.register (h : Sound l) (owned : ∀ id, v = .cell id → v ∈ l.references) :
    Sound (l.register v).1 := by
  exact h.issue.toTables.store (h.free (Nat.le_refl _)) (Nat.lt_succ_self _)
    (h.issue.counted.retain owned)

/-- A token is forgotten, and the reference it was lets go. -/
theorem Sound.erase (h : Sound l) {token : Handle} (found : l.registry.get? token = some v) :
    Sound ({ l with registry := l.registry.erase token }.letGo v) := by
  have known : ∀ other, (l.registry.erase token).get? other ≠ none →
      other.raw < l.registry.next := by
    intro other named
    rw [Registry.get?_erase] at named
    split at named
    · exact absurd rfl named
    · exact h.issued other named
  have tables : Tables { l with registry := l.registry.erase token } :=
    ⟨Registry.nodup_keys_erase h.keys token, known, h.names⟩
  refine ⟨tables.letGo v, ?_⟩
  rw [references_letGo]
  refine Counted.letGo (l := { l with registry := l.registry.erase token }) ?_
  exact h.counted.perm ((perm_of_lookup h.keys found).append_right _)

def others (l : Ledger) (name : String) : List (String × Value) :=
  l.held.filter fun (n, _) => n ≠ name

/-- The names other than one are still different. -/
theorem Tables.others (h : Tables l) (name : String) : ((l.others name).map Prod.fst).Nodup :=
  (List.filter_sublist.map Prod.fst).nodup h.names

theorem name_not_mem_others (l : Ledger) (name : String) :
    name ∉ (l.others name).map Prod.fst := by
  simp [others]

/-- A name is forgotten, and the reference under it lets go. -/
theorem Sound.forget (h : Sound l) {name : String} (found : l.held.lookup name = some v) :
    Sound ({ l with held := l.others name }.letGo v) := by
  have tables : Tables { l with held := l.others name } := ⟨h.keys, h.issued, h.others name⟩
  refine ⟨tables.letGo v, ?_⟩
  rw [references_letGo]
  refine Counted.letGo (l := { l with held := l.others name }) (h.counted.perm ?_)
  exact ((perm_of_lookup h.names found).append_left _).trans List.perm_middle

/-- A reference that is counted already is kept under a name. -/
theorem Tables.keep (h : Tables l) {name : String}
    (counted : Counted l.cells
      (v :: (l.registry.slots.map Prod.snd ++ (l.others name).map Prod.snd))) :
    Sound { l with held := (name, v) :: l.others name } where
  keys := h.keys
  issued := h.issued
  names := List.nodup_cons.mpr ⟨name_not_mem_others l name, h.others name⟩
  counted := counted.perm List.perm_middle.symm

/-- To hold a value under a name keeps the counts right. -/
theorem Sound.hold (h : Sound l) (k : Kind) (token : Handle) (name : String) :
    Sound (l.hold k token name).1 := by
  unfold Ledger.hold
  split
  · exact h
  · next v resolved =>
    have found := (Registry.resolve_eq_ok_iff.mp resolved).1
    have counted : Counted (l.retain v).cells (v :: l.references) :=
      h.counted.retain fun _ _ => h.mem_references_iff.mpr (.inl ⟨token, found⟩)
    -- The new reference is counted before the old one lets go, since both may be to one cell.
    cases older : l.held.lookup name with
    | some old =>
      have counted : Counted (l.retain v).cells (old ::
          (v :: (l.registry.slots.map Prod.snd ++ (l.others name).map Prod.snd))) := by
        refine counted.perm (.trans (.cons v ?_) (.swap old v _))
        exact ((perm_of_lookup h.names older).append_left _).trans List.perm_middle
      refine ((h.retain v).letGo old).keep ?_
      simp only [others, held_letGo, held_retain, Registrations.registry_letGo,
        Registrations.registry_retain]
      exact counted.letGo
    | none =>
      refine (h.retain v).keep ?_
      simp only [others, held_retain, Registrations.registry_retain, filter_of_lookup_none older]
      exact counted

/-- To let go of a name keeps the counts right. -/
theorem Sound.letGoName (h : Sound l) (name : String) : Sound (l.letGoName name).1 := by
  unfold Ledger.letGoName
  split
  · next v found => exact h.forget found
  · exact h

theorem Sound.add (h : Sound l) (token : Handle) (n : Int64) : Sound (l.add token n).1 := by
  unfold Ledger.add
  split
  · exact h
  · next id resolved =>
    have found := (Registry.resolve_eq_ok_iff.mp resolved).1
    have mem : .cell id ∈ l.references := h.mem_references_iff.mpr (.inl ⟨token, found⟩)
    refine ⟨⟨h.keys, h.issued, h.names⟩, ?_⟩
    exact h.counted.modify mem (fun c fits => ⟨fits.owners, fits.dropped⟩) fun _ _ => rfl
  · exact h

/-- To register and release many values keeps the counts right. -/
theorem Sound.churn (h : Sound l) (release : Bool) (left : Nat) (tally : Tally) :
    Sound (Ledger.churn release left l tally).1 := by
  induction left generalizing l tally with
  | zero => exact h
  | succ left ih =>
    rw [Ledger.churn]
    cases release with
    | true => exact ih h.issue _
    | false =>
      exact ih (h.register (v := .uint64 (UInt64.ofNat left)) fun id same => by simp at same) _

/-! ## steps -/

/-- Every step keeps the counts right. -/
theorem Sound.step (h : Sound l) (s : Step) : Sound (l.step s).1 := by
  have free : l.registry.get? ⟨l.registry.next⟩ = none := h.free (Nat.le_refl _)
  cases s with
  | register content via =>
    have stored := h.issue.store_build free (Nat.lt_succ_self _) content
    cases via <;> exact stored
  | registerShared number =>
    have first := h.issue.store_build free (Nat.lt_succ_self _) (.cell number)
    exact first.register fun _ _ => List.mem_cons_self
  | registerNested number =>
    have inner := h.issue.register (v := .int32 number) fun id same => by simp at same
    have outer : (({ l with registry := l.registry.issue.1 } : Ledger).register
        (.int32 number)).1.registry.get? ⟨l.registry.next⟩ = none := by
      have distinct : (⟨l.registry.next⟩ : Handle) ≠ ⟨l.registry.next + 1⟩ := by simp
      rw [Registrations.registry_register, Registry.get?_register]
      exact (if_neg distinct).trans free
    exact inner.store outer (Nat.lt_succ_of_lt (Nat.lt_succ_self _))
      (inner.counted.retain (v := .word l.registry.next) fun id same => by simp at same)
  | registerPanicking => exact h.issue
  | release token =>
    show Sound (l.release token).1
    unfold Ledger.release
    cases found : l.registry.get? token with
    | none => rw [Registry.release_of_unnamed found]; exact h
    | some v => rw [Registry.release_of_named found]; exact h.erase found
  | hold token k name => exact h.hold k token name
  | letGo name => exact h.letGoName name
  | add token n =>
    have added := h.add token n
    rw [Ledger.step]
    split <;> simp_all
  | concurrent workers count release => exact h.churn release _ {}
  | resolve token k =>
    rw [Ledger.step]
    split <;> exact h
  | read name =>
    rw [Ledger.step]
    split <;> exact h
  | contains token => exact h
  | isEmpty => exact h
  | debug => exact h
  | drops => exact h

def run (l : Ledger) (steps : List Step) : Ledger := steps.foldl (fun l s => (l.step s).1) l

theorem run_append (l : Ledger) (first second : List Step) :
    l.run (first ++ second) = (l.run first).run second :=
  List.foldl_append

/-- Every run keeps the counts right. -/
theorem Sound.run (h : Sound l) (steps : List Step) : Sound (l.run steps) := by
  induction steps generalizing l with
  | nil => exact h
  | cons s rest ih => exact ih (h.step s)

end MachineBridge.Ledger
