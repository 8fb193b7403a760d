import MachineBridge.Logging.FileTree
import Mathlib.Data.List.Basic

/-!
# MachineBridge.Proofs.Logging.Directories

What making a directory does to a tree of files.  It adds directories and leaves all else
as it was, also where it fails halfway (`Widens`); where it succeeds, the whole path can be
followed afterwards (`Reaches`).  A path that does not end in a point and can be made in a
tree can also be made with fewer directories there: the missing ones are made on the way.
-/

namespace MachineBridge.FileTree

variable {t t' t'' u u' : FileTree} {here place p q : List String} {name : String}
  {names : List String} {pointed : Bool}

/-! ## more directories -/

/-- A tree is another one with more directories in it. -/
def Widens (t t' : FileTree) : Prop :=
  ∀ place, t'.node? place = t.node? place ∨
    t.node? place = none ∧ t'.node? place = some .directory

theorem Widens.refl (t : FileTree) : Widens t t := fun _ => .inl rfl

/-- A tree that grows twice has grown. -/
theorem Widens.trans (first : Widens t t') (second : Widens t' t'') : Widens t t'' := by
  intro place
  rcases first place with same | ⟨free, made⟩ <;> rcases second place with same' | ⟨free', made'⟩
  · exact .inl (same'.trans same)
  · exact .inr ⟨same ▸ free', made'⟩
  · exact .inr ⟨free, same'.trans made⟩
  · rw [made] at free'
    cases free'

/-- A directory stays when a tree grows. -/
theorem Widens.directory (h : Widens t t') (there : t.node? place = some .directory) :
    t'.node? place = some .directory := by
  rcases h place with same | ⟨-, made⟩
  · exact same.trans there
  · exact made

/-- What is missing in a greater tree is missing in the smaller one. -/
theorem Widens.missing (h : Widens t t') (free : t'.node? place = none) :
    t.node? place = none := by
  rcases h place with same | ⟨free', -⟩
  · exact same ▸ free
  · exact free'

/-- What is added stands at its place, and nothing else is moved. -/
theorem node?_add (free : t.node? p = none) (node : FileNode) (place : List String) :
    (t.add p node).node? place = if place = p then some node else t.node? place := by
  have below : ¬ isAbove p = true := by
    intro above
    simp [node?, above] at free
  rw [node?, if_neg below] at free
  simp only [node?, add, List.lookup_append, List.lookup_cons, List.lookup_nil]
  by_cases same : place = p
  · simp [same, below, free]
  · simp [same, beq_eq_false_iff_ne.mpr same]

/-- A directory where nothing stood. -/
theorem widens_add (free : t.node? p = none) : Widens t (t.add p .directory) := by
  intro place
  rw [node?_add free]
  split
  · next same => exact .inr ⟨same ▸ free, rfl⟩
  · exact .inl rfl

/-! ## names on a path -/

/-- The place that a name leads to. -/
def target (here : List String) (name : String) : List String :=
  if name = up then parent here else here ++ [name]

/-- A name leads up, or to a directory of this name. -/
theorem enter_eq_ok_iff : t.enter here name = .ok place ↔ place = target here name ∧
    (name = up ∨ name ≠ up ∧ name.utf8ByteSize ≤ nameLimit ∧
      t.node? (here ++ [name]) = some .directory) := by
  unfold enter target
  split
  · next higher => simp [higher, eq_comm]
  · next lower =>
    split
    · next long => simp [lower, Nat.not_le.mpr long]
    · next short =>
      cases t.node? (here ++ [name]) with
      | none => simp [lower]
      | some node => cases node <;> simp [lower, Nat.not_lt.mp short, eq_comm]

/-- A name is missing if nothing stands there and the name is not too long. -/
theorem enter_eq_missing_iff : t.enter here name = .error .noSuchFile ↔
    name ≠ up ∧ name.utf8ByteSize ≤ nameLimit ∧ t.node? (here ++ [name]) = none := by
  unfold enter
  split
  · next higher => simp [higher]
  · next lower =>
    split
    · next long => simp [Nat.not_le.mpr long]
    · next short =>
      cases t.node? (here ++ [name]) with
      | none => simp [lower, Nat.not_lt.mp short]
      | some node => cases node <;> simp

/-- A directory is entered as before among more directories. -/
theorem Widens.enter (h : Widens t t') (entered : t.enter here name = .ok place) :
    t'.enter here name = .ok place := by
  rw [enter_eq_ok_iff] at entered ⊢
  obtain ⟨rfl, higher | ⟨lower, short, there⟩⟩ := entered
  · exact ⟨rfl, .inl higher⟩
  · exact ⟨rfl, .inr ⟨lower, short, h.directory there⟩⟩

/-- A path can be followed through directories that are there. -/
def Reaches (t : FileTree) : List String → List String → List String → Prop
  | here, [], place => place = here
  | here, name :: rest, place => ∃ next, t.enter here name = .ok next ∧ Reaches t next rest place

/-- A name is entered, or its directory is made and entered, or it is refused. -/
theorem enterOrMake_cases (t : FileTree) (here : List String) (name : String) :
    (∃ place, t.enter here name = .ok place ∧ t.enterOrMake here name = (t, .ok place)) ∨
    (t.enter here name = .error .noSuchFile ∧
      t.enterOrMake here name = (t.add (here ++ [name]) .directory, .ok (here ++ [name]))) ∨
    ∃ e, t.enterOrMake here name = (t, .error e) := by
  unfold enterOrMake
  cases t.enter here name with
  | ok place => exact .inl ⟨place, rfl, rfl⟩
  | error e =>
    cases e with
    | noSuchFile => exact .inr (.inl ⟨rfl, rfl⟩)
    | _ => exact .inr (.inr ⟨_, rfl⟩)

/-- A directory that is made where one was missing can be entered. -/
theorem enter_add (missing : t.enter here name = .error .noSuchFile) :
    Widens t (t.add (here ++ [name]) .directory) ∧
      (t.add (here ++ [name]) .directory).enter here name = .ok (here ++ [name]) := by
  obtain ⟨lower, short, free⟩ := enter_eq_missing_iff.mp missing
  refine ⟨widens_add free, enter_eq_ok_iff.mpr ⟨(if_neg lower).symm, .inr ⟨lower, short, ?_⟩⟩⟩
  rw [node?_add free, if_pos rfl]

/-- Making directories makes directories only. -/
theorem widens_makeAll (t : FileTree) (pointed : Bool) (here names : List String) :
    Widens t (t.makeAll pointed here names).1 := by
  induction names generalizing t here with
  | nil => exact .refl t
  | cons name rest ih =>
    rw [makeAll]
    split
    · exact .refl t
    · rcases enterOrMake_cases t here name with ⟨next, -, made⟩ | ⟨missing, made⟩ | ⟨e, failed⟩
      · rw [made]
        exact ih t next
      · rw [made]
        exact (enter_add missing).1.trans (ih _ _)
      · rw [failed]
        exact .refl t

/-- To reach a directory makes directories and nothing else. -/
theorem widens_reach (t : FileTree) (pointed : Bool) (here names : List String) :
    Widens t (t.reach pointed here names).1 := by
  induction names generalizing here with
  | nil => exact .refl t
  | cons name rest ih =>
    rw [reach]
    split
    · exact ih _
    · exact widens_makeAll t pointed here (name :: rest)
    · exact .refl t
    · exact .refl t

/-- A directory that a greater tree has may be added. -/
theorem Widens.add (h : Widens t u) (free : t.node? p = none)
    (there : u.node? p = some .directory) : Widens (t.add p .directory) u := by
  intro place
  rw [node?_add free]
  split
  · next same => exact .inl (same ▸ there)
  · exact h place

/-- To create a directory makes directories and nothing else. -/
theorem widens_createDirectory (t : FileTree) (pathLimit : Nat) (path : String) :
    Widens t (t.createDirectory pathLimit path).1 := by
  unfold createDirectory
  split
  · exact .refl t
  · split
    · exact .refl t
    · exact widens_reach t _ [] _

end MachineBridge.FileTree
