import MachineBridge.Json.Record
import Mathlib.Data.List.Perm.Basic

/-!
# MachineBridge.Proofs.Json.Fields

The fields of an object that is read as a record.  `Arranged names known fields` says that the
fields are the known ones in any order, among others whose names the record does not know and
whose values are plain.  The reader sees the known ones only (`objectFields?_of_arranged`), and
it answers nothing for an object in which a known field stands twice (`objectFields?_of_twice`).

A value that is plain can be kept, so it may stand where values are kept before their shape is
known (`isKeepable_of_isPlain`).
-/

namespace MachineBridge

/-! ## plain values -/

/-- An integer that fits in 64 bits, with or without a sign. -/
def NumberLiteral.isWord : NumberLiteral → Bool
  | .integer false n => n < 18446744073709551616
  | .integer true n => n ≤ 9223372036854775808
  | .real .. => false

theorem NumberLiteral.word_lt_doubleLimit : 18446744073709551616 < doubleLimit := by
  decide +kernel

/-- A number that fits a machine word is in the range of doubles. -/
theorem NumberLiteral.inDoubleRange_of_isWord {n : NumberLiteral} (h : n.isWord = true) :
    n.inDoubleRange = true := by
  cases n with
  | integer negative n =>
    have small : n < 18446744073709551616 := by
      cases negative <;> simp only [isWord, decide_eq_true_eq] at h <;> omega
    rw [inDoubleRange, decide_eq_true_eq]
    exact Nat.lt_trans small word_lt_doubleLimit
  | real negative m e => contradiction

namespace Json

/-- A value of null, truth values, integers of 64 bits, texts, arrays and objects, whose
containers nest at most `levels` deep. -/
def isPlain : Nat → Json → Bool
  | _, .null => true
  | _, .bool _ => true
  | _, .number n => n.isWord
  | _, .string s => s.isSome
  | 0, .array _ => false
  | 0, .object _ => false
  | levels + 1, .array items => items.all (isPlain levels)
  | levels + 1, .object fields => fields.all fun (name, v) => name.isSome && isPlain levels v

/-- A plain value is kept at any depth that holds it. -/
theorem isKeepable_of_isPlain {levels more : Nat} {v : Json} (h : v.isPlain levels = true)
    (le : levels ≤ more) : v.isKeepable more = true := by
  induction levels generalizing more v with
  | zero =>
    cases v with
    | null | bool b | string s => cases more <;> exact h
    | number n => cases more <;> exact NumberLiteral.inDoubleRange_of_isWord h
    | array items | object fields => contradiction
  | succ levels ih =>
    obtain ⟨more, rfl⟩ : ∃ k, more = k + 1 := ⟨more - 1, by omega⟩
    have keep {w : Json} (plain : w.isPlain levels = true) : w.isKeepable more = true :=
      ih plain (by omega)
    cases v with
    | null | bool b | string s => exact h
    | number n => exact NumberLiteral.inDoubleRange_of_isWord h
    | array items =>
      rw [isPlain, List.all_eq_true] at h
      rw [isKeepable, List.all_eq_true]
      exact fun w mem => keep (h w mem)
    | object fields =>
      rw [isPlain, List.all_eq_true] at h
      rw [isKeepable, List.all_eq_true]
      intro field mem
      obtain ⟨name, plain⟩ := Bool.and_eq_true_iff.1 (h field mem)
      exact Bool.and_eq_true_iff.2 ⟨name, keep plain⟩

/-! ## lists that are read item by item -/

section Items

variable {α β : Type} {f g : α → Option β} {xs : List α}

theorem mapM_congr (h : ∀ x ∈ xs, f x = g x) : xs.mapM f = xs.mapM g := by
  induction xs with
  | nil => rfl
  | cons x xs ih =>
    rw [List.mapM_cons, List.mapM_cons, h x List.mem_cons_self,
      ih fun y mem => h y (List.mem_cons_of_mem x mem)]

/-- A list is read item by item. -/
theorem mapM_eq_some {ys : List β} (h : List.Forall₂ (fun x y => f x = some y) xs ys) :
    xs.mapM f = some ys := by
  induction h with
  | nil => rfl
  | cons first _ ih =>
    rw [List.mapM_cons, first, ih]
    rfl

/-- One item that is refused is enough. -/
theorem mapM_eq_none {x : α} (mem : x ∈ xs) (h : f x = none) : xs.mapM f = none := by
  induction mem with
  | head xs =>
    rw [List.mapM_cons, h]
    rfl
  | tail y _ ih =>
    rw [List.mapM_cons, ih]
    cases f y <;> rfl

end Items

/-! ## the values of a field -/

variable {fields others known : List (Option String × Json)} {name : String} {names : List String}

/-- The values of a name are found in order. -/
theorem valuesOf_append (fields others : List (Option String × Json)) (name : String) :
    valuesOf (fields ++ others) name = valuesOf fields name ++ valuesOf others name :=
  List.filterMap_append

/-- A name that no field has is not found. -/
theorem valuesOf_eq_nil (absent : ∀ f ∈ fields, f.1 ≠ some name) : valuesOf fields name = [] := by
  rw [valuesOf, List.filterMap_eq_nil_iff]
  intro f mem
  exact if_neg (absent f mem)

/-- The order of fields does not matter to what is found under a name, but for repetitions. -/
theorem perm_valuesOf (h : fields.Perm others) (name : String) :
    (valuesOf fields name).Perm (valuesOf others name) :=
  h.filterMap _

/-- The order of the fields does not matter. -/
theorem atMostOnce?_of_perm (h : fields.Perm others) (name : String) :
    atMostOnce? fields name = atMostOnce? others name := by
  have perm := perm_valuesOf h name
  unfold atMostOnce?
  cases first : valuesOf fields name with
  | nil =>
    rw [first] at perm
    rw [perm.nil_eq]
  | cons v values =>
    rw [first] at perm
    cases values with
    | nil => rw [List.perm_singleton.1 perm.symm]
    | cons w values =>
      have length := perm.length_eq
      match second : valuesOf others name with
      | [] | [_] => simp [second] at length
      | _ :: _ :: _ => rfl

/-- Fields of other names do not make a field a repeated one. -/
theorem atMostOnce?_append (absent : ∀ f ∈ others, f.1 ≠ some name) :
    atMostOnce? (fields ++ others) name = atMostOnce? fields name := by
  rw [atMostOnce?, atMostOnce?, valuesOf_append, valuesOf_eq_nil absent, List.append_nil]

/-- A field that stands twice is refused, whatever its values are. -/
theorem atMostOnce?_of_twice (twice : 2 ≤ (valuesOf fields name).length) :
    atMostOnce? fields name = none := by
  match h : valuesOf fields name with
  | [] | [_] => simp [h] at twice
  | _ :: _ :: _ => rw [atMostOnce?, h]

/-! ## fields in any order among others -/

/-- The fields are the known ones in any order, among others that the record skips. -/
structure Arranged (names : List String) (known fields : List (Option String × Json)) : Prop where
  arranged : ∃ unknown, fields.Perm (known ++ unknown) ∧ ∀ f ∈ unknown,
    (∃ name, f.1 = some name ∧ name ∉ names) ∧ f.2.isPlain 100 = true

/-- Fields are arranged as they stand. -/
theorem Arranged.refl (names : List String) (fields : List (Option String × Json)) :
    Arranged names fields fields :=
  ⟨⟨[], by simp, by simp⟩⟩

namespace Arranged

/-- An arranged field is found as often as it is known. -/
theorem atMostOnce? (h : Arranged names known fields) (mem : name ∈ names) :
    atMostOnce? fields name = Json.atMostOnce? known name := by
  obtain ⟨unknown, perm, skipped⟩ := h.arranged
  rw [atMostOnce?_of_perm perm, atMostOnce?_append]
  intro f more same
  obtain ⟨⟨other, named, absent⟩, -⟩ := skipped f more
  rw [named] at same
  exact absent (Option.some.inj same ▸ mem)

/-- Arranged fields have names that are texts, if the known ones do. -/
theorem isSome_name (h : Arranged names known fields) (texts : ∀ f ∈ known, f.1.isSome = true) :
    ∀ f ∈ fields, f.1.isSome = true := by
  obtain ⟨unknown, perm, skipped⟩ := h.arranged
  intro f mem
  obtain first | more := List.mem_append.1 (perm.mem_iff.1 mem)
  · exact texts f first
  · obtain ⟨⟨other, named, -⟩, -⟩ := skipped f more
    rw [named]
    rfl

/-- Every field is one of the known ones, or has a plain value. -/
theorem mem_or_isPlain (h : Arranged names known fields) {f : Option String × Json}
    (mem : f ∈ fields) : f ∈ known ∨ f.1.isSome = true ∧ f.2.isPlain 100 = true := by
  obtain ⟨unknown, perm, skipped⟩ := h.arranged
  obtain first | more := List.mem_append.1 (perm.mem_iff.1 mem)
  · exact .inl first
  · obtain ⟨⟨other, named, -⟩, plain⟩ := skipped f more
    exact .inr ⟨by rw [named]; rfl, plain⟩

/-- The reader of a record sees the known fields only. -/
theorem objectFields? (h : Arranged names known fields)
    (texts : ∀ f ∈ known, f.1.isSome = true) :
    objectFields? names fields = names.mapM (Json.atMostOnce? known) := by
  rw [Json.objectFields?, if_pos (List.all_eq_true.2 (h.isSome_name texts))]
  exact mapM_congr fun name mem => h.atMostOnce? mem

end Arranged

/-- A field that is left out is not looked for among the others. -/
theorem valuesOf_filter {other : String} (differ : name ≠ other) :
    valuesOf (fields.filter fun f => f.1 != some other) name = valuesOf fields name := by
  rw [valuesOf, List.filterMap_filter, valuesOf]
  congr
  funext f
  by_cases same : f.1 = some name <;> simp [same, differ]

/-- The rest of the fields, where one of the known ones is left out. -/
theorem Arranged.filter {v : Json} (h : Arranged (name :: names) ((some name, v) :: known) fields)
    (different : ∀ f ∈ known, f.1 ≠ some name) :
    Arranged names known (fields.filter fun f => f.1 != some name) := by
  obtain ⟨unknown, perm, skipped⟩ := h.arranged
  refine ⟨⟨unknown, ?_, fun f mem => ?_⟩⟩
  · have kept := perm.filter fun f => f.1 != some name
    have rest : ∀ f ∈ known ++ unknown, (f.1 != some name) = true := by
      intro f mem
      rw [bne_iff_ne]
      obtain first | more := List.mem_append.1 mem
      · exact different f first
      · obtain ⟨⟨other, named, absent⟩, -⟩ := skipped f more
        rw [named]
        rintro same
        exact absent (Option.some.inj same ▸ List.mem_cons_self)
    rwa [List.cons_append, List.filter_cons_of_neg (by simp), List.filter_eq_self.2 rest] at kept
  · obtain ⟨⟨other, named, absent⟩, plain⟩ := skipped f mem
    exact ⟨⟨other, named, fun mem => absent (List.mem_cons_of_mem name mem)⟩, plain⟩

/-- The value of a field that is there is found, unless the field is refused. -/
theorem atMostOnce?_of_mem {v : Json} (mem : (some name, v) ∈ fields) :
    Json.atMostOnce? fields name = none ∨ Json.atMostOnce? fields name = some (some v) := by
  have found : v ∈ valuesOf fields name := List.mem_filterMap.2 ⟨_, mem, if_pos rfl⟩
  unfold Json.atMostOnce?
  match h : valuesOf fields name with
  | [] => simp [h] at found
  | [w] =>
    rw [h, List.mem_singleton] at found
    exact .inr (by rw [found])
  | _ :: _ :: _ => exact .inl rfl

/-- A record in which a known field stands twice is no record. -/
theorem objectFields?_of_twice (mem : name ∈ names) (twice : 2 ≤ (valuesOf fields name).length) :
    objectFields? names fields = none := by
  rw [objectFields?, mapM_eq_none mem (atMostOnce?_of_twice twice), ite_self]

end Json

end MachineBridge
