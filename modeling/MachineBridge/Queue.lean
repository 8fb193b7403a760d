/-!
# MachineBridge.Queue

Queues, first in, first out.  The values that are next stand in `front`, and those
put on last stand in `back`, the newest first; when `front` is used up, `back` is
turned around.  So putting a value on takes a step however long the queue is, and
so does taking one off, on average.

What a queue holds is `toList`, and every operation is known by what it does to it.
-/

namespace MachineBridge

/-- A queue in two parts. -/
structure Queue (α : Type) where
  front : List α := []
  back : List α := []
deriving DecidableEq, Repr

namespace Queue

variable {α : Type}

/-- The values in a queue, the next first. -/
def toList (q : Queue α) : List α := q.front ++ q.back.reverse

def length (q : Queue α) : Nat := q.front.length + q.back.length

def push (q : Queue α) (a : α) : Queue α := { q with back := a :: q.back }

/-- Take the next value off, if there is one. -/
def pop? (q : Queue α) : Option (α × Queue α) :=
  match q.front with
  | a :: front => some (a, { q with front })
  | [] =>
    match q.back.reverse with
    | a :: front => some (a, { front })
    | [] => none

/-- Take up to `limit` values off, behind those taken so far, which stand last
first: all that were taken, in order, and what is left. -/
def popOnto (taken : List α) : Nat → Queue α → List α × Queue α
  | 0, q => (taken.reverse, q)
  | limit + 1, q =>
    match q.pop? with
    | some (a, rest) => popOnto (a :: taken) limit rest
    | none => (taken.reverse, q)

/-- Take up to `limit` values off: those taken, in order, and what is left. -/
def popMany (limit : Nat) (q : Queue α) : List α × Queue α := popOnto [] limit q

/-! ## what a queue holds -/

/-- The length is the number of values held. -/
@[simp] theorem length_toList (q : Queue α) : q.toList.length = q.length := by
  simp [toList, length]

/-- A value that is put on comes last. -/
@[simp] theorem toList_push (q : Queue α) (a : α) : (q.push a).toList = q.toList ++ [a] := by
  simp [toList, push]

/-- Taking off splits what is held into the next value and the rest. -/
theorem map_toList_pop? (q : Queue α) :
    q.pop?.map (fun (a, rest) => (a, rest.toList)) =
      match q.toList with
      | a :: rest => some (a, rest)
      | [] => none := by
  obtain ⟨front, back⟩ := q
  cases front with
  | cons a front => simp [pop?, toList]
  | nil =>
    simp only [pop?, toList, List.nil_append]
    cases back.reverse <;> simp

/-- The value that is taken off is the first of those held. -/
theorem toList_of_pop? {q rest : Queue α} {a : α} (h : q.pop? = some (a, rest)) :
    q.toList = a :: rest.toList := by
  have hm := map_toList_pop? q
  rw [h, Option.map_some] at hm
  cases hl : q.toList with
  | nil => rw [hl] at hm; cases hm
  | cons b bs => rw [hl] at hm; cases hm; rfl

/-- Nothing can be taken off exactly when nothing is held. -/
theorem pop?_eq_none_iff {q : Queue α} : q.pop? = none ↔ q.toList = [] := by
  rw [← Option.map_eq_none_iff, map_toList_pop? q]
  cases q.toList <;> simp

/-- Taking many off behind others. -/
theorem popOnto_eq (taken : List α) (limit : Nat) (q : Queue α) :
    (popOnto taken limit q).1 = taken.reverse ++ q.toList.take limit ∧
      (popOnto taken limit q).2.toList = q.toList.drop limit := by
  induction limit generalizing taken q with
  | zero => simp [popOnto]
  | succ limit ih =>
    rw [popOnto]
    split
    · rename_i hp
      rw [toList_of_pop? hp, (ih _ _).1, (ih _ _).2]
      simp
    · rename_i hp
      simp [pop?_eq_none_iff.1 hp]

/-- Up to `limit` values are taken off in order. -/
@[simp] theorem fst_popMany (limit : Nat) (q : Queue α) :
    (q.popMany limit).1 = q.toList.take limit := by
  simp [popMany, popOnto_eq]

/-- The values behind those taken off are left. -/
@[simp] theorem toList_snd_popMany (limit : Nat) (q : Queue α) :
    (q.popMany limit).2.toList = q.toList.drop limit := by
  simp [popMany, popOnto_eq]

end Queue

end MachineBridge
