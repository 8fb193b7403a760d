import MachineBridge.Broadcast

/-!
# MachineBridge.Proofs.Broadcast.Delivery

What a broadcast channel owes to a single subscription.  `Owes` says that the receiver was
not dropped and which values it will still get, and there is one lemma for each operation
of the channel: publishing on an open channel adds a value behind the others, receiving
takes values from the front, and nothing else changes what is owed.  What a receive answers
is determined by what is owed and by whether the channel is closed.

A subscription whose receiver was dropped is `Gone`; it gets nothing any more.  `Serves`
is the account of a subscription over a whole run: what its receiver got so far, against
what was published for it.
-/

namespace MachineBridge

variable {α : Type}

/-- What a receiver finds when these values are still to come. -/
def Received.next (closed : Bool) : List α → Received α
  | a :: _ => .value a
  | [] => if closed then .ended else .pending

def Received.toList : Received α → List α
  | .value a => [a]
  | .pending => []
  | .ended => []

/-- What is found next comes in front of what is still to come. -/
theorem Received.toList_next_append (closed : Bool) (ahead : List α) :
    (Received.next closed ahead).toList ++ ahead.tail = ahead := by
  cases ahead with
  | nil => cases closed <;> rfl
  | cons a rest => rfl

namespace Subscription

/-- The receiver was not dropped, the channel delivers to it while it is open, and these
values are queued for it. -/
structure Current (s : Subscription α) (closed : Bool) (ahead : List α) : Prop where
  kept : s.kept = true
  listed : s.listed = !closed
  queue : s.queue.toList = ahead

variable {s : Subscription α} {closed : Bool} {ahead : List α}

/-- Up to `limit` values are taken from the front, and the stream has ended if there are
fewer and no more will come. -/
theorem Current.takeMany (h : s.Current closed ahead) (limit : Nat) :
    (s.takeMany limit).2 = (ahead.take limit, closed && decide ((ahead.take limit).length < limit)) ∧
      (s.takeMany limit).1.Current closed (ahead.drop limit) := by
  obtain ⟨kept, listed, rfl⟩ := h
  refine ⟨?_, ⟨kept, listed, ?_⟩⟩
  · simp [Subscription.takeMany, listed]
  · simp [Subscription.takeMany]

/-- Taking one value is taking up to one. -/
theorem take_eq (s : Subscription α) :
    s.take = ((s.takeMany 1).1, .next (!s.listed) (s.takeMany 1).2.1) := by
  obtain ⟨queue, listed, kept⟩ := s
  cases popped : queue.pop? with
  | none =>
    cases listed <;>
      simp [Subscription.take, Subscription.takeMany, Queue.popMany, Queue.popOnto, popped, Received.next]
  | some front =>
    simp [Subscription.take, Subscription.takeMany, Queue.popMany, Queue.popOnto, popped, Received.next]

end Subscription

namespace Broadcast

/-- The channel owes these values to the subscription of a number, and more while it is
open. -/
def Owes (c : Broadcast α) (i : Nat) (ahead : List α) : Prop :=
  ∃ s, c.subscriptions[i]? = some s ∧ s.Current c.closed ahead

variable {c : Broadcast α} {i j : Nat} {ahead : List α}

theorem Owes.lt_length (h : c.Owes i ahead) : i < c.subscriptions.length := by
  obtain ⟨s, found, -⟩ := h
  exact (List.getElem?_eq_some_iff.1 found).1

/-! ## what changes what is owed -/

/-- Nothing is owed to a subscription when it is taken. -/
theorem owes_subscribe (c : Broadcast α) : c.subscribe.1.Owes c.subscribe.2 [] :=
  ⟨{ listed := !c.closed }, List.getElem?_concat_length .., rfl, rfl, rfl⟩

/-- Other subscriptions do not matter. -/
theorem Owes.subscribe (h : c.Owes i ahead) : c.subscribe.1.Owes i ahead := by
  obtain ⟨s, found, current⟩ := h
  refine ⟨s, ?_, current⟩
  show (c.subscriptions ++ _)[i]? = some s
  rw [List.getElem?_append_left (List.getElem?_eq_some_iff.1 found).1, found]

/-- A value that is published on an open channel is owed behind all others. -/
theorem Owes.publish (h : c.Owes i ahead) (a : α) :
    (c.publish a).Owes i (if c.closed then ahead else ahead ++ [a]) := by
  obtain ⟨s, found, kept, listed, queue⟩ := h
  refine ⟨s.deliver a, ?_, ?_⟩
  · show (c.subscriptions.map (·.deliver a))[i]? = _
    rw [List.getElem?_map, found]
    rfl
  · cases closed : c.closed with
    | true =>
      rw [closed] at listed
      have ignored : s.deliver a = s := by simp [Subscription.deliver, listed]
      rw [ignored]
      exact ⟨kept, listed.trans (by simp [closed]), queue⟩
    | false =>
      rw [closed] at listed
      refine ⟨?_, ?_, ?_⟩
      · simp [Subscription.deliver, listed, kept]
      · simp [Subscription.deliver, listed, kept, closed]
      · rw [Subscription.toList_queue_deliver listed kept, queue]
        rfl

/-- What is owed when the channel is closed can still be received. -/
theorem Owes.close (h : c.Owes i ahead) : c.close.Owes i ahead := by
  obtain ⟨s, found, kept, -, queue⟩ := h
  refine ⟨{ s with listed := false }, ?_, kept, rfl, queue⟩
  show (c.subscriptions.map _)[i]? = _
  rw [List.getElem?_map, found]
  rfl

/-- Dropping another receiver does not matter. -/
theorem Owes.drop (h : c.Owes i ahead) (other : j ≠ i) : (c.drop j).Owes i ahead := by
  obtain ⟨s, found, current⟩ := h
  refine ⟨s, ?_, current⟩
  show (c.subscriptions.modify j _)[i]? = some s
  rw [List.getElem?_modify, found]
  simp [other]

/-- Receiving from another subscription does not matter. -/
theorem Owes.receiveMany_of_ne (h : c.Owes i ahead) (limit : Nat) (other : j ≠ i) :
    (c.receiveMany limit j).1.Owes i ahead := by
  obtain ⟨s, found, current⟩ := h
  unfold receiveMany
  split
  · refine ⟨s, ?_, current⟩
    show (c.subscriptions.set j _)[i]? = some s
    rw [List.getElem?_set_ne other, found]
  · exact ⟨s, found, current⟩

/-! ## what a receiver finds -/

/-- A receive of many answers the values owed first, and they are owed no longer. -/
theorem Owes.receiveMany (h : c.Owes i ahead) (limit : Nat) :
    (c.receiveMany limit i).2 =
        (ahead.take limit, c.closed && decide ((ahead.take limit).length < limit)) ∧
      (c.receiveMany limit i).1.Owes i (ahead.drop limit) := by
  obtain ⟨s, found, current⟩ := h
  have lt := (List.getElem?_eq_some_iff.1 found).1
  obtain ⟨answer, left⟩ := current.takeMany limit
  rw [Broadcast.receiveMany, found]
  exact ⟨answer, (s.takeMany limit).1, List.getElem?_set_self lt, left⟩

/-- Receiving a value is receiving up to one. -/
theorem receive_fst (c : Broadcast α) (i : Nat) : (c.receive i).1 = (c.receiveMany 1 i).1 := by
  unfold receive receiveMany
  split
  · rw [Subscription.take_eq]
  · rfl

/-- What a receive finds is what a receive of up to one value takes. -/
theorem toList_receive (c : Broadcast α) (i : Nat) :
    (c.receive i).2.toList = (c.receiveMany 1 i).2.1 := by
  unfold receive receiveMany
  split
  · next s _ =>
    show s.take.2.toList = (s.takeMany 1).2.1
    rw [Subscription.take_eq]
    simp only [Subscription.takeMany, Queue.fst_popMany]
    cases s.queue.toList with
    | nil => cases s.listed <;> rfl
    | cons a rest => rfl
  · rfl

/-- A receive answers the value owed first, and it is owed no longer. -/
theorem Owes.receive (h : c.Owes i ahead) :
    (c.receive i).2 = .next c.closed ahead ∧ (c.receive i).1.Owes i ahead.tail := by
  constructor
  · obtain ⟨s, found, current⟩ := h
    rw [Broadcast.receive, found]
    show s.take.2 = _
    rw [Subscription.take_eq, (current.takeMany 1).1, current.listed, Bool.not_not]
    cases ahead <;> rfl
  · rw [receive_fst, ← List.drop_one]
    exact (h.receiveMany 1).2

/-- The number of queued values is the number of those owed. -/
theorem Owes.queued (h : c.Owes i ahead) : c.queued i = ahead.length := by
  obtain ⟨s, found, current⟩ := h
  rw [Broadcast.queued, found, ← current.queue, Queue.length_toList]
  rfl

/-- Draining answers all values owed, and whether there will be more. -/
theorem Owes.drain (h : c.Owes i ahead) :
    (c.drain i).2 = (ahead, c.closed) ∧ (c.drain i).1.Owes i [] := by
  obtain ⟨answer, left⟩ := h.receiveMany (ahead.length + 1)
  have all : ahead.take (ahead.length + 1) = ahead := List.take_of_length_le (Nat.le_succ _)
  have none : ahead.drop (ahead.length + 1) = [] := List.drop_eq_nil_of_le (Nat.le_succ _)
  rw [all, decide_eq_true (Nat.lt_succ_self _), Bool.and_true] at answer
  rw [none] at left
  rw [Broadcast.drain, h.queued]
  exact ⟨answer, left⟩

/-! ## subscriptions whose receiver was dropped -/

/-- The receiver of a subscription was dropped, with all that was queued for it. -/
def Gone (c : Broadcast α) (i : Nat) : Prop :=
  ∃ s, c.subscriptions[i]? = some s ∧ s.kept = false ∧ s.queue.toList = [] ∧
    (c.closed = true → s.listed = false)

/-- A receiver that is dropped is gone. -/
theorem Owes.gone_drop (h : c.Owes i ahead) : (c.drop i).Gone i := by
  obtain ⟨s, found, -, listed, -⟩ := h
  refine ⟨{ s with kept := false, queue := {} }, ?_, rfl, rfl, fun closed => ?_⟩
  · show (c.subscriptions.modify i _)[i]? = _
    rw [List.getElem?_modify_eq, found]
    rfl
  · rw [listed, show c.closed = true from closed]
    rfl

theorem Gone.subscribe (h : c.Gone i) : c.subscribe.1.Gone i := by
  obtain ⟨s, found, gone⟩ := h
  refine ⟨s, ?_, gone⟩
  show (c.subscriptions ++ _)[i]? = some s
  rw [List.getElem?_append_left (List.getElem?_eq_some_iff.1 found).1, found]

/-- What is gone stays so when a value is published. -/
theorem Gone.publish (h : c.Gone i) (a : α) : (c.publish a).Gone i := by
  obtain ⟨s, found, kept, queue, listed⟩ := h
  refine ⟨s.deliver a, ?_, ?_⟩
  · show (c.subscriptions.map (·.deliver a))[i]? = _
    rw [List.getElem?_map, found]
    rfl
  · by_cases l : s.listed = true
    · simp [Subscription.deliver, l, kept, queue]
    · have ignored : s.deliver a = s := by simp [Subscription.deliver, l]
      rw [ignored]
      exact ⟨kept, queue, listed⟩

/-- What is gone stays so when the channel is closed. -/
theorem Gone.close (h : c.Gone i) : c.close.Gone i := by
  obtain ⟨s, found, kept, queue, -⟩ := h
  refine ⟨{ s with listed := false }, ?_, kept, queue, fun _ => rfl⟩
  show (c.subscriptions.map _)[i]? = _
  rw [List.getElem?_map, found]
  rfl

theorem Gone.drop (h : c.Gone i) (j : Nat) : (c.drop j).Gone i := by
  obtain ⟨s, found, kept, queue, listed⟩ := h
  by_cases same : j = i
  · subst same
    refine ⟨{ s with kept := false, queue := {} }, ?_, rfl, rfl, listed⟩
    show (c.subscriptions.modify j _)[j]? = _
    rw [List.getElem?_modify_eq, found]
    rfl
  · refine ⟨s, ?_, kept, queue, listed⟩
    show (c.subscriptions.modify j _)[i]? = some s
    rw [List.getElem?_modify, found]
    simp [same]

/-- There is nothing to receive for a subscription whose receiver was dropped. -/
theorem Gone.receiveMany (h : c.Gone i) (limit j : Nat) :
    (c.receiveMany limit j).1.Gone i ∧ (j = i → (c.receiveMany limit j).2.1 = []) := by
  obtain ⟨s, found, kept, queue, listed⟩ := h
  have lt := (List.getElem?_eq_some_iff.1 found).1
  by_cases same : j = i
  · subst same
    rw [Broadcast.receiveMany, found]
    refine ⟨⟨(s.takeMany limit).1, List.getElem?_set_self lt, kept, ?_, listed⟩, fun _ => ?_⟩
    · simp [Subscription.takeMany, queue]
    · simp [Subscription.takeMany, queue]
  · refine ⟨?_, fun e => absurd e same⟩
    unfold Broadcast.receiveMany
    split
    · refine ⟨s, ?_, kept, queue, listed⟩
      show (c.subscriptions.set j _)[i]? = some s
      rw [List.getElem?_set_ne same, found]
    · exact ⟨s, found, kept, queue, listed⟩

/-! ## receiving neither opens nor closes, and takes no subscription -/

/-- To receive leaves the channel open or closed as it was. -/
@[simp] theorem closed_receive (c : Broadcast α) (i : Nat) : (c.receive i).1.closed = c.closed := by
  unfold receive
  split <;> rfl

/-- To receive several values leaves the channel open or closed as it was. -/
@[simp] theorem closed_receiveMany (limit : Nat) (c : Broadcast α) (i : Nat) :
    (c.receiveMany limit i).1.closed = c.closed := by
  unfold receiveMany
  split <;> rfl

@[simp] theorem length_receiveMany (limit : Nat) (c : Broadcast α) (i : Nat) :
    (c.receiveMany limit i).1.subscriptions.length = c.subscriptions.length := by
  unfold receiveMany
  split
  · exact List.length_set
  · rfl

/-! ## how much is queued -/

@[simp] theorem queued_subscribe (c : Broadcast α) (i : Nat) : c.subscribe.1.queued i = c.queued i := by
  show (((c.subscriptions ++ [{ listed := !c.closed }])[i]?).map _).getD 0 = _
  rw [queued, List.getElem?_append]
  split
  · rfl
  · next beyond =>
    rw [List.getElem?_eq_none (Nat.le_of_not_lt beyond)]
    cases i - c.subscriptions.length <;> rfl

/-- Nothing is queued for a receiver that was dropped. -/
theorem queued_drop (c : Broadcast α) (i j : Nat) :
    (c.drop j).queued i = if j = i then 0 else c.queued i := by
  show (((c.subscriptions.modify j _)[i]?).map _).getD 0 = _
  rw [queued, List.getElem?_modify]
  split
  · cases c.subscriptions[i]? <;> rfl
  · cases c.subscriptions[i]? <;> rfl

/-- A receive takes one value off, if there is one. -/
theorem queued_receive (c : Broadcast α) (i j : Nat) :
    (c.receive j).1.queued i = if j = i then c.queued i - 1 else c.queued i := by
  rw [receive_fst]
  unfold receiveMany
  split
  · next s found =>
    show (((c.subscriptions.set j (s.takeMany 1).1)[i]?).map _).getD 0 = _
    by_cases same : j = i
    · subst same
      have lt := (List.getElem?_eq_some_iff.1 found).1
      rw [List.getElem?_set_self lt, if_pos rfl, queued, found]
      show (s.takeMany 1).1.queue.length = s.queue.length - 1
      rw [← Queue.length_toList, ← Queue.length_toList, Subscription.takeMany]
      simp
    · rw [List.getElem?_set_ne same, if_neg same, queued]
  · next absent =>
    split
    · next same =>
      subst same
      rw [queued, absent]
      rfl
    · rfl

/-- A value that is received was queued. -/
theorem queued_pos_of_value {a : α} (received : (c.receive i).2 = .value a) : 0 < c.queued i := by
  have first := c.toList_receive i
  rw [received] at first
  unfold receiveMany at first
  split at first
  · next s found =>
    rw [queued, found]
    show 0 < s.queue.length
    rw [← Queue.length_toList]
    refine List.length_pos_iff.2 fun none => ?_
    rw [Subscription.takeMany] at first
    simp [none, Received.toList] at first
  · cases first

/-! ## the receivers that were not dropped -/

/-- Which receivers were not dropped, by the numbers of their subscriptions. -/
def keeps (c : Broadcast α) : List Bool := c.subscriptions.map (·.kept)

@[simp] theorem length_keeps (c : Broadcast α) : c.keeps.length = c.subscriptions.length :=
  List.length_map _

/-- A new receiver is kept. -/
@[simp] theorem keeps_subscribe (c : Broadcast α) : c.subscribe.1.keeps = c.keeps ++ [true] :=
  List.map_append

@[simp] theorem keeps_publish (c : Broadcast α) (a : α) : (c.publish a).keeps = c.keeps := by
  show (c.subscriptions.map (·.deliver a)).map (·.kept) = c.subscriptions.map (·.kept)
  rw [List.map_map]
  refine List.map_congr_left fun s _ => ?_
  show (s.deliver a).kept = s.kept
  unfold Subscription.deliver
  split
  · split <;> rfl
  · rfl

@[simp] theorem length_publish (c : Broadcast α) (a : α) :
    (c.publish a).subscriptions.length = c.subscriptions.length :=
  List.length_map _

@[simp] theorem keeps_close (c : Broadcast α) : c.close.keeps = c.keeps :=
  List.map_map

/-- Only the receiver that is dropped is not kept any more. -/
@[simp] theorem keeps_drop (c : Broadcast α) (i : Nat) :
    (c.drop i).keeps = c.keeps.set i false := by
  show (c.subscriptions.modify i _).map (·.kept) = (c.subscriptions.map (·.kept)).set i false
  refine List.ext_getElem? fun j => ?_
  rw [List.getElem?_map, List.getElem?_modify, List.getElem?_set, List.length_map,
    List.getElem?_map]
  by_cases same : i = j
  · subst same
    by_cases lt : i < c.subscriptions.length
    · simp [lt]
    · simp [lt]
  · simp [same]

@[simp] theorem keeps_receiveMany (limit : Nat) (c : Broadcast α) (i : Nat) :
    (c.receiveMany limit i).1.keeps = c.keeps := by
  unfold receiveMany
  split
  · next s found =>
    show (c.subscriptions.set i (s.takeMany limit).1).map (·.kept) = c.subscriptions.map (·.kept)
    rw [List.map_set]
    obtain ⟨lt, rfl⟩ := List.getElem?_eq_some_iff.1 found
    have lt' : i < c.keeps.length := c.length_keeps.symm ▸ lt
    show c.keeps.set i c.subscriptions[i].kept = c.keeps
    rw [show c.subscriptions[i].kept = c.keeps[i] from (List.getElem_map _).symm]
    exact List.set_getElem_self lt'
  · rfl

/-- A receiver that is owed something is kept. -/
theorem Owes.keeps (h : c.Owes i ahead) : c.keeps[i]? = some true := by
  obtain ⟨s, found, kept, -⟩ := h
  rw [Broadcast.keeps, List.getElem?_map, found, Option.map_some, kept]

theorem Gone.keeps (h : c.Gone i) : c.keeps[i]? = some false := by
  obtain ⟨s, found, kept, -⟩ := h
  rw [Broadcast.keeps, List.getElem?_map, found, Option.map_some, kept]

/-! ## the account of a subscription -/

/-- What a subscription got and what was meant for it: there is no such subscription yet, or
what it got and what it is owed is what was meant for it, or its receiver was dropped. -/
inductive Serves (c : Broadcast α) (i : Nat) (got meant : List α) : Prop
  | absent (fresh : c.subscriptions.length ≤ i) (nothing : got = []) (nobody : meant = [])
  | owes {ahead : List α} (owes : c.Owes i ahead) (all : got ++ ahead = meant)
  | gone (gone : c.Gone i) (some : got <+: meant)

variable {got meant : List α}

/-- What a receiver got is the beginning of what was meant for it. -/
theorem Serves.isPrefix (h : c.Serves i got meant) : got <+: meant := by
  cases h with
  | absent _ nothing _ => rw [nothing]; exact List.nil_prefix
  | owes _ all => exact ⟨_, all⟩
  | gone _ some => exact some

/-- A receiver that was not dropped gets what it is owed, and that is all that is missing. -/
theorem Serves.owes_of_keeps (h : c.Serves i got meant) (kept : c.keeps[i]? = some true) :
    ∃ ahead, c.Owes i ahead ∧ got ++ ahead = meant := by
  cases h with
  | absent fresh _ _ =>
    rw [List.getElem?_eq_none (c.length_keeps.symm ▸ fresh)] at kept
    cases kept
  | owes owes all => exact ⟨_, owes, all⟩
  | gone gone _ =>
    rw [gone.keeps] at kept
    cases kept

theorem Serves.subscribe (h : c.Serves i got meant) : c.subscribe.1.Serves i got meant := by
  cases h with
  | absent fresh nothing nobody =>
    by_cases last : c.subscriptions.length = i
    · subst last
      exact .owes c.owes_subscribe (by rw [nothing, nobody]; rfl)
    · refine .absent ?_ nothing nobody
      show (c.subscriptions ++ _).length ≤ i
      rw [List.length_append, List.length_singleton]
      omega
  | owes owes all => exact .owes owes.subscribe all
  | gone gone some => exact .gone gone.subscribe some

/-- What is published is meant for the subscriptions that there are, while the channel is
open. -/
theorem Serves.publish (h : c.Serves i got meant) (a : α) :
    (c.publish a).Serves i got
      (meant ++ if c.closed ∨ c.subscriptions.length ≤ i then [] else [a]) := by
  cases h with
  | absent fresh nothing nobody =>
    rw [if_pos (.inr fresh), List.append_nil]
    refine .absent ?_ nothing nobody
    show (c.subscriptions.map _).length ≤ i
    rw [List.length_map]
    exact fresh
  | owes owes all =>
    have later : ¬c.subscriptions.length ≤ i := Nat.not_le.2 owes.lt_length
    refine .owes (owes.publish a) ?_
    cases c.closed <;> simp [← all, later]
  | gone gone some => exact .gone (gone.publish a) (some.trans (List.prefix_append _ _))

/-- A closed channel serves its receivers as before, up to the end of what is queued. -/
theorem Serves.close (h : c.Serves i got meant) : c.close.Serves i got meant := by
  cases h with
  | absent fresh nothing nobody =>
    refine .absent ?_ nothing nobody
    show (c.subscriptions.map _).length ≤ i
    rw [List.length_map]
    exact fresh
  | owes owes all => exact .owes owes.close all
  | gone gone some => exact .gone gone.close some

/-- A receiver that is dropped got what it got. -/
theorem Serves.drop (h : c.Serves i got meant) (j : Nat) : (c.drop j).Serves i got meant := by
  cases h with
  | absent fresh nothing nobody =>
    refine .absent ?_ nothing nobody
    show (c.subscriptions.modify j _).length ≤ i
    rw [List.length_modify]
    exact fresh
  | owes owes all =>
    by_cases same : j = i
    · subst same
      exact .gone owes.gone_drop ⟨_, all⟩
    · exact .owes (owes.drop same) all
  | gone gone some => exact .gone (gone.drop j) some

/-- What is received from a subscription is what it got from then on. -/
theorem Serves.receiveMany (h : c.Serves i got meant) (limit j : Nat) :
    (c.receiveMany limit j).1.Serves i
      (got ++ if j = i then (c.receiveMany limit j).2.1 else []) meant := by
  cases h with
  | absent fresh nothing nobody =>
    have none : j = i → (c.receiveMany limit j).2.1 = [] := by
      rintro rfl
      rw [Broadcast.receiveMany, List.getElem?_eq_none fresh]
    refine .absent (by rw [length_receiveMany]; exact fresh) ?_ nobody
    split
    · next same => rw [nothing, none same]; rfl
    · rw [nothing]; rfl
  | owes owes all =>
    by_cases same : j = i
    · subst same
      obtain ⟨answer, left⟩ := owes.receiveMany limit
      refine .owes left ?_
      rw [if_pos rfl, answer, List.append_assoc, List.take_append_drop, all]
    · refine .owes (owes.receiveMany_of_ne limit same) ?_
      rw [if_neg same, List.append_nil, all]
  | gone gone some =>
    obtain ⟨still, none⟩ := gone.receiveMany limit j
    refine .gone still ?_
    split
    · next same => rw [none same, List.append_nil]; exact some
    · rw [List.append_nil]; exact some

/-! ## publishing several values -/

def publishMany (c : Broadcast α) (as : List α) : Broadcast α := as.foldl publish c

@[simp] theorem closed_publishMany (c : Broadcast α) (as : List α) :
    (c.publishMany as).closed = c.closed := by
  induction as generalizing c with
  | nil => rfl
  | cons a as ih => exact ih (c.publish a)

@[simp] theorem keeps_publishMany (c : Broadcast α) (as : List α) :
    (c.publishMany as).keeps = c.keeps := by
  induction as generalizing c with
  | nil => rfl
  | cons a as ih => exact (ih (c.publish a)).trans (c.keeps_publish a)

@[simp] theorem length_publishMany (c : Broadcast α) (as : List α) :
    (c.publishMany as).subscriptions.length = c.subscriptions.length := by
  rw [← length_keeps, keeps_publishMany, length_keeps]

/-- What is published in an open channel is meant for those that subscribed before. -/
theorem Serves.publishMany (h : c.Serves i got meant) (as : List α) :
    (c.publishMany as).Serves i got
      (meant ++ if c.closed ∨ c.subscriptions.length ≤ i then [] else as) := by
  induction as generalizing c meant with
  | nil =>
    rw [ite_self, List.append_nil]
    exact h
  | cons a as ih =>
    have first := ih (h.publish a)
    rw [closed_publish, length_publish, List.append_assoc] at first
    by_cases nobody : c.closed ∨ c.subscriptions.length ≤ i
    · rw [if_pos nobody, if_pos nobody] at first
      rw [if_pos nobody]
      exact first
    · rw [if_neg nobody, if_neg nobody] at first
      rw [if_neg nobody]
      exact first

/-! ## how many get a value -/

/-- The channel delivers to a subscription exactly when it is open and the receiver was not
dropped, but for receivers whose dropping it did not notice yet. -/
def Listed (c : Broadcast α) : Prop :=
  ∀ s ∈ c.subscriptions,
    (c.closed = true → s.listed = false) ∧ (c.closed = false → s.kept = true → s.listed = true)

/-- Every subscription that gets what was meant for it is listed as it should be. -/
theorem listed_of_serves {got meant : Nat → List α} (h : ∀ i, c.Serves i (got i) (meant i)) :
    c.Listed := by
  intro s mem
  obtain ⟨i, lt, rfl⟩ := List.getElem_of_mem mem
  have found : c.subscriptions[i]? = some c.subscriptions[i] := List.getElem?_eq_getElem lt
  cases h i with
  | absent fresh _ _ => exact absurd lt (Nat.not_lt.2 fresh)
  | owes owes _ =>
    obtain ⟨_, same, -, listed, -⟩ := owes
    obtain rfl := Option.some.inj (found.symm.trans same)
    rw [listed]
    exact ⟨fun closed => by rw [closed]; rfl, fun unsealed _ => by rw [unsealed]; rfl⟩
  | gone gone _ =>
    obtain ⟨_, same, kept, -, listed⟩ := gone
    obtain rfl := Option.some.inj (found.symm.trans same)
    exact ⟨listed, fun _ kept' => by rw [kept] at kept'; cases kept'⟩

theorem Listed.publish (h : c.Listed) (a : α) : (c.publish a).Listed := by
  intro delivered mem
  obtain ⟨s, known, rfl⟩ := List.mem_map.1 mem
  obtain ⟨sealed, live⟩ := h s known
  refine ⟨fun closed => ?_, fun unsealed kept => ?_⟩
  · simp [Subscription.deliver, sealed closed]
  · by_cases listed : s.listed = true
    · by_cases k : s.kept = true
      · simp [Subscription.deliver, listed, k]
      · simp [Subscription.deliver, listed, k] at kept
    · simp only [Subscription.deliver, if_neg listed] at kept ⊢
      exact live unsealed kept

/-- A value that is published reaches all receivers that were not dropped, unless the channel
is closed, and no others are counted from then on. -/
theorem Listed.subscriberCount_publish (h : c.Listed) (a : α) :
    (c.publish a).subscriberCount = if c.closed then 0 else c.keeps.count true := by
  show (c.subscriptions.map (·.deliver a)).countP (·.listed) = _
  rw [List.countP_map]
  cases closed : c.closed with
  | true =>
    rw [if_pos rfl, List.countP_eq_zero]
    intro s mem
    have unlisted := (h s mem).1 closed
    simp [Subscription.deliver, unlisted]
  | false =>
    rw [if_neg Bool.false_ne_true, keeps, List.count, List.countP_map]
    refine List.countP_congr fun s mem => ?_
    have listed := (h s mem).2 closed
    cases l : s.listed <;> cases k : s.kept <;> simp_all [Subscription.deliver]

/-- A channel that publishes values delivers to the same subscriptions after that. -/
theorem Listed.publishMany (h : c.Listed) (as : List α) : (c.publishMany as).Listed := by
  induction as generalizing c with
  | nil => exact h
  | cons a as ih => exact ih (h.publish a)

/-- All receivers that were not dropped are counted after several values, too. -/
theorem Listed.subscriberCount_publishMany (h : c.Listed) {as : List α} (some : as ≠ []) :
    (c.publishMany as).subscriberCount = if c.closed then 0 else c.keeps.count true := by
  obtain ⟨before, a, rfl⟩ := List.eq_nil_or_concat as |>.resolve_left some
  rw [Broadcast.publishMany, List.concat_eq_append, List.foldl_append]
  have last := (h.publishMany before).subscriberCount_publish a
  rw [closed_publishMany, keeps_publishMany] at last
  exact last

end Broadcast

end MachineBridge
