import MachineBridge.Broadcast.Audience
import MachineBridge.Proofs.Broadcast.Delivery
import Mathlib.Data.List.Perm.Basic
import Mathlib.Data.List.Nodup

/-!
# MachineBridge.Proofs.Broadcast.Holding

Who holds the receivers of a channel.  A receiver is available under a name, or a consumer
that is not done took it, and a receiver that nobody holds was dropped.  `Tidy` says so;
while a receiver changes hands, its subscription is one of the `loose` ones.
-/

namespace MachineBridge

variable {α : Type}

/-- A list of the receivers that were not dropped, each of them once, is as long as there are
such receivers. -/
theorem Broadcast.length_of_keeps {c : Broadcast α} {held : List Nat} (nodup : held.Nodup)
    (kept : ∀ i, i ∈ held ↔ c.keeps[i]? = some true) : held.length = c.keeps.count true := by
  have indices : held.Perm (c.keeps.findIdxs (· == true)) := by
    refine (List.perm_ext_iff_of_nodup nodup (List.nodup_findIdxs)).2 fun i => ?_
    refine (kept i).trans ?_
    rw [List.mem_findIdxs_iff_exists_getElem_pos]
    simp [List.getElem?_eq_some_iff]
  rw [indices.length_eq, List.length_findIdxs]
  rfl

namespace Audience

/-- The subscriptions whose receivers are held, under a name or by a consumer that is not
done. -/
def held (a : Audience α) : List Nat :=
  a.receivers.map (·.2) ++ (a.consumers.filter fun c => !c.done).map (·.subscription)

/-- No name stands for two receivers, and the receivers that were not dropped are those that
are held or loose, each of them once. -/
structure Tidy (a : Audience α) (loose : List Nat) : Prop where
  names : (a.receivers.map (·.1)).Nodup
  nodup : (loose ++ a.held).Nodup
  kept : ∀ i, i ∈ loose ++ a.held ↔ a.channel.keeps[i]? = some true

theorem tidy_initial : ({} : Audience α).Tidy [] where
  names := List.nodup_nil
  nodup := List.nodup_nil
  kept := fun _ => by simp [held, Broadcast.keeps]

variable {a : Audience α} {loose : List Nat} {name : String} {i k : Nat}

/-- Every receiver that is held was not dropped. -/
theorem Tidy.keeps (h : a.Tidy []) (mem : i ∈ a.held) : a.channel.keeps[i]? = some true :=
  (h.kept i).1 mem

/-- The number of receivers that are held is the number of those that were not dropped. -/
theorem Tidy.length_held (h : a.Tidy []) : a.held.length = a.channel.keeps.count true :=
  Broadcast.length_of_keeps h.nodup h.kept

/-! ## receivers that change hands -/

/-- Someone else holds the loose receivers. -/
theorem Tidy.of_perm {b : Audience α} {loose' : List Nat} (h : a.Tidy loose)
    (names : (b.receivers.map (·.1)).Nodup) (keeps : b.channel.keeps = a.channel.keeps)
    (perm : (loose ++ a.held).Perm (loose' ++ b.held)) : b.Tidy loose' where
  names := names
  nodup := perm.nodup_iff.1 h.nodup
  kept := fun i => by rw [← perm.mem_iff, keeps, h.kept]

/-- What does not drop a receiver on the channel keeps them all. -/
theorem Tidy.channel (h : a.Tidy loose) {channel : Broadcast α}
    (keeps : channel.keeps = a.channel.keeps) : ({ a with channel } : Audience α).Tidy loose :=
  h.of_perm h.names keeps (List.Perm.refl _)

/-- A new subscription is loose. -/
theorem Tidy.subscribe (h : a.Tidy loose) :
    ({ a with channel := a.channel.subscribe.1 } : Audience α).Tidy (a.channel.subscribe.2 :: loose) where
  names := h.names
  nodup := by
    refine List.nodup_cons.2 ⟨fun mem => ?_, h.nodup⟩
    have lt := (List.getElem?_eq_some_iff.1 ((h.kept _).1 mem)).1
    rw [Broadcast.length_keeps, Broadcast.subscribe_snd] at lt
    exact Nat.lt_irrefl _ lt
  kept := fun i => by
    show i ∈ a.channel.subscribe.2 :: (loose ++ a.held) ↔ a.channel.subscribe.1.keeps[i]? = some true
    rw [List.mem_cons, h.kept, Broadcast.keeps_subscribe, List.getElem?_append,
      Broadcast.subscribe_snd, ← Broadcast.length_keeps]
    split
    · next lt => exact or_iff_right (Nat.ne_of_lt lt)
    · next ge =>
      rw [List.getElem?_eq_none (Nat.not_lt.1 ge), List.getElem?_singleton]
      simp only [reduceCtorEq, or_false]
      constructor
      · rintro rfl
        simp
      · intro there
        split at there
        · omega
        · cases there

/-- A loose receiver can be dropped. -/
theorem Tidy.drop (h : a.Tidy (i :: loose)) :
    ({ a with channel := a.channel.drop i } : Audience α).Tidy loose where
  names := h.names
  nodup := (List.nodup_cons.1 h.nodup).2
  kept := fun j => by
    show j ∈ loose ++ a.held ↔ (a.channel.drop i).keeps[j]? = some true
    have all : j = i ∨ j ∈ loose ++ a.held ↔ _ := List.mem_cons.symm.trans (h.kept j)
    rw [Broadcast.keeps_drop, List.getElem?_set]
    split
    · next same =>
      subst same
      have once : i ∉ loose ++ a.held := (List.nodup_cons.1 h.nodup).1
      split <;> simp [once]
    · next other =>
      rw [← all]
      exact (or_iff_right (Ne.symm other)).symm

/-- Taking a receiver away from its name makes it loose. -/
theorem Tidy.remove (h : a.Tidy loose) (found : a.receivers.lookup name = some i) :
    (a.remove name).Tidy (i :: loose) := by
  obtain ⟨before, after, split, -⟩ := List.lookup_eq_some_iff.1 found
  have names := h.names
  rw [split, List.map_append, List.map_cons, List.nodup_middle, List.nodup_cons] at names
  have others : (a.remove name).receivers = before ++ after := by
    show a.receivers.filter (fun r => decide (r.1 ≠ name)) = before ++ after
    have apart : ∀ r ∈ before ++ after, r.1 ≠ name := by
      intro r mem same
      have there : name ∈ (before ++ after).map (·.1) := List.mem_map.2 ⟨r, mem, same⟩
      rw [List.map_append] at there
      exact names.1 there
    rw [List.forall_mem_append] at apart
    rw [split, List.filter_append, List.filter_cons_of_neg (by simp),
      List.filter_eq_self.2 (by simpa using apart.1), List.filter_eq_self.2 (by simpa using apart.2)]
  refine h.of_perm ?_ rfl ?_
  · rw [others, List.map_append]
    exact names.2
  · rw [held, held, others, split]
    simp only [List.map_append, List.map_cons, List.append_assoc, List.cons_append]
    refine List.Perm.trans ?_ List.perm_middle
    exact List.Perm.append_left loose List.perm_middle

/-- A loose receiver is held again under a name; an older one of that name is dropped. -/
theorem Tidy.place (h : a.Tidy (i :: loose)) : (a.place name i).Tidy loose := by
  have put {b : Audience α} (tidy : b.Tidy (i :: loose)) (free : name ∉ b.receivers.map (·.1)) :
      ({ b with receivers := (name, i) :: b.receivers } : Audience α).Tidy loose :=
    tidy.of_perm (List.nodup_cons.2 ⟨free, tidy.names⟩) rfl List.perm_middle.symm
  have free (b : Audience α) : name ∉ (b.remove name).receivers.map (·.1) := by
    simp [Audience.remove]
  unfold Audience.place
  cases found : a.receivers.lookup name with
  | none =>
    have absent : a.remove name = a := by
      have apart : ∀ r ∈ a.receivers, decide (r.1 ≠ name) = true := fun r mem => by
        have differs := List.lookup_eq_none_iff.1 found r mem
        exact decide_eq_true (bne_iff_ne.1 differs).symm
      unfold Audience.remove
      rw [List.filter_eq_self.2 apart]
    exact put (absent.symm ▸ h : (a.remove name).Tidy _) (free a)
  | some old =>
    have swapped : (a.remove name).Tidy (old :: i :: loose) := h.remove found
    exact put swapped.drop (free a)

/-! ## consumers -/

/-- The consumers before and behind one of them. -/
theorem set_consumers {cs : List (Consumer α)} {c : Consumer α} (found : cs[k]? = some c)
    (c' : Consumer α) : cs = cs.take k ++ c :: cs.drop (k + 1) ∧
      cs.set k c' = cs.take k ++ c' :: cs.drop (k + 1) := by
  obtain ⟨lt, rfl⟩ := List.getElem?_eq_some_iff.1 found
  exact ⟨by simp, List.set_eq_take_append_cons_drop.trans (if_pos lt)⟩

/-- A consumer does not change its receiver, and is done for good. -/
theorem advance_cases (c : Consumer α) (channel : Broadcast α) :
    (c.done = true ∧ c.advance channel = (c, channel)) ∨
      (c.done = false ∧ ∃ limit,
        (c.advance channel).2 = (channel.receiveMany limit c.subscription).1 ∧
        (c.advance channel).1.taken = c.taken ++ (channel.receiveMany limit c.subscription).2.1 ∧
        (c.advance channel).1.subscription = c.subscription) := by
  cases done : c.done with
  | true => exact .inl ⟨rfl, by rw [Consumer.advance, if_pos done]⟩
  | false =>
    refine .inr ⟨rfl, c.wants.getD (channel.queued c.subscription + 1), ?_⟩
    rw [Consumer.advance, if_neg (by rw [done]; exact Bool.false_ne_true)]
    cases c.wants with
    | none => exact ⟨rfl, rfl, rfl⟩
    | some n => exact ⟨rfl, rfl, rfl⟩

/-- A consumer that is done makes its receiver loose, and the others hold on to theirs. -/
theorem Tidy.consumer (h : a.Tidy loose) {c : Consumer α} (found : a.consumers[k]? = some c)
    (waiting : c.done = false) {channel : Broadcast α} (keeps : channel.keeps = a.channel.keeps)
    {c' : Consumer α} (same : c'.subscription = c.subscription) :
    ({ a with channel, consumers := a.consumers.set k c' } : Audience α).Tidy
      (if c'.done then c.subscription :: loose else loose) := by
  obtain ⟨before, after⟩ := set_consumers found c'
  refine h.of_perm h.names keeps ?_
  simp only [held, after]
  conv => lhs; rw [before]
  cases done : c'.done with
  | false => simp [waiting, done, same]
  | true =>
    simp only [waiting, done, Bool.not_false, Bool.not_true, Bool.false_eq_true, if_true, if_false,
      List.filter_append, List.filter_cons, List.map_append, List.map_cons, ← List.append_assoc,
      List.cons_append]
    exact List.perm_middle

/-- When a consumer gets to receive, no receiver is lost. -/
theorem Tidy.advanceOne (h : a.Tidy []) (k : Nat) : (a.advanceOne k).Tidy [] := by
  unfold Audience.advanceOne
  cases found : a.consumers[k]? with
  | none => exact h
  | some c =>
    obtain ⟨done, idle⟩ | ⟨waiting, limit, channel, -, same⟩ := advance_cases c a.channel
    · have unchanged : a.consumers.set k c = a.consumers := by
        obtain ⟨before, after⟩ := set_consumers found c
        exact after.trans before.symm
      simp only [idle, done, Bool.not_true, Bool.and_false, Bool.false_eq_true, if_false, unchanged]
      exact h
    · have keeps : (c.advance a.channel).2.keeps = a.channel.keeps := by
        rw [channel, Broadcast.keeps_receiveMany]
      have tidy := h.consumer found waiting keeps same
      simp only [waiting, Bool.not_false, Bool.and_true]
      split
      · next done =>
        rw [if_pos done] at tidy
        exact tidy.place
      · next pending =>
        rw [if_neg pending] at tidy
        exact tidy

/-- The turns of several consumers, one after the other. -/
theorem Tidy.turns (ks : List Nat) : ∀ {a : Audience α}, a.Tidy [] →
    (ks.foldl Audience.advanceOne a).Tidy [] := by
  induction ks with
  | nil => exact fun h => h
  | cons k ks ih => exact fun h => ih (h.advanceOne k)

/-- The audience with a new consumer that takes a receiver from its name. -/
def engage (a : Audience α) (rx call : String) (demand : Demand) (i : Nat) : Audience α :=
  { a.remove rx with
    consumers := a.consumers ++ [{ name := rx, subscription := i, demand }]
    calls := (call, a.consumers.length) :: a.calls.filter fun (n, _) => n ≠ call }

/-- A consumer holds the receiver that it took. -/
theorem Tidy.engage (h : a.Tidy loose) (found : a.receivers.lookup name = some i) (call : String)
    (demand : Demand) : (a.engage name call demand i).Tidy loose := by
  have removed := h.remove found
  refine removed.of_perm removed.names rfl ?_
  have more : (a.engage name call demand i).held = (a.remove name).held ++ [i] := by
    simp [held, Audience.engage, Audience.remove]
  rw [more, ← List.append_assoc]
  exact (List.perm_append_singleton _ _).symm

end Audience

end MachineBridge
