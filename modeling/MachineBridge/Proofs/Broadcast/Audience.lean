import MachineBridge.Proofs.Broadcast.Holding
import Mathlib.Data.List.Induction

/-!
# MachineBridge.Proofs.Broadcast.Audience

What the receivers of a channel get.  A run is any sequence of uses of the channel, in which
consumers that wait for values get to receive at any moment.  `stream` reads off a run what
was published after a receiver was taken and before the channel was closed, and `obtained`
what the receiver got, whichever way it received.

`Account` relates the two over a run, and `delivers_play` is the contract of the channel
that follows from it: what a receiver obtained and what is queued for it is its stream.
-/

namespace MachineBridge

namespace Audience

variable {α : Type}

/-! ## runs -/

/-- What happens to an audience: a use of the channel, or a consumer gets to receive. -/
inductive Move (α : Type) where
  | act (s : Step α)
  | turn (consumer : Nat)
deriving Repr

namespace Move

def isClose : Move α → Bool
  | .act .close => true
  | _ => false

def isSubscribe : Move α → Bool
  | .act (.subscribe _) => true
  | _ => false

/-- The values that are published. -/
def values : Move α → List α
  | .act (.publish vs) => vs
  | _ => []

end Move

def move (a : Audience α) : Move α → Audience α
  | .act s => (a.act s).1
  | .turn k => a.advanceOne k

def play (a : Audience α) (moves : List (Move α)) : Audience α := moves.foldl move a

theorem play_append (a : Audience α) (first second : List (Move α)) :
    a.play (first ++ second) = (a.play first).play second :=
  List.foldl_append

/-- A step after which every waiting consumer reacts is a run: the use of the channel, and
then the turns of the consumers. -/
theorem step_eq_play (a : Audience α) (s : Step α) :
    (a.step s).1 = a.play (.act s :: (a.act s).1.waiting.map .turn) := by
  show (a.act s).1.waiting.foldl advanceOne (a.act s).1 =
    ((a.act s).1.waiting.map .turn).foldl move (a.act s).1
  rw [List.foldl_map]
  rfl

/-! ## what is meant for a receiver -/

/-- The moves after the subscription of a number was taken. -/
def since : Nat → List (Move α) → List (Move α)
  | _, [] => []
  | 0, m :: moves => if m.isSubscribe then moves else since 0 moves
  | i + 1, m :: moves => if m.isSubscribe then since i moves else since (i + 1) moves

/-- The values published after a subscription was taken and before the channel was closed,
in order. -/
def stream (i : Nat) (moves : List (Move α)) : List α :=
  (since i (moves.takeWhile fun m => !m.isClose)).flatMap Move.values

/-- A move comes after a subscription if there are that many already. -/
theorem since_append_singleton (i : Nat) (moves : List (Move α)) (m : Move α) :
    since i (moves ++ [m]) =
      since i moves ++ if moves.countP Move.isSubscribe ≤ i then [] else [m] := by
  induction moves generalizing i with
  | nil => cases i <;> simp [since]
  | cons first moves ih =>
    rw [List.cons_append]
    cases taken : first.isSubscribe with
    | false => cases i <;> simp [since, taken, ih]
    | true => cases i <;> simp [since, taken, ih]

/-- Nothing is added to a stream once the channel is closed. -/
theorem stream_sealed (i : Nat) {moves : List (Move α)} (closed : moves.any Move.isClose = true)
    (more : List (Move α)) : stream i (moves ++ more) = stream i moves := by
  have cut : (moves ++ more).takeWhile (fun m => !m.isClose) =
      moves.takeWhile fun m => !m.isClose := by
    induction moves with
    | nil => cases closed
    | cons m moves ih =>
      rw [List.cons_append, List.takeWhile_cons, List.takeWhile_cons]
      cases c : m.isClose with
      | true => rfl
      | false =>
        rw [List.any_cons, c, Bool.false_or] at closed
        rw [ih closed]
  rw [stream, stream, cut]

/-- A stream grows by what is published while the channel is open, if the subscription was
taken. -/
theorem stream_append_singleton (i : Nat) (moves : List (Move α)) (m : Move α) :
    stream i (moves ++ [m]) = stream i moves ++
      if moves.any Move.isClose ∨ moves.countP Move.isSubscribe ≤ i then [] else m.values := by
  by_cases closed : moves.any Move.isClose = true
  · rw [if_pos (.inl closed), List.append_nil, stream_sealed i closed]
  · have live : ∀ m ∈ moves, (!m.isClose) = true := by simpa using closed
    have before : moves.takeWhile (fun m => !m.isClose) = moves := by
      simpa using @List.takeWhile_append_of_pos _ _ _ [] live
    have within : [m].takeWhile (fun m => !m.isClose) = if m.isClose then [] else [m] := by
      cases c : m.isClose <;> simp [c]
    rw [stream, stream, List.takeWhile_append_of_pos live, before, within]
    cases c : m.isClose with
    | true =>
      have nothing : m.values = [] := by
        cases m with
        | act s => cases s <;> first | rfl | cases c
        | turn k => rfl
      simp [nothing]
    | false =>
      rw [if_neg Bool.false_ne_true, since_append_singleton, List.flatMap_append]
      simp only [closed, Bool.false_eq_true, false_or]
      split <;> simp

/-! ## what a receiver gets -/

/-- The name of the receiver that a step receives from at once. -/
def Step.receiver? : Step α → Option String
  | .tryReceive rx => some rx
  | .poll rx => some rx
  | .receiveNow rx => some rx
  | .drain rx => some rx
  | _ => none

/-- The values that an answer hands over. -/
def Reply.handed : Reply α → List α
  | .option a => a.toList
  | .received r => r.toList
  | .drained vs _ => vs
  | _ => []

/-- What a consumer takes from a subscription when it gets to receive. -/
def gain (a : Audience α) (i k : Nat) : List α :=
  match a.consumers[k]? with
  | some c => if c.subscription = i then (c.advance a.channel).1.taken.drop c.taken.length else []
  | none => []

/-- What consumers take from a subscription in their turns. -/
def gains (i : Nat) : Audience α → List Nat → List α
  | _, [] => []
  | a, k :: ks => a.gain i k ++ gains i (a.advanceOne k) ks

/-- What is received from a subscription in one move. A new consumer takes what it can at
once, and others that wait get to receive with it. -/
def receipts (a : Audience α) (i : Nat) : Move α → List α
  | .act (.consume rx call demand) =>
    match a.receivers.lookup rx with
    | some j => (a.engage rx call demand j).gains i (a.engage rx call demand j).waiting
    | none => []
  | .act s =>
    if (s.receiver?.bind fun rx => a.receivers.lookup rx) = some i then (a.act s).2.handed else []
  | .turn k => a.gain i k

/-- What is received from a subscription in a run. -/
def obtained (i : Nat) : Audience α → List (Move α) → List α
  | _, [] => []
  | a, m :: moves => a.receipts i m ++ obtained i (a.move m) moves

/-- What is received in a run is what is received in its first part and then in the rest. -/
theorem obtained_append (i : Nat) (a : Audience α) (first second : List (Move α)) :
    a.obtained i (first ++ second) = a.obtained i first ++ (a.play first).obtained i second := by
  induction first generalizing a with
  | nil => rfl
  | cons m first ih => rw [List.cons_append, obtained, obtained, ih, List.append_assoc]; rfl

theorem obtained_append_singleton (i : Nat) (a : Audience α) (moves : List (Move α)) (m : Move α) :
    a.obtained i (moves ++ [m]) = a.obtained i moves ++ (a.play moves).receipts i m := by
  rw [obtained_append, obtained, obtained, List.append_nil]

/-! ## receiving and dropping -/

/-- A change of a channel in which its receivers get some values, and nothing else happens
than that some of them are dropped. -/
structure Carries (before after : Broadcast α) (got : Nat → List α) : Prop where
  closed : after.closed = before.closed
  length : after.subscriptions.length = before.subscriptions.length
  serves : ∀ {i : Nat} {had meant : List α}, before.Serves i had meant →
    after.Serves i (had ++ got i) meant

theorem Carries.refl (c : Broadcast α) : Carries c c fun _ => [] where
  closed := rfl
  length := rfl
  serves := fun h => by rw [List.append_nil]; exact h

/-- What two passages of a channel hand over adds up. -/
theorem Carries.trans {c c' c'' : Broadcast α} {got got' : Nat → List α}
    (first : Carries c c' got) (second : Carries c' c'' got') :
    Carries c c'' fun i => got i ++ got' i where
  closed := second.closed.trans first.closed
  length := second.length.trans first.length
  serves := fun h => by rw [← List.append_assoc]; exact second.serves (first.serves h)

/-- To drop a receiver hands nothing over. -/
theorem carries_drop (c : Broadcast α) (j : Nat) : Carries c (c.drop j) fun _ => [] where
  closed := rfl
  length := List.length_modify ..
  serves := fun h => by rw [List.append_nil]; exact h.drop j

/-- To receive up to a limit hands over what was received, to this receiver only. -/
theorem carries_receiveMany (limit : Nat) (c : Broadcast α) (j : Nat) :
    Carries c (c.receiveMany limit j).1 fun i =>
      if j = i then (c.receiveMany limit j).2.1 else [] where
  closed := Broadcast.closed_receiveMany limit c j
  length := Broadcast.length_receiveMany limit c j
  serves := fun h => h.receiveMany limit j

/-- A receiver that is put under a name replaces an older one. -/
theorem carries_place (a : Audience α) (name : String) (i : Nat) :
    Carries a.channel (a.place name i).channel fun _ => [] := by
  unfold place
  cases a.receivers.lookup name with
  | none => exact Carries.refl _
  | some old => exact carries_drop a.channel old

/-- A consumer takes values when it gets to receive. -/
theorem carries_advanceOne (a : Audience α) (k : Nat) :
    Carries a.channel (a.advanceOne k).channel fun i => a.gain i k := by
  unfold advanceOne gain
  cases a.consumers[k]? with
  | none => exact Carries.refl _
  | some c =>
    obtain ⟨done, idle⟩ | ⟨waiting, limit, channel, taken, -⟩ := advance_cases c a.channel
    · simp only [idle, done, Bool.not_true, Bool.and_false, Bool.false_eq_true, if_false,
        List.drop_length, ite_self]
      exact Carries.refl _
    · simp only [taken, List.drop_left]
      have receives := carries_receiveMany limit a.channel c.subscription
      rw [← channel] at receives
      split
      · have placed := receives.trans
          (carries_place { a with
            channel := (c.advance a.channel).2
            consumers := a.consumers.set k (c.advance a.channel).1 } c.name c.subscription)
        simpa only [List.append_nil] using placed
      · exact receives

/-- Several consumers take values in their turns. -/
theorem carries_turns (ks : List Nat) (a : Audience α) :
    Carries a.channel (ks.foldl advanceOne a).channel fun i => a.gains i ks := by
  induction ks generalizing a with
  | nil => exact Carries.refl _
  | cons k ks ih => exact (carries_advanceOne a k).trans (ih _)

/-- A step that receives at once uses the receiver of its name, if there is one. -/
theorem act_receive_cases (a : Audience α) {s : Step α} {rx : String}
    (receives : s.receiver? = some rx) :
    (a.receivers.lookup rx = none ∧ a.act s = (a, .noReceiver)) ∨
      ∃ i limit, a.receivers.lookup rx = some i ∧
        (a.act s).1 = { a with channel := (a.channel.receiveMany limit i).1 } ∧
        (a.act s).2.handed = (a.channel.receiveMany limit i).2.1 := by
  cases found : a.receivers.lookup rx with
  | none =>
    refine .inl ⟨rfl, ?_⟩
    cases s with
    | tryReceive name | poll name | receiveNow name | drain name =>
      cases receives
      simp only [act, withReceiver, found]
    | _ => cases receives
  | some i =>
    refine .inr ⟨i, ?_⟩
    have one := a.channel.receive_fst i
    have values := a.channel.toList_receive i
    cases s with
    | tryReceive name | receiveNow name =>
      cases receives
      refine ⟨1, rfl, ?_⟩
      rw [← one, ← values]
      simp only [act, withReceiver, found]
      rcases a.channel.receive i with ⟨channel, v | _ | _⟩ <;> exact ⟨rfl, rfl⟩
    | poll name =>
      cases receives
      refine ⟨1, rfl, ?_⟩
      rw [← one, ← values]
      simp [act, withReceiver, found, Reply.handed]
    | drain name =>
      cases receives
      refine ⟨a.channel.queued i + 1, rfl, ?_⟩
      simp [act, withReceiver, found, Reply.handed, Broadcast.drain]
    | _ => cases receives

/-- A move that is no use of the whole channel lets receivers get some values, or drops
some. -/
theorem carries_receive (a : Audience α) {s : Step α} {rx : String}
    (receives : s.receiver? = some rx) :
    Carries a.channel (a.act s).1.channel fun i =>
      if (s.receiver?.bind fun rx => a.receivers.lookup rx) = some i then (a.act s).2.handed else [] := by
  rw [receives, Option.bind_some]
  obtain ⟨none, same⟩ | ⟨j, limit, found, after, handed⟩ := a.act_receive_cases receives
  · simp only [none, same, reduceCtorEq, if_false]
    exact Carries.refl _
  · simp only [found, after, handed, Option.some.injEq]
    exact carries_receiveMany limit a.channel j

/-- Every move lets receivers get some values or drops some, but for those that take a
receiver, publish or close. -/
theorem carries_move (a : Audience α) {m : Move α} (unpublished : m.values = [])
    (untaken : m.isSubscribe = false) (unclosed : m.isClose = false) :
    Carries a.channel (a.move m).channel fun i => a.receipts i m := by
  cases m with
  | turn k => exact carries_advanceOne a k
  | act s =>
    cases s with
    | subscribe rx => cases untaken
    | publish vs =>
      rw [show vs = [] from unpublished]
      exact Carries.refl _
    | close => cases unclosed
    | isClosed => exact Carries.refl _
    | join call => exact Carries.refl _
    | drop rx =>
      show Carries a.channel (a.act (.drop rx)).1.channel fun _ => []
      simp only [act]
      cases a.receivers.lookup rx with
      | none => exact Carries.refl _
      | some i => exact carries_drop a.channel i
    | tryReceive rx => exact a.carries_receive rfl
    | poll rx => exact a.carries_receive rfl
    | receiveNow rx => exact a.carries_receive rfl
    | drain rx => exact a.carries_receive rfl
    | consume rx call demand =>
      unfold receipts
      show Carries a.channel (a.act (.consume rx call demand)).1.channel _
      simp only [act, withReceiver]
      cases a.receivers.lookup rx with
      | none => exact Carries.refl _
      | some j => exact carries_turns _ (a.engage rx call demand j)

/-! ## the account of a run -/

/-- Publishing values one after the other answers the sum of the deliveries. -/
theorem publishAll_eq {c : Broadcast α} (listed : c.Listed) (vs : List α) :
    publishAll c vs =
      (c.publishMany vs, vs.length * if c.closed then 0 else c.keeps.count true) := by
  have onwards (sum : Nat) : vs.foldl
      (fun p a => (p.1.publish a, p.2 + (p.1.publish a).subscriberCount)) (c, sum) =
        (c.publishMany vs, sum + vs.length * if c.closed then 0 else c.keeps.count true) := by
    induction vs generalizing c sum with
    | nil => simp [Broadcast.publishMany]
    | cons v vs ih =>
      rw [List.foldl_cons, ih (listed.publish v), listed.subscriberCount_publish,
        Broadcast.closed_publish, Broadcast.keeps_publish, List.length_cons, Nat.succ_mul,
        Nat.add_assoc, Nat.add_comm (vs.length * _)]
      rfl
  exact (onwards 0).trans (by rw [Nat.zero_add])

/-- What a run did to the audience: every receiver that was not dropped is held, the channel
is closed if the run closed it, and every subscription has its account. -/
structure Account (a : Audience α) (moves : List (Move α)) : Prop where
  tidy : a.Tidy []
  closed : a.channel.closed = moves.any Move.isClose
  length : a.channel.subscriptions.length = moves.countP Move.isSubscribe
  serves : ∀ i, a.channel.Serves i (obtained i {} moves) (stream i moves)

variable {a : Audience α} {moves : List (Move α)}

theorem Account.listed (h : a.Account moves) : a.channel.Listed :=
  Broadcast.listed_of_serves h.serves

/-- No move loses a receiver. -/
theorem Tidy.move (h : a.Tidy []) (listed : a.channel.Listed) (m : Move α) :
    (a.move m).Tidy [] := by
  cases m with
  | turn k => exact h.advanceOne k
  | act s =>
    have receiving {rx : String} (receives : s.receiver? = some rx) : (a.act s).1.Tidy [] := by
      obtain ⟨-, same⟩ | ⟨j, limit, -, after, -⟩ := a.act_receive_cases receives
      · rw [same]
        exact h
      · rw [after]
        exact h.channel (Broadcast.keeps_receiveMany limit a.channel j)
    cases s with
    | subscribe rx => exact h.subscribe.place
    | publish vs =>
      have keeps : (publishAll a.channel vs).1.keeps = a.channel.keeps := by
        rw [publishAll_eq listed, Broadcast.keeps_publishMany]
      exact h.channel keeps
    | close => exact h.channel a.channel.keeps_close
    | isClosed => exact h
    | join call => exact h
    | drop rx =>
      show (a.act (.drop rx)).1.Tidy []
      simp only [act]
      cases found : a.receivers.lookup rx with
      | none => exact h
      | some i => exact (h.remove found).drop
    | tryReceive rx => exact receiving rfl
    | poll rx => exact receiving rfl
    | receiveNow rx => exact receiving rfl
    | drain rx => exact receiving rfl
    | consume rx call demand =>
      show (a.act (.consume rx call demand)).1.Tidy []
      simp only [act, withReceiver]
      cases found : a.receivers.lookup rx with
      | none => exact h
      | some i => exact (h.engage found call demand).turns (a.engage rx call demand i).waiting

/-- What is received in a move comes behind what was obtained before. -/
theorem Account.of_carries (h : a.Account moves) (m : Move α) (tidy : (a.move m).Tidy [])
    (unpublished : m.values = []) (untaken : m.isSubscribe = false) (unclosed : m.isClose = false)
    (start : a = ({} : Audience α).play moves) :
    (a.move m).Account (moves ++ [m]) := by
  have carries := a.carries_move unpublished untaken unclosed
  refine ⟨tidy, ?_, ?_, fun i => ?_⟩
  · simp [carries.closed, h.closed, unclosed]
  · simp [carries.length, h.length, untaken]
  · rw [obtained_append_singleton, stream_append_singleton, unpublished, ite_self, List.append_nil,
      ← start]
    exact carries.serves (h.serves i)

/-- Every move keeps the accounts. -/
theorem Account.step (h : (({} : Audience α).play moves).Account moves) (m : Move α) :
    (({} : Audience α).play (moves ++ [m])).Account (moves ++ [m]) := by
  rw [play_append]
  show ((({} : Audience α).play moves).move m).Account (moves ++ [m])
  generalize start : ({} : Audience α).play moves = a at h
  have tidy := h.tidy.move h.listed m
  cases m with
  | turn k => exact h.of_carries _ tidy rfl rfl rfl start.symm
  | act s =>
    cases s with
    | subscribe rx =>
      have placed := carries_place { a with channel := a.channel.subscribe.1 } rx a.channel.subscribe.2
      refine ⟨tidy, ?_, ?_, fun i => ?_⟩
      · rw [List.any_append]
        exact placed.closed.trans (h.closed.trans (Bool.or_false _).symm)
      · rw [List.countP_append, ← h.length]
        exact placed.length.trans (List.length_append ..)
      · rw [obtained_append_singleton, stream_append_singleton, start]
        show (a.move (.act (.subscribe rx))).channel.Serves i (_ ++ []) (_ ++ ite _ [] [])
        rw [ite_self, List.append_nil (stream i moves)]
        exact placed.serves (h.serves i).subscribe
    | publish vs =>
      have after : ((a.move (.act (.publish vs))).channel) = a.channel.publishMany vs :=
        congrArg Prod.fst (publishAll_eq h.listed vs)
      refine ⟨tidy, ?_, ?_, fun i => ?_⟩
      · rw [after, a.channel.closed_publishMany, h.closed]
        simp [Move.isClose]
      · rw [after, a.channel.length_publishMany, h.length]
        simp [Move.isSubscribe]
      · have served := (h.serves i).publishMany vs
        rw [h.closed, h.length] at served
        rw [obtained_append_singleton, stream_append_singleton, start, after]
        show (a.channel.publishMany vs).Serves i (_ ++ []) (_ ++ ite _ [] vs)
        rw [List.append_nil]
        exact served
    | close =>
      refine ⟨tidy, ?_, ?_, fun i => ?_⟩
      · rw [List.any_append]
        exact (Bool.or_true _).symm
      · rw [List.countP_append, ← h.length]
        exact List.length_map _
      · rw [obtained_append_singleton, stream_append_singleton, start]
        show a.channel.close.Serves i (_ ++ []) (_ ++ ite _ [] [])
        rw [ite_self, List.append_nil, List.append_nil]
        exact (h.serves i).close
    | _ => exact h.of_carries _ tidy rfl rfl rfl start.symm

/-- Over every run the accounts are kept. -/
theorem account_play (moves : List (Move α)) : (({} : Audience α).play moves).Account moves := by
  induction moves using List.reverseRecOn with
  | nil => exact ⟨tidy_initial, rfl, rfl, fun i => .absent (Nat.zero_le i) rfl (by cases i <;> rfl)⟩
  | append_singleton moves m ih => exact ih.step m

/-! ## the contract -/

def ahead (a : Audience α) (i : Nat) : List α :=
  ((a.channel.subscriptions[i]?).map (·.queue.toList)).getD []

/-- What a receiver is owed is what is queued for it. -/
theorem ahead_eq {i : Nat} {queued : List α} (owes : a.channel.Owes i queued) :
    a.ahead i = queued := by
  obtain ⟨s, found, current⟩ := owes
  rw [ahead, found]
  exact current.queue

/-- What an audience can rely on after a run. -/
structure Delivers (a : Audience α) (moves : List (Move α)) : Prop where
  /-- What a receiver obtained so far, with what is queued for it, is what was published after
  it was taken and before the channel was closed, in order. -/
  whole : ∀ i ∈ a.held, obtained i {} moves ++ a.ahead i = stream i moves
  /-- A receiver that was dropped obtained nothing else, either. -/
  part : ∀ i, obtained i {} moves <+: stream i moves
  /-- The receivers that are held are those that were not dropped, each of them once. -/
  held_nodup : a.held.Nodup
  mem_held : ∀ i, i ∈ a.held ↔ ∃ s, a.channel.subscriptions[i]? = some s ∧ s.kept = true
  /-- A value is delivered to each receiver that is held, or to none once the channel is
  closed. -/
  deliveries : ∀ v, (a.act (.publish [v])).2 =
    .count (if moves.any Move.isClose then 0 else a.held.length)
  /-- Several values are published one after the other. -/
  deliveries_sum : ∀ vs, (a.act (.publish vs)).2 =
    .count (vs.length * if moves.any Move.isClose then 0 else a.held.length)
  /-- As many subscribers are counted afterwards. -/
  counted : ∀ vs ≠ [], (a.act (.publish vs)).1.channel.subscriberCount =
    if moves.any Move.isClose then 0 else a.held.length
  /-- The channel is closed by the first request to close it. -/
  closes : (a.act .close).2 = .truth (!moves.any Move.isClose)
  asked : (a.act .isClosed).2 = .truth (moves.any Move.isClose)
  /-- Nothing is meant for any receiver from then on. -/
  sealed : moves.any Move.isClose → ∀ i more, stream i (moves ++ more) = stream i moves
  /-- The receiver of a name takes the value queued first. -/
  tries : ∀ rx i, a.receivers.lookup rx = some i →
    (a.act (.tryReceive rx)).2 = .option (a.ahead i).head?
  /-- It sees the end of the stream when nothing is queued and the channel is closed. -/
  polls : ∀ rx i, a.receivers.lookup rx = some i →
    (a.act (.poll rx)).2 = .received (.next (moves.any Move.isClose) (a.ahead i))
  receives : ∀ rx i, a.receivers.lookup rx = some i →
    (a.act (.receiveNow rx)).2 =
      if a.ahead i = [] ∧ moves.any Move.isClose = false then .pending
      else .option (a.ahead i).head?
  drains : ∀ rx i, a.receivers.lookup rx = some i →
    (a.act (.drain rx)).2 = .drained (a.ahead i) (moves.any Move.isClose)
  /-- A receiver that is taken after the channel was closed sees the end at once. -/
  late : moves.any Move.isClose → ∀ rx,
    ((a.act (.subscribe rx)).1.act (.poll rx)).2 = .received .ended
  /-- A consumer that waits takes as many of the queued values as it wants, and it is done if
  there were as many or the channel is closed. -/
  waits : ∀ (k : Nat) (c : Consumer α), a.consumers[k]? = some c → c.done = false →
    (a.advanceOne k).consumers[k]? = some { c with
      taken := c.taken ++ (a.ahead c.subscription).take
        (c.wants.getD (a.ahead c.subscription).length)
      done := moves.any Move.isClose ||
        c.wants.any fun n => decide (n ≤ (a.ahead c.subscription).length) }

/-- A receiver that has a name is held. -/
theorem mem_held_of_lookup {rx : String} {i : Nat} (found : a.receivers.lookup rx = some i) :
    i ∈ a.held := by
  obtain ⟨before, after, split, -⟩ := List.lookup_eq_some_iff.1 found
  simp [held, split]

/-- A consumer that is not done holds its receiver. -/
theorem mem_held_of_waiting {k : Nat} {c : Consumer α} (found : a.consumers[k]? = some c)
    (waiting : c.done = false) : c.subscription ∈ a.held := by
  have mem : c ∈ a.consumers.filter fun c => !c.done :=
    List.mem_filter.2 ⟨List.mem_of_getElem? found, by rw [waiting]; rfl⟩
  exact List.mem_append_right _ (List.mem_map_of_mem mem)

/-- A receiver that is held has got its stream, but for what is still ahead. -/
theorem Account.owes (h : a.Account moves) {i : Nat} (mem : i ∈ a.held) :
    a.channel.Owes i (a.ahead i) ∧ obtained i {} moves ++ a.ahead i = stream i moves := by
  obtain ⟨queued, owes, all⟩ := (h.serves i).owes_of_keeps (h.tidy.keeps mem)
  rw [ahead_eq owes]
  exact ⟨owes, all⟩

/-- What the receiver of a name finds. -/
theorem Account.next (h : a.Account moves) {rx : String} {i : Nat}
    (found : a.receivers.lookup rx = some i) :
    (a.channel.receive i).2 = .next (moves.any Move.isClose) (a.ahead i) := by
  rw [← h.closed]
  exact (h.owes (mem_held_of_lookup found)).1.receive.1

/-- Nothing was meant for a subscription that is not taken yet. -/
theorem Account.stream_fresh (h : a.Account moves) :
    stream a.channel.subscriptions.length moves = [] := by
  cases h.serves a.channel.subscriptions.length with
  | absent _ _ nobody => exact nobody
  | owes owes _ => exact absurd owes.lt_length (Nat.lt_irrefl _)
  | gone gone _ =>
    have lt := (List.getElem?_eq_some_iff.1 gone.keeps).1
    rw [Broadcast.length_keeps] at lt
    exact absurd lt (Nat.lt_irrefl _)

/-- A receiver that is taken after the channel was closed sees the end at once. -/
theorem poll_of_late (h : a.Account moves) (closed : moves.any Move.isClose = true) {rx : String}
    (after : (a.act (.subscribe rx)).1.Account (moves ++ [.act (.subscribe rx)])) :
    ((a.act (.subscribe rx)).1.act (.poll rx)).2 = .received .ended := by
  have found : (a.act (.subscribe rx)).1.receivers.lookup rx =
      some a.channel.subscriptions.length := List.lookup_cons_self
  have all := (after.owes (mem_held_of_lookup found)).2
  rw [stream_sealed _ closed, h.stream_fresh, List.append_eq_nil_iff] at all
  have answer := after.next found
  rw [all.2, List.any_append, closed] at answer
  generalize (a.act (.subscribe rx)).1 = b at found answer
  simp only [act, withReceiver, found]
  exact congrArg Reply.received answer

/-- A consumer that has `got` of the `n` values it waits for, with `count` values queued, is
done if there are enough or the stream ends. -/
theorem done_of_limited (closed : Bool) (n got count : Nat) :
    (closed && decide (min (n - got) count < n - got) ||
        n - (got + min (n - got) count) == 0) = (closed || decide (n - got ≤ count)) := by
  rw [Bool.eq_iff_iff]
  simp only [Bool.or_eq_true, Bool.and_eq_true, decide_eq_true_eq, beq_iff_eq]
  cases closed <;> simp only [true_and, false_and, true_or, false_or, iff_true, Bool.false_eq_true] <;>
    omega

/-- What a waiting consumer finds in its turn. -/
theorem advance_of_owes {c : Consumer α} {channel : Broadcast α} {queued : List α}
    (owes : channel.Owes c.subscription queued) (waiting : c.done = false) :
    (c.advance channel).1 = { c with
      taken := c.taken ++ queued.take (c.wants.getD queued.length)
      done := channel.closed || c.wants.any fun n => decide (n ≤ queued.length) } := by
  obtain ⟨name, subscription, demand, taken, done⟩ := c
  have answer (limit : Nat) := (owes.receiveMany limit).1
  have length := owes.queued
  simp only at answer length waiting
  subst waiting
  cases demand with
  | one | upTo count =>
    simp only [Consumer.advance, Consumer.wants, answer, Bool.false_eq_true, if_false,
      List.length_append, List.length_take, Option.some_beq_some, done_of_limited,
      Option.getD_some, Option.any_some]
  | all =>
    have whole : queued.take (queued.length + 1) = queued :=
      List.take_of_length_le (Nat.le_succ _)
    simp [Consumer.advance, Consumer.wants, answer, length, whole]

/-- A waiting consumer is left with what it found in its turn. -/
theorem getElem?_advanceOne {k : Nat} {c : Consumer α} (found : a.consumers[k]? = some c) :
    (a.advanceOne k).consumers[k]? = some (c.advance a.channel).1 := by
  have turned : (a.advanceOne k).consumers = a.consumers.set k (c.advance a.channel).1 := by
    simp only [advanceOne, found]
    split <;> rfl
  rw [turned]
  exact List.getElem?_set_self (List.getElem?_eq_some_iff.1 found).1

/-- The channel delivers over every run. -/
theorem delivers_play (moves : List (Move α)) :
    (({} : Audience α).play moves).Delivers moves := by
  have h := account_play moves
  have subscribed (rx : String) := account_play (moves ++ [.act (.subscribe rx)])
  simp only [play_append] at subscribed
  generalize ({} : Audience α).play moves = a at h subscribed
  have published (vs : List α) := publishAll_eq h.listed vs
  exact {
    whole := fun i mem => (h.owes mem).2
    part := fun i => (h.serves i).isPrefix
    held_nodup := h.tidy.nodup
    mem_held := fun i => (h.tidy.kept i).trans (by simp [Broadcast.keeps])
    deliveries := fun v => by
      simp only [act, published, h.closed, h.tidy.length_held, List.length_singleton, Nat.one_mul]
    deliveries_sum := fun vs => by
      simp only [act, published, h.closed, h.tidy.length_held]
    counted := fun vs some => by
      simp only [act, published, h.listed.subscriberCount_publishMany some, h.closed,
        h.tidy.length_held]
    closes := by rw [← h.closed]; rfl
    asked := by rw [← h.closed]; rfl
    sealed := fun closed i more => stream_sealed i closed more
    tries := fun rx i found => by
      have answer := h.next found
      simp only [act, withReceiver, found]
      generalize a.channel.receive i = received at answer
      obtain ⟨channel, r⟩ := received
      obtain rfl : r = _ := answer
      cases a.ahead i with
      | nil => cases moves.any Move.isClose <;> rfl
      | cons v rest => rfl
    polls := fun rx i found => by
      simp only [act, withReceiver, found, h.next found]
    receives := fun rx i found => by
      have answer := h.next found
      simp only [act, withReceiver, found]
      generalize a.channel.receive i = received at answer
      obtain ⟨channel, r⟩ := received
      obtain rfl : r = _ := answer
      cases a.ahead i with
      | nil => cases moves.any Move.isClose <;> rfl
      | cons v rest => rfl
    drains := fun rx i found => by
      have drained := (h.owes (mem_held_of_lookup found)).1.drain.1
      simp only [act, withReceiver, found, drained, h.closed]
    late := fun closed rx => poll_of_late h closed (subscribed rx)
    waits := fun k c found waiting => by
      rw [getElem?_advanceOne found, ← h.closed]
      exact congrArg some
        (advance_of_owes (h.owes (mem_held_of_waiting found waiting)).1 waiting) }

/-- One receiver waits for three values, of which two come before the channel is closed; the
other is taken after that. -/
example :
    let moves : List (Move Nat) :=
      [.act (.subscribe "a"), .act (.publish [1]), .act (.consume "a" "call" (.upTo 3)),
        .act (.publish [2]), .act .close, .act (.subscribe "b"), .act (.publish [3]), .turn 0]
    obtained 0 {} moves = [1, 2] ∧ stream 0 moves = [1, 2] ∧ stream 1 moves = [] ∧
      (({} : Audience Nat).play moves).held = [0, 1] := by
  decide +kernel

end Audience

end MachineBridge
