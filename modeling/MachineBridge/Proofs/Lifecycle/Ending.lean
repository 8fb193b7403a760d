import MachineBridge.Proofs.Streams.Disconnects
import MachineBridge.Proofs.Streams.States

/-!
# MachineBridge.Proofs.Lifecycle.Ending

The streams of a finalized machine.  A closed channel delivers to nobody, so whoever drains a
subscription to it finds that the stream has ended, whenever the subscription was taken.  The
stream of the states is closed by the teardown itself, and the stream of the lost attachments
when the worker has nothing left to do (`closed_of_idle`), which takes one turn for each event
in the inbox and one more (`closed_of_turns_of_started`).
-/

namespace MachineBridge

/-! ## closed channels -/

namespace Broadcast

variable {α : Type} {c : Broadcast α}

theorem Listed.subscribe (h : c.Listed) : c.subscribe.1.Listed := by
  intro s mem
  obtain known | new := List.mem_append.1 mem
  · exact h s known
  · obtain rfl := List.mem_singleton.1 new
    exact ⟨fun closed => by rw [show c.closed = true from closed]; rfl,
      fun unsealed _ => by rw [show c.closed = false from unsealed]; rfl⟩

/-- A closed channel delivers to nobody. -/
theorem listed_close (c : Broadcast α) : c.close.Listed := by
  intro s mem
  obtain ⟨t, -, rfl⟩ := List.mem_map.1 mem
  exact ⟨fun _ => rfl, fun unsealed => by cases unsealed⟩

theorem Listed.drop (h : c.Listed) (i : Nat) : (c.drop i).Listed := by
  intro s mem
  obtain ⟨k, found⟩ := List.mem_iff_getElem?.1 mem
  rw [Broadcast.drop, List.getElem?_modify] at found
  obtain ⟨t, known, rfl⟩ := Option.map_eq_some_iff.1 found
  obtain ⟨sealed, live⟩ := h t (List.mem_of_getElem? known)
  split
  · exact ⟨sealed, fun _ kept => by cases kept⟩
  · exact ⟨sealed, live⟩

/-- Whoever receives leaves the channel as it is. -/
theorem Listed.receive (h : c.Listed) (i : Nat) : (c.receive i).1.Listed := by
  rw [receive_fst]
  unfold receiveMany
  split
  · next s found =>
    intro t mem
    obtain known | rfl := List.mem_or_eq_of_mem_set mem
    · exact h t known
    · exact h s (List.mem_of_getElem? found)
  · exact h

/-- The stream of a closed channel ends behind what is queued. -/
theorem Listed.drained (h : c.Listed) (closed : c.closed = true) (i : Nat) :
    (c.drain i).2.2 = true := by
  unfold drain receiveMany queued
  split
  · next s found =>
    have unlisted := (h s (List.mem_of_getElem? found)).1 closed
    simp [Subscription.takeMany, unlisted, found]
  · simp

end Broadcast

theorem Listens.listed {own : Nat → Prop} {s t : StateStream} (h : Listens own s t)
    (listed : s.channel.Listed) : t.channel.Listed := by
  induction h with
  | refl => exact listed
  | subscribe _ ih => exact ih.subscribe
  | receive _ _ ih => exact ih.receive _
  | drop _ _ ih => exact ih.drop _

/-- A pipeline that is used goes on delivering to its subscribers. -/
theorem DisconnectPipeline.listed_use {p : DisconnectPipeline} (c : MachineConfiguration) (u : Use)
    (h : p.outbound.Listed) : (p.use c u).outbound.Listed := by
  cases u with
  | report e =>
    rw [use, push_eq]
    exact h
  | endReports => exact h
  | shutdown =>
    rw [use, shutdown]
    split
    · exact p.outbound.listed_close
    · exact h
  | subscribe => exact Broadcast.Listed.subscribe h
  | receive i => exact h.receive i
  | drop i => exact Broadcast.Listed.drop h i
  | work =>
    rw [use, work]
    split
    · split
      · exact h.publish _
      · split
        · exact h
        · exact p.outbound.listed_close
    · exact h

/-- A pipeline that is shut down has a worker that was started, or needs none. -/
theorem DisconnectPipeline.started_shutdown (p : DisconnectPipeline) :
    p.shutdown.worker ≠ .notStarted := by
  unfold shutdown
  split
  · simp
  · next started => exact started

namespace Bridge

variable {m : Nat} {s : StateStream} {p : DisconnectPipeline} {c : MachineConfiguration}

/-! ## the stream of the states -/

/-- After every run the stream of the states of a machine delivers as it should. -/
theorem listed_states_run (actions : List (Environment × Action))
    (found : (({} : Bridge).run actions).states? m = some s) : s.channel.Listed := by
  induction actions using List.reverseRecOn generalizing s with
  | nil => simp [run, states?] at found
  | append_singleton before last ih =>
    rw [run_append] at found
    have reachable : (({} : Bridge).run before).Reachable := ⟨before, rfl⟩
    cases earlier : (({} : Bridge).run before).states? m with
    | none =>
      rw [states?_fresh last.1 last.2 earlier found]
      intro t mem
      cases mem
    | some t =>
      obtain ⟨s', found', change⟩ := stateChange_step reachable last.1 last.2 earlier
      cases found.symm.trans found'
      cases change with
      | applied _ _ _ => exact (ih earlier).publish _
      | closed _ _ => exact t.channel.listed_close
      | listened _ _ listens => exact listens.listed (ih earlier)

/-- Every stream of the states of a finalized machine ends. -/
theorem Finalized.drained_states {b : Bridge} (reachable : b.Reachable) (h : b.Finalized m)
    (i : Nat) : (b.drainStates m i).2.2 = true := by
  obtain ⟨s, found⟩ := Option.ne_none_iff_exists'.1 (states?_of_finalized h)
  have closed := (reachable.closed_iff found).2 h
  obtain ⟨actions, rfl⟩ := reachable
  rw [drainStates_snd found]
  exact (listed_states_run actions found).drained closed i

/-- A stream that is taken then ends at once. -/
theorem Finalized.drained_new {b : Bridge} (reachable : b.Reachable) (h : b.Finalized m) :
    ((b.subscribeStates m).1.drainStates m (b.subscribeStates m).2).2 = ([], true) := by
  obtain ⟨s, found⟩ := Option.ne_none_iff_exists'.1 (states?_of_finalized h)
  have subscribed := subscribed_subscribeStates reachable .idle found
  have next := reachable.step .idle (.subscribeStates m)
  obtain ⟨machine, ahead, found', none, -, drained⟩ := subscribed.hears next
  have finalized := (finalized_iff found').1 (h.step .idle (.subscribeStates m))
  rw [List.nil_append] at none
  rw [none, finalized] at drained
  exact drained

/-- A finalized machine stays so, in the state in which it is. -/
theorem current_of_finalized {before : List (Environment × Action)} {machine : Machine}
    (found : (({} : Bridge).run before).machines[m]? = some machine)
    (finalized : machine.phase = .finalized) (after : List (Environment × Action)) :
    ∃ machine', (({} : Bridge).run (before ++ after)).machines[m]? = some machine' ∧
      machine'.phase = .finalized ∧ machine'.state.current = machine.state.current := by
  have reachable : (({} : Bridge).run before).Reachable := ⟨before, rfl⟩
  have finalized' := (finalized_iff found).2 finalized
  have silent : acceptedStates m {} (before ++ after) = acceptedStates m {} before := by
    have nothing := acceptedStates_of_finalized reachable finalized' after
    rw [acceptedStates, collect_append]
    rw [acceptedStates] at nothing
    rw [nothing, List.append_nil, acceptedStates]
  have stays := finalized'.run after
  rw [← run_append] at stays
  obtain ⟨s, skeleton, -⟩ := stays
  obtain ⟨machine', found', -⟩ := Option.map_eq_some_iff.1 skeleton
  have current := (recorded_run before m).current _ (states?_of_found found)
  have current' := (recorded_run (before ++ after) m).current _ (states?_of_found found')
  rw [silent, ← current] at current'
  refine ⟨machine', found', (finalized_iff found').1 ?_, current'⟩
  rw [run_append]
  exact finalized'.run after

/-! ## the stream of the lost attachments -/

/-- After every run the stream of lost attachments of a machine delivers as it should. -/
theorem listed_disconnects_run (actions : List (Environment × Action))
    (found : (({} : Bridge).run actions).pipeline? m = some (p, c)) : p.outbound.Listed := by
  induction actions using List.reverseRecOn generalizing p with
  | nil => simp [run, pipeline?] at found
  | append_singleton before last ih =>
    rw [run_append] at found
    have reachable : (({} : Bridge).run before).Reachable := ⟨before, rfl⟩
    cases earlier : (({} : Bridge).run before).pipeline? m with
    | none =>
      -- the pipeline of a machine that comes into being has no subscriber yet
      have account := accounted_step_of_absent reachable last.1 earlier last.2
      have none := account.subscriptions p c found
      rw [List.count_nil] at none
      intro t mem
      rw [List.length_eq_zero_iff.1 none] at mem
      cases mem
    | some known =>
      obtain ⟨q, d⟩ := known
      have after := pipeline?_step_of_found reachable last.1 last.2 earlier
      cases found.symm.trans after
      cases used : (({} : Bridge).run before).pipelineUse? m last.2 with
      | none => exact ih earlier
      | some u => exact DisconnectPipeline.listed_use c u (ih earlier)

/-- The pipeline of a finalized machine is closed, and its worker was started or needs not
be. -/
theorem shutdown_run (actions : List (Environment × Action))
    (found : (({} : Bridge).run actions).pipeline? m = some (p, c))
    (finalized : (({} : Bridge).run actions).Finalized m) :
    p.isOpen = false ∧ p.worker ≠ .notStarted := by
  induction actions using List.reverseRecOn generalizing p with
  | nil => simp [run, pipeline?] at found
  | append_singleton before last ih =>
    have closed : p.isOpen = false := by
      have account := accounted_run (before ++ [last]) m
      rw [Bool.eq_false_iff, Ne, account.isOpen p c found]
      exact fun isOpen => isOpen.2 (account.finalized.2 finalized)
    refine ⟨closed, ?_⟩
    rw [run_append] at found finalized
    have reachable : (({} : Bridge).run before).Reachable := ⟨before, rfl⟩
    cases earlier : (({} : Bridge).run before).pipeline? m with
    | none =>
      have account := accounted_step_of_absent reachable last.1 earlier last.2
      exact absurd (account.finalized.2 finalized) List.not_mem_nil
    | some known =>
      obtain ⟨q, d⟩ := known
      have after := pipeline?_step_of_found reachable last.1 last.2 earlier
      cases found.symm.trans after
      obtain before' | used := (finalized_step_iff last.1 last.2).1 finalized
      · obtain ⟨isClosed, started⟩ := ih earlier before'
        cases used : (({} : Bridge).run before).pipelineUse? m last.2 with
        | none => exact started
        | some u => exact (DisconnectPipeline.left_use c u started isClosed).1
      · rw [used]
        exact q.started_shutdown

/-- When the worker of a finalized machine has nothing to do, its public channel is closed. -/
theorem closed_of_idle {actions : List (Environment × Action)}
    (found : (({} : Bridge).run actions).pipeline? m = some (p, c))
    (finalized : (({} : Bridge).run actions).Finalized m) (idle : p.canWork = false) :
    p.outbound.closed = true := by
  obtain ⟨isClosed, started⟩ := shutdown_run actions found finalized
  refine ((accounted_run actions m).stage p c found).closed_of_ended ?_
  cases status : p.worker with
  | notStarted => exact absurd status started
  | running => simp [DisconnectPipeline.canWork, status, isClosed] at idle
  | ended => rfl

/-- Every stream of a closed public channel ends. -/
theorem drained_disconnects {actions : List (Environment × Action)}
    (found : (({} : Bridge).run actions).pipeline? m = some (p, c))
    (closed : p.outbound.closed = true) (i : Nat) :
    ((({} : Bridge).run actions).drainDisconnects m i).2.2 = true := by
  rw [drainDisconnects_snd found]
  exact (listed_disconnects_run actions found).drained closed i

end Bridge

end MachineBridge
