import MachineBridge.Registry.Ledger
import MachineBridge.Proofs.Tokens.Change
import Mathlib.Algebra.Group.Nat.Defs
import Mathlib.Data.List.Nodup
import Mathlib.Data.List.Induction

/-!
# MachineBridge.Proofs.Registrations

Registrations that overlap.  Registering a value takes two steps, issuing the token and
storing the value, and between them its builder runs, which may use the registry itself or
panic.  Any number of workers may be at it, so the steps of different registrations,
resolves and releases come in any order, and a run of `Registrations` is any such order.

The life of a single token is its `status`: unissued, building, then live or panicked, and
released after that.  `safe_run` says that the registry answers every question about a
token by its status, that issued tokens are distinct machine words other than zero, and
that its size is what was stored less what was released.
-/

namespace MachineBridge

namespace Registry

/-- A token that names a value is released with it. -/
theorem release_of_named {r : Registry} {h : Handle} {v : Value} (found : r.get? h = some v) :
    r.release h = .ok (r.erase h, v) := by
  rw [release, found]

/-- A token that names nothing is not released. -/
theorem release_of_unnamed {r : Registry} {h : Handle} (none : r.get? h = none) :
    r.release h = .error (.notFound h) := by
  rw [release, none]

/-- The tokens in the table are those that name a value. -/
theorem mem_keys_iff {r : Registry} {h : Handle} :
    h ∈ r.slots.map Prod.fst ↔ r.get? h ≠ none := by
  rw [get?, Ne, List.lookup_eq_none_iff]
  simp

theorem keys_erase (r : Registry) (h : Handle) :
    (r.erase h).slots.map Prod.fst = (r.slots.map Prod.fst).filter (· != h) := by
  rw [erase, List.filter_map]
  congr 1
  apply List.filter_congr
  rintro ⟨token, v⟩ -
  by_cases same : token = h <;> simp [same]

/-- Tokens of a registry stay different when one is forgotten. -/
theorem nodup_keys_erase {r : Registry} (nodup : (r.slots.map Prod.fst).Nodup) (h : Handle) :
    ((r.erase h).slots.map Prod.fst).Nodup := by
  rw [keys_erase]
  exact nodup.filter _

/-- Forgetting a token that names a value takes one value away. -/
theorem size_erase {r : Registry} (nodup : (r.slots.map Prod.fst).Nodup) {h : Handle} {v : Value}
    (found : r.get? h = some v) : (r.erase h).size + 1 = r.size := by
  have mem : h ∈ r.slots.map Prod.fst := by rw [mem_keys_iff, found]; simp
  have length := List.length_erase_of_mem mem
  rw [nodup.erase_eq_filter, ← keys_erase, List.length_map, List.length_map] at length
  have pos : 0 < r.slots.length := by
    rw [← List.length_map (f := Prod.fst)]
    exact List.length_pos_of_mem mem
  rw [size, size, length]
  omega

end Registry

/-- A registry with the tokens whose values are being built. -/
structure Registrations where
  registry : Registry := {}
  building : List Handle := []
deriving DecidableEq, Repr

namespace Registrations

/-- One step that some worker takes. -/
inductive Event where
  /-- A registration begins: a token is issued, and its builder starts to run. -/
  | start
  /-- The builder of a token is done, and its value is stored. -/
  | finish (token : Handle) (value : Value)
  /-- The builder of a token panics. -/
  | panic (token : Handle)
  | resolve (kind : Kind) (token : Handle)
  | release (token : Handle)
deriving DecidableEq, Repr

/-- Take one step. Only a builder that is running can finish. -/
def step (r : Registrations) : Event → Registrations
  | .start => { registry := r.registry.issue.1, building := r.registry.issue.2 :: r.building }
  | .finish token value =>
    if token ∈ r.building then
      { registry := r.registry.store token value, building := r.building.filter (· ≠ token) }
    else r
  | .panic token => { r with building := r.building.filter (· ≠ token) }
  | .resolve _ _ => r
  | .release token =>
    match r.registry.release token with
    | .ok (registry, _) => { r with registry }
    | .error _ => r

def run (r : Registrations) (events : List Event) : Registrations := events.foldl step r

theorem run_append (r : Registrations) (first second : List Event) :
    r.run (first ++ second) = (r.run first).run second := by
  simp [run]

def issued (r : Registrations) : List Event → List Handle
  | [] => []
  | .start :: rest => r.registry.issue.2 :: (r.step .start).issued rest
  | e :: rest => (r.step e).issued rest

/-- How often something happens in a run. -/
def count (happens : Registrations → Event → Bool) (r : Registrations) : List Event → Nat
  | [] => 0
  | e :: rest => (if happens r e then 1 else 0) + (r.step e).count happens rest

def finishes (r : Registrations) : Event → Bool
  | .finish token _ => token ∈ r.building
  | _ => false

def releases (r : Registrations) : Event → Bool
  | .release token => (r.registry.release token).isOk
  | _ => false

/-! ## the life of a token -/

/-- How far a token is. -/
inductive Status where
  | unissued
  | building
  | live (value : Value)
  | panicked
  | released
deriving DecidableEq, Repr

/-- The value that a token of this status names. -/
def Status.value? : Status → Option Value
  | .live v => some v
  | _ => none

/-- What a step makes of the status of a token. `next` is the token that would be issued. -/
def Status.after (h next : Handle) (s : Status) : Event → Status
  | .start => if s = .unissued ∧ next = h then .building else s
  | .finish token value => if s = .building ∧ token = h then .live value else s
  | .panic token => if s = .building ∧ token = h then .panicked else s
  | .resolve _ _ => s
  | .release token => if s.value?.isSome ∧ token = h then .released else s

/-- The status of a token after a run. -/
def statusFrom (h : Handle) (r : Registrations) (s : Status) : List Event → Status
  | [] => s
  | e :: rest => (r.step e).statusFrom h (s.after h r.registry.issue.2 e) rest

/-- The status of a token after a run from the beginning. -/
def status (h : Handle) (events : List Event) : Status :=
  ({} : Registrations).statusFrom h .unissued events

/-- The status of a token after a run goes on from that after its first part. -/
theorem statusFrom_append (h : Handle) (r : Registrations) (s : Status)
    (first second : List Event) :
    r.statusFrom h s (first ++ second) =
      (r.run first).statusFrom h (r.statusFrom h s first) second := by
  induction first generalizing r s with
  | nil => rfl
  | cons e first ih => exact ih (r.step e) (s.after h r.registry.issue.2 e)

/-- What is released stays released. -/
theorem statusFrom_released (h : Handle) (r : Registrations) (events : List Event) :
    r.statusFrom h .released events = .released := by
  induction events generalizing r with
  | nil => rfl
  | cons e rest ih =>
    have stays : Status.released.after h r.registry.issue.2 e = .released := by
      cases e <;> simp [Status.after, Status.value?]
    rw [statusFrom, stays]
    exact ih (r.step e)

/-- The registry and the status of a token tell the same. -/
structure Agrees (r : Registrations) (h : Handle) (s : Status) : Prop where
  issued : s ≠ .unissued → h.raw < r.registry.next
  named : r.registry.get? h = s.value?
  building : h ∈ r.building ↔ s = .building

/-- In an empty registry no token has been issued. -/
theorem agrees_initial (h : Handle) : ({} : Registrations).Agrees h .unissued where
  issued unissued := absurd rfl unissued
  named := rfl
  building := by simp

/-- A step changes the registry for a token as it changes the status of the token. -/
theorem Agrees.step {r : Registrations} {h : Handle} {s : Status} (agrees : r.Agrees h s)
    (e : Event) : (r.step e).Agrees h (s.after h r.registry.issue.2 e) := by
  obtain ⟨issued, named, building⟩ := agrees
  cases e with
  | start =>
    by_cases begins : s = .unissued ∧ r.registry.issue.2 = h
    · obtain ⟨rfl, rfl⟩ := begins
      rw [Status.after, if_pos ⟨rfl, rfl⟩]
      exact ⟨fun _ => Nat.lt_succ_self _, named, by simp [Registrations.step]⟩
    · rw [Status.after, if_neg begins]
      have other : h ≠ r.registry.issue.2 := by
        rintro rfl
        exact Nat.lt_irrefl _ (issued fun unissued => begins ⟨unissued, rfl⟩)
      refine ⟨fun hs => Nat.lt_succ_of_lt (issued hs), named, ?_⟩
      simpa [Registrations.step, other] using building
  | finish token value =>
    by_cases finishes : s = .building ∧ token = h
    · obtain ⟨rfl, rfl⟩ := finishes
      have mem : token ∈ r.building := building.2 rfl
      rw [Status.after, if_pos ⟨rfl, rfl⟩, Registrations.step, if_pos mem]
      refine ⟨fun _ => issued (by simp), ?_, by simp⟩
      rw [Registry.get?_store, if_pos rfl]
      rfl
    · rw [Status.after, if_neg finishes]
      rw [Registrations.step]
      split
      · next mem =>
        have other : h ≠ token := by
          rintro rfl
          exact finishes ⟨building.1 mem, rfl⟩
        refine ⟨issued, ?_, ?_⟩
        · rw [Registry.get?_store, if_neg other]
          exact named
        · simpa [other] using building
      · exact ⟨issued, named, building⟩
  | panic token =>
    by_cases panics : s = .building ∧ token = h
    · obtain ⟨rfl, rfl⟩ := panics
      rw [Status.after, if_pos ⟨rfl, rfl⟩]
      exact ⟨fun _ => issued (by simp), named, by simp [Registrations.step]⟩
    · rw [Status.after, if_neg panics]
      refine ⟨issued, named, ?_⟩
      have kept : h ∈ r.building → h ≠ token := by
        rintro mem rfl
        exact panics ⟨building.1 mem, rfl⟩
      simp only [Registrations.step, List.mem_filter, decide_eq_true_eq, ← building]
      exact ⟨And.left, fun mem => ⟨mem, kept mem⟩⟩
  | resolve kind token => exact ⟨issued, named, building⟩
  | release token =>
    by_cases releases : s.value?.isSome ∧ token = h
    · obtain ⟨live, rfl⟩ := releases
      obtain ⟨v, hv⟩ := Option.isSome_iff_exists.1 live
      have lives : s = .live v := by
        cases s <;> simp_all [Status.value?]
      rw [Status.after, if_pos ⟨live, rfl⟩]
      simp only [Registrations.step, Registry.release_of_named (named.trans hv)]
      refine ⟨fun _ => issued (by simp [lives]), ?_, ?_⟩
      · rw [Registry.get?_erase, if_pos rfl]
        rfl
      · rw [building, lives]
        simp
    · rw [Status.after, if_neg releases]
      cases found : r.registry.get? token with
      | none =>
        simp only [Registrations.step, Registry.release_of_unnamed found]
        exact ⟨issued, named, building⟩
      | some v =>
        have other : h ≠ token := by
          rintro rfl
          exact releases ⟨by rw [← named, found]; rfl, rfl⟩
        simp only [Registrations.step, Registry.release_of_named found]
        refine ⟨issued, ?_, building⟩
        rw [Registry.get?_erase, if_neg other]
        exact named

/-- The registry and the status of every token agree after every run. -/
theorem Agrees.run {r : Registrations} {h : Handle} {s : Status} (agrees : r.Agrees h s)
    (events : List Event) : (r.run events).Agrees h (r.statusFrom h s events) := by
  induction events generalizing r s with
  | nil => exact agrees
  | cons e rest ih => exact ih (agrees.step e)

/-- After every run the registry and the status of a token tell the same. -/
theorem agrees_run (h : Handle) (events : List Event) :
    (({} : Registrations).run events).Agrees h (status h events) :=
  (agrees_initial h).run events

/-! ## what the registry answers -/

variable {r : Registrations} {h : Handle} {s : Status} {v : Value}

/-- A token that is live names its value. -/
theorem Agrees.get?_eq_some_iff (agrees : r.Agrees h s) :
    r.registry.get? h = some v ↔ s = .live v := by
  rw [agrees.named]
  cases s <;> simp [Status.value?]

/-- A token that is not live names nothing. -/
theorem Agrees.get?_eq_none (agrees : r.Agrees h s) (idle : ∀ v, s ≠ .live v) :
    r.registry.get? h = none := by
  rw [agrees.named]
  cases s with
  | live v => exact absurd rfl (idle v)
  | _ => rfl

/-! ## tokens -/

/-- Tokens are issued one after the other. -/
theorem issued_eq (r : Registrations) (events : List Event) :
    r.issued events = (List.range' r.registry.next (events.count .start)).map Handle.mk := by
  induction events generalizing r with
  | nil => rfl
  | cons e rest ih =>
    have later : e ≠ .start → (r.step e).registry.next = r.registry.next := by
      intro other
      cases e with
      | start => exact absurd rfl other
      | finish token value =>
        rw [step]
        split <;> rfl
      | release token =>
        rw [step, Registry.release]
        cases r.registry.get? token <;> rfl
      | _ => rfl
    by_cases begins : e = .start
    · subst begins
      rw [issued, ih, List.count_cons_self, List.range'_succ, List.map_cons]
      rfl
    · have skips : r.issued (e :: rest) = (r.step e).issued rest := by
        cases e with
        | start => exact absurd rfl begins
        | _ => rfl
      rw [skips, ih, later begins, List.count_cons_of_ne begins]

/-- No step makes a token unissued again. -/
theorem Status.after_ne_unissued {s : Status} (hs : s ≠ .unissued) (h next : Handle) (e : Event) :
    s.after h next e ≠ .unissued := by
  cases e <;> simp only [Status.after]
  case resolve => exact hs
  all_goals split
  all_goals first | exact hs | simp

/-- A token that was issued never becomes a new one again. -/
theorem statusFrom_ne_unissued {s : Status} (hs : s ≠ .unissued) (h : Handle) (r : Registrations)
    (events : List Event) : r.statusFrom h s events ≠ .unissued := by
  induction events generalizing r s with
  | nil => exact hs
  | cons e rest ih => exact ih (Status.after_ne_unissued hs h _ e) _

/-- The tokens that are not unissued are those that the run has issued. -/
theorem statusFrom_eq_unissued_iff (h : Handle) (r : Registrations) (events : List Event) :
    r.statusFrom h .unissued events = .unissued ↔ h ∉ r.issued events := by
  induction events generalizing r with
  | nil => simp [statusFrom, issued]
  | cons e rest ih =>
    by_cases begins : e = .start ∧ r.registry.issue.2 = h
    · obtain ⟨rfl, rfl⟩ := begins
      rw [statusFrom, Status.after, if_pos ⟨rfl, rfl⟩]
      have never := statusFrom_ne_unissued (s := .building) (by simp) r.registry.issue.2
        (r.step .start) rest
      simp [never, issued]
    · have same : Status.unissued.after h r.registry.issue.2 e = .unissued := by
        cases e with
        | start => exact if_neg fun both => begins ⟨rfl, both.2⟩
        | _ => simp [Status.after, Status.value?]
      have mem : h ∈ r.issued (e :: rest) ↔ h ∈ (r.step e).issued rest := by
        cases e with
        | start =>
          rw [issued, List.mem_cons]
          exact ⟨fun hm => hm.resolve_left fun eq => begins ⟨rfl, eq.symm⟩, .inr⟩
        | _ => rfl
      rw [statusFrom, same, ih, mem]

/-! ## the number of live tokens -/

/-- How often something happens in a run is counted part by part. -/
theorem count_append (happens : Registrations → Event → Bool) (r : Registrations)
    (first second : List Event) :
    r.count happens (first ++ second) =
      r.count happens first + (r.run first).count happens second := by
  induction first generalizing r with
  | nil => simp [count, run]
  | cons e first ih => rw [List.cons_append, count, ih, count, Nat.add_assoc]; rfl

/-- No token is stored twice, and what is stored and what was released is what was finished. -/
structure Balanced (r : Registrations) (finished released : Nat) : Prop where
  nodup : (r.registry.slots.map Prod.fst).Nodup
  size : r.registry.size + released = finished

/-- A step that stores or releases a value is counted on its side. -/
theorem Balanced.step {r : Registrations} {finished released : Nat}
    (balanced : r.Balanced finished released)
    (unnamed : ∀ h ∈ r.building, r.registry.get? h = none) (e : Event) :
    (r.step e).Balanced (finished + if r.finishes e then 1 else 0)
      (released + if r.releases e then 1 else 0) := by
  obtain ⟨nodup, size⟩ := balanced
  cases e with
  | start | panic token | resolve kind token => exact ⟨nodup, size⟩
  | finish token value =>
    simp only [Registrations.step, finishes, releases, decide_eq_true_eq, Bool.false_eq_true,
      if_false]
    split
    · next mem =>
      have fresh : token ∉ r.registry.slots.map Prod.fst := by
        rw [Registry.mem_keys_iff, unnamed token mem]
        simp
      refine ⟨List.nodup_cons.2 ⟨fresh, nodup⟩, ?_⟩
      simp only [Registry.size, Registry.store, List.length_cons] at size ⊢
      omega
    · exact ⟨nodup, size⟩
  | release token =>
    cases found : r.registry.get? token with
    | none =>
      simp only [Registrations.step, finishes, releases, Registry.release_of_unnamed found]
      exact ⟨nodup, size⟩
    | some v =>
      simp only [Registrations.step, finishes, releases, Registry.release_of_named found]
      refine ⟨Registry.nodup_keys_erase nodup token, ?_⟩
      have one := Registry.size_erase nodup found
      simp only [Except.isOk, Except.toBool, if_true, Bool.false_eq_true, if_false]
      omega

/-- After every run as many values are named as were stored and not released. -/
theorem balanced_run (events : List Event) :
    (({} : Registrations).run events).Balanced (({} : Registrations).count finishes events)
      (({} : Registrations).count releases events) := by
  induction events using List.reverseRecOn with
  | nil => exact ⟨List.nodup_nil, rfl⟩
  | append_singleton before e ih =>
    rw [run_append, count_append, count_append]
    refine ih.step (fun h building => ?_) e
    have agrees := agrees_run h before
    refine agrees.get?_eq_none fun v live => ?_
    rw [agrees.building.1 building] at live
    contradiction

/-! ## every run -/

/-- What the registry answers after a run, by the status of each token. -/
structure Safe (events : List Event) : Prop where
  /-- No two issued tokens are the same machine word. -/
  distinct : ((({} : Registrations).issued events).map fun h => UInt64.ofNat h.raw).Nodup
  /-- The reserved word is never issued. -/
  valid : ∀ h ∈ ({} : Registrations).issued events, UInt64.ofNat h.raw ≠ 0
  /-- Only tokens that were issued have a life. -/
  unissued : ∀ h, status h events = .unissued ↔ h ∉ ({} : Registrations).issued events
  /-- A token resolves to its value, as the kind of the value, as long as it is live. -/
  resolves : ∀ h k v, (({} : Registrations).run events).registry.resolve k h = .ok v ↔
    status h events = .live v ∧ v.kind = k
  /-- The value of a live token is of no other kind. -/
  mismatch : ∀ h k v, status h events = .live v → v.kind ≠ k →
    (({} : Registrations).run events).registry.resolve k h =
      .error (.typeMismatch h k.name v.kind.name)
  /-- Resolving changes nothing, whatever it answers. -/
  intact : ∀ h k, ({} : Registrations).run (events ++ [.resolve k h]) =
    ({} : Registrations).run events
  /-- A token that is not live is not found, and cannot be released. -/
  notFound : ∀ h, (∀ v, status h events ≠ .live v) →
    (∀ k, (({} : Registrations).run events).registry.resolve k h = .error (.notFound h)) ∧
      (({} : Registrations).run events).registry.release h = .error (.notFound h) ∧
      (({} : Registrations).run events).registry.contains h = false
  /-- A live token can be released. -/
  release : ∀ h v, status h events = .live v →
    (({} : Registrations).run events).registry.release h =
        .ok ((({} : Registrations).run (events ++ [.release h])).registry, v) ∧
      status h (events ++ [.release h]) = .released
  /-- A token that was released is never found again. -/
  released : ∀ h, status h events = .released → ∀ later k,
    (({} : Registrations).run (events ++ later)).registry.resolve k h = .error (.notFound h)
  /-- The live tokens are the finished registrations less the successful releases. -/
  size : (({} : Registrations).run events).registry.size +
      ({} : Registrations).count releases events = ({} : Registrations).count finishes events

/-- Issued tokens are words other than zero, if there are fewer than there are words. -/
theorem bounds_of_issued {events : List Event} (few : events.count .start < 2 ^ 64 - 1)
    {h : Handle} (hm : h ∈ ({} : Registrations).issued events) : 0 < h.raw ∧ h.raw < 2 ^ 64 := by
  rw [issued_eq, List.mem_map] at hm
  obtain ⟨n, hn, rfl⟩ := hm
  rw [List.mem_range'_1] at hn
  have pos : 0 < n := hn.1
  have lt : n < 1 + events.count .start := hn.2
  constructor
  · exact pos
  · show n < 2 ^ 64
    omega

/-- Issued tokens differ as words. -/
theorem nodup_words {events : List Event} (few : events.count .start < 2 ^ 64 - 1) :
    ((({} : Registrations).issued events).map fun h => UInt64.ofNat h.raw).Nodup := by
  have nodup : (({} : Registrations).issued events).Nodup := by
    rw [issued_eq]
    exact List.Nodup.map (fun a b same => Handle.mk.inj same) List.nodup_range'
  refine nodup.map_on fun a ha b hb same => ?_
  have words := congrArg UInt64.toNat same
  rw [UInt64.toNat_ofNat_of_lt' (bounds_of_issued few ha).2,
    UInt64.toNat_ofNat_of_lt' (bounds_of_issued few hb).2] at words
  exact congrArg Handle.mk words

/-- Whatever the order in which registrations, resolves and releases take their steps, every
answer of the registry is by the status of the token it is about. -/
theorem safe_run (events : List Event) (few : events.count .start < 2 ^ 64 - 1) :
    Safe events where
  distinct := nodup_words few
  valid h hm zero := by
    obtain ⟨pos, lt⟩ := bounds_of_issued few hm
    rw [← UInt64.toNat_ofNat_of_lt' lt, zero] at pos
    exact Nat.lt_irrefl 0 pos
  unissued h := statusFrom_eq_unissued_iff h _ events
  resolves h k v := by
    rw [Registry.resolve_eq_ok_iff, (agrees_run h events).get?_eq_some_iff]
  mismatch h k v live other := by
    have named := (agrees_run h events).get?_eq_some_iff.2 live
    rw [Registry.resolve, named]
    exact if_neg other
  intact h k := by rw [run_append]; rfl
  notFound h idle := by
    have unnamed := (agrees_run h events).get?_eq_none idle
    refine ⟨fun k => ?_, Registry.release_of_unnamed unnamed, ?_⟩
    · rw [Registry.resolve, unnamed]
    · rw [Registry.contains, unnamed]
      rfl
  release h v live := by
    have named := (agrees_run h events).get?_eq_some_iff.2 live
    have released := Registry.release_of_named named
    constructor
    · rw [run_append, released]
      show _ = Except.ok ((step _ (.release h)).registry, v)
      rw [step, released]
    · rw [status, statusFrom_append]
      show Status.after h (({} : Registrations).run events).registry.issue.2 (status h events)
        (.release h) = .released
      rw [live]
      exact if_pos ⟨rfl, rfl⟩
  released h gone later k := by
    have still : status h (events ++ later) = .released := by
      rw [status, statusFrom_append]
      show statusFrom h _ (status h events) later = .released
      rw [gone, statusFrom_released]
    have unnamed := (agrees_run h (events ++ later)).get?_eq_none (by simp [still])
    rw [Registry.resolve, unnamed]
  size := (balanced_run events).size

/-- A registration inside the builder of another is done first, a builder panics, and the
inner token is released. -/
theorem safe_run_nested :
    [Event.start, .start, .finish ⟨2⟩ (.int32 5), .finish ⟨1⟩ (.word 1), .start, .panic ⟨3⟩,
        .release ⟨2⟩].count .start < 2 ^ 64 - 1 ∧
      (({} : Registrations).run [Event.start, .start, .finish ⟨2⟩ (.int32 5),
        .finish ⟨1⟩ (.word 1), .start, .panic ⟨3⟩, .release ⟨2⟩]).registry.resolve .word ⟨1⟩ =
        .ok (.word 1) := by
  have few : [Event.start, .start, .finish ⟨2⟩ (.int32 5), .finish ⟨1⟩ (.word 1), .start,
      .panic ⟨3⟩, .release ⟨2⟩].count .start < 2 ^ 64 - 1 := by decide
  exact ⟨few, ((safe_run _ few).resolves ⟨1⟩ .word (.word 1)).2 ⟨by decide, rfl⟩⟩

/-! ## uses of the ledger -/

/-- A run leads from one registry to another, with no registration under way at either end. -/
def Leads (r r' : Registry) : Prop := ∃ events, run ⟨r, []⟩ events = ⟨r', []⟩

theorem Leads.refl (r : Registry) : Leads r r := ⟨[], rfl⟩

theorem Leads.of_eq {r r' : Registry} (same : r' = r) : Leads r r' := same ▸ .refl r

theorem Leads.trans {r₁ r₂ r₃ : Registry} (first : Leads r₁ r₂) (second : Leads r₂ r₃) :
    Leads r₁ r₃ := by
  obtain ⟨events, h⟩ := first
  obtain ⟨events', h'⟩ := second
  exact ⟨events ++ events', by rw [run_append, h, h']⟩

/-- A registration whose builder does nothing with the registry. -/
theorem leads_register (r : Registry) (v : Value) : Leads r (r.register v).1 :=
  ⟨[.start, .finish r.issue.2 v], by simp [run, step, Registry.register]⟩

theorem registry_retain (l : Ledger) (v : Value) : (l.retain v).registry = l.registry := by
  cases v <;> rfl

theorem registry_letGo (l : Ledger) (v : Value) : (l.letGo v).registry = l.registry := by
  cases v <;> rfl

theorem registry_add (l : Ledger) (h : Handle) (n : Int64) :
    (l.add h n).1.registry = l.registry := by
  unfold Ledger.add
  split <;> rfl

/-- Registering a value in a ledger registers it. -/
theorem registry_register (l : Ledger) (v : Value) :
    (l.register v).1.registry = (l.registry.register v).1 :=
  registry_retain _ v

/-- Workers of the ledger that register, resolve and perhaps release. -/
theorem leads_churn (release : Bool) (left : Nat) (l : Ledger) (tally : Ledger.Tally)
    (bounded : ∀ h, l.registry.get? h ≠ none → h.raw < l.registry.next) :
    Leads l.registry (Ledger.churn release left l tally).1.registry := by
  induction left generalizing l tally with
  | zero => exact .refl _
  | succ left ih =>
    let v := Value.uint64 (UInt64.ofNat left)
    have later : ∀ h, l.registry.get? h ≠ none → h.raw < l.registry.next + 1 :=
      fun h hh => Nat.lt_succ_of_lt (bounded h hh)
    rw [Ledger.churn]
    cases release with
    | true =>
      refine Leads.trans ⟨[.start, .finish l.registry.issue.2 v, .release l.registry.issue.2], ?_⟩
        (ih { l with registry := l.registry.issue.1 } _ later)
      have unnamed : l.registry.issue.1.get? l.registry.issue.2 = none := by
        by_contra named
        exact Nat.lt_irrefl _ (bounded _ named)
      have stored : (l.registry.issue.1.store l.registry.issue.2 v).get? l.registry.issue.2 =
          some v := by rw [Registry.get?_store, if_pos rfl]
      simp [run, step, Registry.release_of_named stored, Registry.erase_store unnamed]
    | false =>
      have stored := registry_register l v
      refine Leads.trans (stored ▸ leads_register l.registry v) (ih (l.register v).1 _ ?_)
      intro h named
      rw [stored] at named ⊢
      rw [Registry.get?_register] at named
      split at named
      · next same => rw [same]; exact Nat.lt_succ_self _
      · exact later h named

/-- Every use of the ledger is a run of registrations and releases. -/
theorem leads_ledger (l : Ledger)
    (bounded : ∀ h, l.registry.get? h ≠ none → h.raw < l.registry.next) (s : Ledger.Step) :
    Leads l.registry (l.step s).1.registry := by
  cases s with
  | register content via =>
    have stored : (l.step (.register content via)).1.registry = (l.registry.register
        (({ l with registry := l.registry.issue.1 } : Ledger).build content).2).1 := by
      cases via <;> cases content <;> rfl
    rw [stored]
    exact leads_register _ _
  | registerShared number =>
    exact (leads_register _ _).trans (leads_register _ _)
  | registerNested number =>
    refine ⟨[.start, .start, .finish ⟨l.registry.next + 1⟩ (.int32 number),
      .finish ⟨l.registry.next⟩ (.word l.registry.next)], ?_⟩
    simp [run, step, Registry.issue, Ledger.step, Ledger.register, Ledger.store, Ledger.retain]
  | registerPanicking =>
    exact ⟨[.start, .panic l.registry.issue.2], by simp [run, step, Ledger.step]⟩
  | release h =>
    refine ⟨[.release h], ?_⟩
    simp only [run, List.foldl_cons, List.foldl_nil, step, Ledger.step, Ledger.release]
    cases found : l.registry.get? h with
    | none => rw [Registry.release_of_unnamed found]
    | some v => rw [Registry.release_of_named found]; simp [registry_letGo]
  | concurrent workers count release => exact leads_churn release _ l {} bounded
  | hold h k name =>
    refine .of_eq ?_
    simp only [Ledger.step, Ledger.hold]
    split
    · rfl
    · split <;> simp [registry_retain, registry_letGo]
  | letGo name =>
    refine .of_eq ?_
    simp only [Ledger.step, Ledger.letGoName]
    split <;> simp [registry_letGo]
  | add h n =>
    refine .of_eq ?_
    have same := registry_add l h n
    simp only [Ledger.step]
    split <;> next added => rw [added] at same; exact same
  | resolve h k =>
    refine .of_eq ?_
    simp only [Ledger.step]
    split <;> rfl
  | read name =>
    refine .of_eq ?_
    simp only [Ledger.step]
    split <;> rfl
  | contains | isEmpty | debug | drops => exact .refl _

end Registrations

end MachineBridge
