import MachineBridge.Error

/-!
# MachineBridge.Registry

The table that maps tokens to values.  A token is issued before the value is
built, so that the value may know its own token, and names the value once it is
stored; releasing the token ends that.  Tokens are numbered 1, 2, 3, … and never
issued twice.

* `resolve` answers a value of the kind asked for, or says why not;
* `release` is undone by nothing and succeeds once per stored value.
-/

namespace MachineBridge

/-- The kinds of values a token can name. -/
inductive Kind where
  | int32
  | uint64
  | word
  | bool
  | text
  | int32List
  | unit
  | cell
  /-- The execution state of a machine with its broadcast. -/
  | stateStream
  /-- The inbox for lost network attachments of a machine. -/
  | disconnectInbox
  /-- The slot for the outcome of one operation. -/
  | completion
  /-- The window of a machine. -/
  | windowBinding
deriving DecidableEq, Repr

def Kind.name : Kind → String
  | .int32 => "i32"
  | .uint64 => "u64"
  | .word => "usize"
  | .bool => "bool"
  | .text => "alloc::string::String"
  | .int32List => "alloc::vec::Vec<i32>"
  | .unit => "()"
  | .cell => "vz_oracle::registry::Cell"
  | .stateStream => "vzlite::machine::state::MachineState"
  | .disconnectInbox => "vzlite::machine::disconnect::DisconnectInbox"
  | .completion => "vzlite::machine::completion::CompletionSlot"
  | .windowBinding => "vzlite::machine::window::WindowBinding"

/-- A registered value: plain data, or a reference to something shared, by its
number. -/
inductive Value where
  | int32 (n : Int32)
  | uint64 (n : UInt64)
  | word (n : Nat)
  | bool (b : Bool)
  | text (s : String)
  | int32List (ns : List Int32)
  | unit
  | cell (id : Nat)
  | stateStream (machine : Nat)
  | disconnectInbox (machine : Nat)
  | completion (call : Nat)
  | windowBinding (machine : Nat)
deriving DecidableEq, Repr

def Value.kind : Value → Kind
  | .int32 _ => .int32
  | .uint64 _ => .uint64
  | .word _ => .word
  | .bool _ => .bool
  | .text _ => .text
  | .int32List _ => .int32List
  | .unit => .unit
  | .cell _ => .cell
  | .stateStream _ => .stateStream
  | .disconnectInbox _ => .disconnectInbox
  | .completion _ => .completion
  | .windowBinding _ => .windowBinding

/-- The number of the machine or the call that a shared component belongs to.
Data belongs to none. -/
def Value.owner : Value → Nat
  | .stateStream machine => machine
  | .disconnectInbox machine => machine
  | .completion call => call
  | .windowBinding machine => machine
  | _ => 0

/-- The registry: the number of the next token, and the stored values, the
latest first. -/
structure Registry where
  next : Nat := 1
  slots : List (Handle × Value) := []
deriving DecidableEq, Repr

namespace Registry

/-- The value stored under a token, whatever its kind. -/
def get? (r : Registry) (h : Handle) : Option Value := r.slots.lookup h

def contains (r : Registry) (h : Handle) : Bool := (r.get? h).isSome

def size (r : Registry) : Nat := r.slots.length

def isEmpty (r : Registry) : Bool := r.slots.isEmpty

/-- Issue a token. It names nothing yet. -/
def issue (r : Registry) : Registry × Handle := ({ r with next := r.next + 1 }, ⟨r.next⟩)

/-- Store a value under a token that was issued. -/
def store (r : Registry) (h : Handle) (v : Value) : Registry :=
  { r with slots := (h, v) :: r.slots }

/-- Store a value under a fresh token. -/
def register (r : Registry) (v : Value) : Registry × Handle :=
  (r.issue.1.store r.issue.2 v, r.issue.2)

/-- The value of the given kind that a token names. -/
def resolve (r : Registry) (k : Kind) (h : Handle) : Except HandleError Value :=
  match r.get? h with
  | none => .error (.notFound h)
  | some v => if v.kind = k then .ok v else .error (.typeMismatch h k.name v.kind.name)

/-- Forget a token and the value under it. -/
def erase (r : Registry) (h : Handle) : Registry :=
  { r with slots := r.slots.filter fun (token, _) => token ≠ h }

/-- Release a token, which has to name a value, and answer the value. -/
def release (r : Registry) (h : Handle) : Except HandleError (Registry × Value) :=
  match r.get? h with
  | none => .error (.notFound h)
  | some v => .ok (r.erase h, v)

/-- The registry as it is shown for inspection. -/
def debugText (r : Registry) : String :=
  "HandleRegistry \x7b live: " ++ Decimal.natText r.size ++ " \x7d"

/-! ## what a token names after each operation -/

/-- A stored value is what its token names. -/
theorem get?_store (r : Registry) (h k : Handle) (v : Value) :
    (r.store h v).get? k = if k = h then some v else r.get? k := by
  by_cases hk : k = h
  · simp [get?, store, hk]
  · simp [get?, store, List.lookup_cons, hk, beq_eq_false_iff_ne.2 hk]

/-- A forgotten token names nothing, and every other token what it did. -/
theorem get?_erase (r : Registry) (h k : Handle) :
    (r.erase h).get? k = if k = h then none else r.get? k := by
  obtain ⟨next, slots⟩ := r
  simp only [get?, erase]
  induction slots with
  | nil => simp
  | cons slot rest ih =>
    obtain ⟨token, v⟩ := slot
    by_cases ht : token = h
    · subst ht
      by_cases hk : k = token
      · subst hk; simpa using ih
      · simp [List.lookup_cons, beq_eq_false_iff_ne.2 hk] at ih ⊢
        simpa [hk] using ih
    · by_cases hk : k = token
      · subst hk; simp [ht]
      · simp [ht, List.lookup_cons, beq_eq_false_iff_ne.2 hk]
        simpa using ih

/-- A token resolves to what it names, if that is of the kind asked for. -/
theorem resolve_eq_ok_iff {r : Registry} {k : Kind} {h : Handle} {v : Value} :
    r.resolve k h = .ok v ↔ r.get? h = some v ∧ v.kind = k := by
  unfold resolve
  cases r.get? h with
  | none => simp
  | some u =>
    by_cases hk : u.kind = k
    · simp only [if_pos hk, Except.ok.injEq, Option.some.injEq]
      exact ⟨fun e => ⟨e, e ▸ hk⟩, fun e => e.1⟩
    · simp only [if_neg hk, reduceCtorEq, Option.some.injEq, false_iff]
      exact fun e => hk (e.1 ▸ e.2)

/-- Storing a value under a token without one and forgetting it changes nothing. -/
theorem erase_store {r : Registry} {h : Handle} (hn : r.get? h = none) (v : Value) :
    (r.store h v).erase h = r := by
  have hs : ∀ slot ∈ r.slots, slot.1 ≠ h := fun slot hm he => by
    rw [get?, List.lookup_eq_none_iff] at hn
    exact absurd (hn slot hm) (by simp [he])
  obtain ⟨next, slots⟩ := r
  simpa [erase, store] using hs

end Registry

end MachineBridge
