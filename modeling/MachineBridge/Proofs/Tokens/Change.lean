import MachineBridge.Bridge.Run
import Mathlib.Logic.Function.Basic

/-!
# MachineBridge.Proofs.Tokens.Change

Tokens as the components of the bridge see them.  A component is a shared value, and
`token` says under which token it is registered at the moment, if it is.  The registry
changes in few ways only: one or two components are registered or withdrawn, and a caller
registers a number or erases a token.

* `Records` says that the registry names no component but under its token, and that
  tokens are never issued twice;
* `Holds` says that the registry names every component under its token.

Both are kept by every change, `Holds` as long as callers forget nothing but their own.
-/

namespace MachineBridge

/-- Whether a value is a component of the bridge, and not data of a caller. -/
def Value.isShared : Value → Bool
  | .stateStream _ | .disconnectInbox _ | .completion _ | .windowBinding _ => true
  | _ => false

namespace Registry

/-- A value that is registered is what its token names. -/
theorem get?_register (r : Registry) (v : Value) (k : Handle) :
    (r.register v).1.get? k = if k = ⟨r.next⟩ then some v else r.get? k := by
  rw [register, get?_store]
  rfl

@[simp] theorem next_register (r : Registry) (v : Value) : (r.register v).1.next = r.next + 1 :=
  rfl

@[simp] theorem register_snd (r : Registry) (v : Value) : (r.register v).2 = ⟨r.next⟩ := rfl

/-- The registry names components under their tokens only, and every token in use was
issued. -/
structure Records (r : Registry) (token : Value → Option Handle) : Prop where
  issued : ∀ v h, token v = some h → 0 < h.raw ∧ h.raw < r.next
  distinct : ∀ u v h, token u = some h → token v = some h → u = v
  shared : ∀ v h, token v = some h → v.isShared = true
  bounded : ∀ h v, r.get? h = some v → h.raw < r.next
  named : ∀ h v, r.get? h = some v → v.isShared = true → token v = some h
  started : 0 < r.next

/-- The registry names every component under its token. -/
def Holds (r : Registry) (token : Value → Option Handle) : Prop :=
  ∀ v h, token v = some h → r.get? h = some v

variable {r r' : Registry} {token token' : Value → Option Handle}

/-- An issued token is not the next one. -/
theorem Records.ne_next (hr : r.Records token) {v : Value} {h : Handle} (hv : token v = some h) :
    h ≠ ⟨r.next⟩ := by
  rintro rfl
  exact Nat.lt_irrefl _ (hr.issued v _ hv).2

/-- Registering a component that has no token yet gives it a fresh one. -/
theorem Records.register (hr : r.Records token) {v : Value} (hv : v.isShared = true)
    (free : token v = none) :
    (r.register v).1.Records (Function.update token v (some (r.register v).2)) where
  issued u h hu := by
    rw [Function.update_apply] at hu
    split at hu
    · cases hu; exact ⟨hr.started, Nat.lt_succ_self _⟩
    · have := hr.issued u h hu
      exact ⟨this.1, Nat.lt_succ_of_lt this.2⟩
  distinct u w h hu hw := by
    rw [Function.update_apply] at hu hw
    split at hu <;> split at hw
    · next h₁ h₂ => rw [h₁, h₂]
    · cases hu; exact absurd rfl (hr.ne_next hw)
    · cases hw; exact absurd rfl (hr.ne_next hu)
    · exact hr.distinct u w h hu hw
  shared u h hu := by
    rw [Function.update_apply] at hu
    split at hu
    · next e => rw [e]; exact hv
    · exact hr.shared u h hu
  bounded h u hu := by
    rw [get?_register] at hu
    split at hu
    · next e => rw [e]; exact Nat.lt_succ_self _
    · exact Nat.lt_succ_of_lt (hr.bounded h u hu)
  named h u hu hs := by
    rw [get?_register] at hu
    rw [Function.update_apply]
    split at hu
    · next e => cases hu; rw [if_pos rfl, e]; rfl
    · next e =>
      have hn := hr.named h u hu hs
      rw [if_neg, hn]
      rintro rfl
      rw [free] at hn
      contradiction
  started := Nat.succ_pos _

/-- Data of a caller is registered beside the components. -/
theorem Records.registerNumber (hr : r.Records token) (n : Int32) :
    (r.register (.int32 n)).1.Records token where
  issued v h hv := ⟨(hr.issued v h hv).1, Nat.lt_succ_of_lt (hr.issued v h hv).2⟩
  distinct := hr.distinct
  shared := hr.shared
  bounded h v hv := by
    rw [get?_register] at hv
    split at hv
    · next e => rw [e]; exact Nat.lt_succ_self _
    · exact Nat.lt_succ_of_lt (hr.bounded h v hv)
  named h v hv hs := by
    rw [get?_register] at hv
    split at hv
    · cases hv; contradiction
    · exact hr.named h v hv hs
  started := Nat.succ_pos _

/-- Forgetting a token names nothing new. -/
theorem Records.erase (hr : r.Records token) (k : Handle) : (r.erase k).Records token where
  issued := hr.issued
  distinct := hr.distinct
  shared := hr.shared
  bounded h v hv := by
    rw [get?_erase] at hv
    split at hv
    · contradiction
    · exact hr.bounded h v hv
  named h v hv hs := by
    rw [get?_erase] at hv
    split at hv
    · contradiction
    · exact hr.named h v hv hs
  started := hr.started

/-- Withdrawing a component forgets its token. -/
theorem Records.withdraw (hr : r.Records token) {v : Value} {k : Handle} (hv : token v = some k) :
    (r.erase k).Records (Function.update token v none) where
  issued u h hu := by
    rw [Function.update_apply] at hu
    split at hu
    · contradiction
    · exact hr.issued u h hu
  distinct u w h hu hw := by
    rw [Function.update_apply] at hu hw
    split at hu <;> split at hw <;> try contradiction
    exact hr.distinct u w h hu hw
  shared u h hu := by
    rw [Function.update_apply] at hu
    split at hu
    · contradiction
    · exact hr.shared u h hu
  bounded := (hr.erase k).bounded
  named h u hu hs := by
    have hn := (hr.erase k).named h u hu hs
    rw [Function.update_apply, if_neg, hn]
    rintro rfl
    obtain rfl : k = h := Option.some.inj (hv.symm.trans hn)
    rw [get?_erase, if_pos rfl] at hu
    contradiction
  started := hr.started

/-- A component that is registered is named under its new token. -/
theorem Holds.register (hr : r.Records token) (hh : r.Holds token) (v : Value) :
    (r.register v).1.Holds (Function.update token v (some (r.register v).2)) := by
  intro u h hu
  rw [Function.update_apply] at hu
  rw [get?_register]
  split at hu
  · next e => cases hu; rw [register_snd, if_pos rfl, e]
  · rw [if_neg (hr.ne_next hu), hh u h hu]

theorem Holds.registerNumber (hr : r.Records token) (hh : r.Holds token) (n : Int32) :
    (r.register (.int32 n)).1.Holds token := by
  intro v h hv
  rw [get?_register, if_neg (hr.ne_next hv), hh v h hv]

/-- A component whose token is withdrawn is not named any more, and others are. -/
theorem Holds.withdraw (hr : r.Records token) (hh : r.Holds token) {v : Value} {k : Handle}
    (hv : token v = some k) : (r.erase k).Holds (Function.update token v none) := by
  intro u h hu
  rw [Function.update_apply] at hu
  split at hu
  · contradiction
  · next ne =>
    rw [get?_erase, if_neg, hh u h hu]
    rintro rfl
    exact ne (hr.distinct u v h hu hv)

/-- A caller who forgets a token that names no component takes none away. -/
theorem Holds.erase (hr : r.Records token) (hh : r.Holds token) {k : Handle}
    (own : ∀ v, r.get? k = some v → v.isShared = false) : (r.erase k).Holds token := by
  intro v h hv
  have hg := hh v h hv
  rw [get?_erase, if_neg, hg]
  rintro rfl
  have hs := hr.shared v h hv
  rw [own v hg] at hs
  contradiction

end Registry

/-! ## changes -/

open Function (update)

/-- What an action does to the registry and to the tokens of the components. The
completion of a call is withdrawn only when it fires or when its token is released. -/
inductive TokenChange (act : Action) (r : Registry) (token : Value → Option Handle) :
    Registry → (Value → Option Handle) → Prop
  | refl : TokenChange act r token r token
  | register {v : Value} (isShared : v.isShared = true) (free : token v = none) :
      TokenChange act r token (r.register v).1 (update token v (some ⟨r.next⟩))
  | registerBoth {u v : Value} (first : u.isShared = true) (second : v.isShared = true)
      (ne : v ≠ u) (freeFirst : token u = none) (freeSecond : token v = none) :
      TokenChange act r token ((r.register u).1.register v).1
        (update (update token u (some ⟨r.next⟩)) v (some ⟨r.next + 1⟩))
  | withdraw {v : Value} {k : Handle} (held : token v = some k)
      (cause : ∀ c, v = .completion c →
        (∃ error, act = .receive (.completion k error)) ∨ act = .releaseToken k) :
      TokenChange act r token (r.erase k) (update token v none)
  | withdrawBoth {u v : Value} {j k : Handle} (ne : v ≠ u) (heldFirst : token u = some j)
      (heldSecond : token v = some k)
      (persistent : (∀ c, u ≠ .completion c) ∧ ∀ c, v ≠ .completion c) :
      TokenChange act r token ((r.erase j).erase k) (update (update token u none) v none)
  | registerNumber {n : Int32} : TokenChange act r token (r.register (.int32 n)).1 token
  | erase {k : Handle} (cause : act = .releaseToken k) : TokenChange act r token (r.erase k) token

namespace TokenChange

open Registry

variable {act : Action} {r r' : Registry} {token token' : Value → Option Handle}

/-- Every change keeps the records right. -/
theorem records (h : TokenChange act r token r' token') (hr : r.Records token) :
    r'.Records token' := by
  cases h with
  | refl => exact hr
  | register isShared free => exact hr.register isShared free
  | registerBoth first second ne freeFirst freeSecond =>
    exact (hr.register first freeFirst).register second
      (by rw [Function.update_of_ne ne, freeSecond])
  | withdraw held _ => exact hr.withdraw held
  | withdrawBoth ne heldFirst heldSecond _ =>
    exact (hr.withdraw heldFirst).withdraw (by rw [Function.update_of_ne ne, heldSecond])
  | registerNumber => exact hr.registerNumber _
  | erase _ => exact hr.erase _

/-- No component loses its name, unless a caller releases its token. -/
theorem holds (h : TokenChange act r token r' token') (hr : r.Records token) (hh : r.Holds token)
    (own : ∀ k, act = .releaseToken k → ∀ v, r.get? k = some v → v.isShared = false) :
    r'.Holds token' := by
  cases h with
  | refl => exact hh
  | register _ _ => exact hh.register hr _
  | registerBoth first _ _ freeFirst _ =>
    exact (hh.register hr _).register (hr.register first freeFirst) _
  | withdraw held _ => exact hh.withdraw hr held
  | withdrawBoth ne heldFirst heldSecond _ =>
    exact (hh.withdraw hr heldFirst).withdraw (hr.withdraw heldFirst)
      (by rw [Function.update_of_ne ne, heldSecond])
  | registerNumber => exact hh.registerNumber hr _
  | erase cause => exact hh.erase hr (own _ cause)

/-- A token that was issued is never issued again. -/
theorem next_le (h : TokenChange act r token r' token') : r.next ≤ r'.next := by
  cases h with
  | refl | withdraw | withdrawBoth | erase => exact Nat.le_refl _
  | register | registerNumber => exact Nat.le_succ _
  | registerBoth => exact Nat.le_add_right _ 2

/-- Two tokens are issued at most. -/
theorem next_le_add_two (h : TokenChange act r token r' token') : r'.next ≤ r.next + 2 := by
  cases h with
  | refl | withdraw | withdrawBoth | erase => exact Nat.le_add_right _ 2
  | register | registerNumber => exact Nat.le_succ _
  | registerBoth => exact Nat.le_refl _

/-- The token of a component is the one that it had, or a fresh one. -/
theorem held_before (h : TokenChange act r token r' token') {v : Value} {k : Handle}
    (hv : token' v = some k) : token v = some k ∨ r.next ≤ k.raw := by
  cases h with
  | refl | registerNumber | erase => exact .inl hv
  | register =>
    rw [Function.update_apply] at hv
    split at hv
    · cases hv; exact .inr (Nat.le_refl _)
    · exact .inl hv
  | registerBoth =>
    rw [Function.update_apply, Function.update_apply] at hv
    split at hv
    · cases hv; exact .inr (Nat.le_succ _)
    · split at hv
      · cases hv; exact .inr (Nat.le_refl _)
      · exact .inl hv
  | withdraw =>
    rw [Function.update_apply] at hv
    split at hv
    · contradiction
    · exact .inl hv
  | withdrawBoth =>
    rw [Function.update_apply, Function.update_apply] at hv
    split at hv
    · contradiction
    · split at hv
      · contradiction
      · exact .inl hv

/-- A token that was issued and names nothing will name nothing. -/
theorem unnamed (h : TokenChange act r token r' token') {k : Handle} (issued : k.raw < r.next)
    (hk : r.get? k = none) : r'.get? k = none := by
  have fresh : ∀ n, r.next ≤ n → k ≠ ⟨n⟩ := fun n hn e => by
    rw [e] at issued
    exact Nat.not_le_of_lt issued hn
  cases h with
  | refl => exact hk
  | register | registerNumber => rw [get?_register, if_neg (fresh _ (Nat.le_refl _)), hk]
  | registerBoth =>
    rw [get?_register, next_register, if_neg (fresh _ (Nat.le_succ _)), get?_register,
      if_neg (fresh _ (Nat.le_refl _)), hk]
  | withdraw | erase => rw [get?_erase, hk, ite_self]
  | withdrawBoth => rw [get?_erase, get?_erase, hk, ite_self, ite_self]

/-- A token that is taken from its component names nothing. -/
theorem withdrawn (h : TokenChange act r token r' token') {v : Value} {k : Handle}
    (held : token v = some k) (lost : token' v ≠ some k) : r'.get? k = none := by
  have other {u : Value} (free : token u = none) : v ≠ u := by
    rintro rfl
    cases held.symm.trans free
  cases h with
  | refl | registerNumber | erase => exact absurd held lost
  | register _ free =>
    rw [Function.update_of_ne (other free)] at lost
    exact absurd held lost
  | registerBoth _ _ _ freeFirst freeSecond =>
    rw [Function.update_of_ne (other freeSecond), Function.update_of_ne (other freeFirst)] at lost
    exact absurd held lost
  | @withdraw u j heldU _ =>
    rw [Function.update_apply] at lost
    split at lost
    · next same =>
      subst same
      cases held.symm.trans heldU
      rw [get?_erase, if_pos rfl]
    · exact absurd held lost
  | @withdrawBoth u w i j ne heldFirst heldSecond _ =>
    rw [Function.update_apply, Function.update_apply] at lost
    split at lost
    · next same =>
      subst same
      cases held.symm.trans heldSecond
      rw [get?_erase, if_pos rfl]
    · split at lost
      · next same =>
        subst same
        cases held.symm.trans heldFirst
        rw [get?_erase, get?_erase, if_pos rfl, ite_self]
      · exact absurd held lost

/-- The token of a call names it until its completion fires or the token is released. -/
theorem keeps_completion (h : TokenChange act r token r' token') (hr : r.Records token) {c : Nat}
    {k : Handle} (named : r.get? k = some (.completion c)) (kept : act ≠ .releaseToken k)
    (waits : ∀ error, act ≠ .receive (.completion k error)) :
    r'.get? k = some (.completion c) := by
  have fresh : ∀ n, r.next ≤ n → k ≠ ⟨n⟩ := fun n hn e => by
    rw [e] at named
    exact Nat.not_le_of_lt (hr.bounded _ _ named) hn
  have held : token (.completion c) = some k := hr.named k _ named rfl
  have other : ∀ v j, token v = some j → v ≠ .completion c → k ≠ j := fun v j hv ne e =>
    ne (hr.distinct v _ k (e ▸ hv) held)
  cases h with
  | refl => exact named
  | register | registerNumber => rw [get?_register, if_neg (fresh _ (Nat.le_refl _)), named]
  | registerBoth =>
    rw [get?_register, next_register, if_neg (fresh _ (Nat.le_succ _)), get?_register,
      if_neg (fresh _ (Nat.le_refl _)), named]
  | @withdraw v j heldV cause =>
    rw [get?_erase, if_neg (other v j heldV ?_), named]
    rintro rfl
    obtain rfl : j = k := Option.some.inj (heldV.symm.trans held)
    obtain ⟨error, fires⟩ | released := cause c rfl
    · exact waits error fires
    · exact kept released
  | withdrawBoth _ heldFirst heldSecond persistent =>
    rw [get?_erase, if_neg (other _ _ heldSecond (persistent.2 c)), get?_erase,
      if_neg (other _ _ heldFirst (persistent.1 c)), named]
  | @erase j cause =>
    rw [get?_erase, if_neg, named]
    rintro rfl
    exact kept cause

end TokenChange

end MachineBridge
