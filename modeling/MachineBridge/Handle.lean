import MachineBridge.Decimal.Integer

/-!
# MachineBridge.Handle

Opaque tokens.  A callback-driven runtime addresses a value on this side of the
boundary by a number, never by a reference; the number zero is reserved and
names nothing.  The runtime has machine words for tokens; the numbers here do not
wrap, so both agree as long as fewer tokens were issued than there are words.
-/

namespace MachineBridge

/-- A token that may name one registered value. -/
structure Handle where
  raw : Nat
deriving DecidableEq, Repr

namespace Handle

/-- The reserved token that never names a value. -/
def invalid : Handle := ⟨0⟩

instance : Inhabited Handle := ⟨invalid⟩

def isValid (h : Handle) : Bool := h.raw != 0

/-- A token is shown as its number behind a hash sign. -/
def text (h : Handle) : String := "#" ++ Decimal.natText h.raw

def order (a b : Handle) : Ordering := compare a.raw b.raw

end Handle

end MachineBridge
