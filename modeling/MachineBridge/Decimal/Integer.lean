/-!
# MachineBridge.Decimal.Integer

Decimal text of whole numbers: the digits without leading zeros, behind a minus
sign for a negative number.  Every message and every serialized number of the
library is written through `natText` and `intText`.
-/

namespace MachineBridge.Decimal

/-- The decimal digits of a natural number, most significant first. -/
def natChars (n : Nat) : List Char := Nat.toDigits 10 n

def intChars (i : Int) : List Char :=
  if i < 0 then '-' :: natChars i.natAbs else natChars i.natAbs

def natText (n : Nat) : String := String.ofList (natChars n)

def intText (i : Int) : String := String.ofList (intChars i)

/-! ## powers -/

def pow2 (k : Nat) : Nat := Nat.pow 2 k

def pow10 (k : Nat) : Nat := Nat.pow 10 k

end MachineBridge.Decimal
