import MachineBridge.Decimal.Integer

/-!
# MachineBridge.Json.Value

JSON values as they stand in a text: numbers keep whether they were written as
an integer, objects keep the order and the repetitions of their fields, and a
string knows whether its escapes formed a text.
-/

namespace MachineBridge

/-- A number as written: an integer literal, or a literal with a fraction or an
exponent, which stands for `mantissa · 10 ^ exponent`. -/
inductive NumberLiteral where
  | integer (negative : Bool) (magnitude : Nat)
  | real (negative : Bool) (mantissa : Nat) (exponent : Int)
deriving DecidableEq, Repr

namespace NumberLiteral

def ofInt (i : Int) : NumberLiteral := .integer (i < 0) i.natAbs

/-- The integer a literal denotes.  A literal with a fraction or an exponent
denotes none, and neither does a zero with a sign. -/
def toInt? : NumberLiteral → Option Int
  | .integer false n => some n
  | .integer true 0 => none
  | .integer true n => some (-n)
  | .real .. => none

/-- The largest power of ten that a double can hold. -/
def largestExponent : Nat := 308

/-- The least integer that is rounded to infinity in the double format. -/
def doubleLimit : Nat := Decimal.pow2 1024 - Decimal.pow2 970

/-- Whether a literal is in the range of the double format, so that it can be
kept without knowing what it is for. -/
def inDoubleRange : NumberLiteral → Bool
  | .integer _ n => n < doubleLimit
  | .real _ m e =>
    let size := (Decimal.natChars m).length + e
    m == 0 || size ≤ largestExponent ||
      (size ≤ largestExponent + 1 &&
        m * Decimal.pow10 e.toNat < doubleLimit * Decimal.pow10 (-e).toNat)

/-- The integer a literal written from an integer denotes is that integer. -/
@[simp] theorem toInt?_ofInt (i : Int) : (ofInt i).toInt? = some i := by
  rcases Int.lt_trichotomy i 0 with h | h | h
  · obtain ⟨n, hn⟩ : ∃ n : Nat, i = -(n + 1 : Nat) := ⟨(-i).toNat - 1, by omega⟩
    have hlt : ¬ 0 ≤ i := by omega
    subst hn
    simp only [ofInt, h, decide_true, Int.natAbs_neg, Int.natAbs_natCast, toInt?]
  · subst h; simp [ofInt, toInt?]
  · obtain ⟨n, hn⟩ : ∃ n : Nat, i = n := ⟨i.toNat, by omega⟩
    subst hn
    have : ¬ ((n : Int) < 0) := by omega
    simp [ofInt, toInt?, this]

end NumberLiteral

/-- A JSON value.  A string is `none` when an escape in it was half of a
surrogate pair, so that it is no text; so is the name of a field. -/
inductive Json where
  | null
  | bool (b : Bool)
  | number (n : NumberLiteral)
  | string (text : Option String)
  | array (items : List Json)
  | object (fields : List (Option String × Json))
deriving Repr, Inhabited

namespace Json

def ofString (s : String) : Json := .string (some s)

def ofInt (i : Int) : Json := .number (.ofInt i)

/-- The value of a string that may be absent. -/
def ofOption : Option String → Json
  | some s => .ofString s
  | none => .null

/-- An object with the given fields, in order. -/
def ofFields (fields : List (String × Json)) : Json :=
  .object (fields.map fun (name, value) => (some name, value))

end Json

end MachineBridge
