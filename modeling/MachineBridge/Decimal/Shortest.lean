import MachineBridge.Decimal.Integer

/-!
# MachineBridge.Decimal.Shortest

The shortest decimal that reads back as a given binary floating point number.

A finite number is `significand · 2 ^ exponent`.  The reals that round to it
form an interval around it, its ends included when the significand is even.
The shortest decimal is a multiple of the largest power of ten that has a
multiple inside the interval, and of those multiples the one nearest to the
number; a number half way between two of them takes the upper one.  Everything
is decided in exact integer arithmetic.
-/

namespace MachineBridge.Decimal

/-- A positive binary number `significand · 2 ^ exponent`.  `closeBelow` says
that the next smaller number of the format is only half as far away as the next
larger one. -/
structure Binary where
  significand : Nat
  exponent : Int
  closeBelow : Bool
deriving DecidableEq, Repr

/-- A decimal numeral `digits · 10 ^ exponent`. -/
structure Numeral where
  digits : Nat
  exponent : Int
deriving DecidableEq, Repr

namespace Binary

/-- The interval of the reals that round to a number, as integers over the
common denominator `scale`. -/
structure Rounding where
  low : Nat
  value : Nat
  high : Nat
  scale : Nat
  closed : Bool
deriving DecidableEq, Repr

/-- The rounding interval: half a step up, and half a step or a quarter down. -/
def rounding (b : Binary) : Rounding :=
  let up := pow2 (b.exponent - 2).toNat
  let below := if b.closeBelow then 1 else 2
  { low := (4 * b.significand - below) * up
    value := 4 * b.significand * up
    high := (4 * b.significand + 2) * up
    scale := pow2 (2 - b.exponent).toNat
    closed := b.significand % 2 == 0 }

/-- The same interval for the number multiplied by a positive factor. -/
def Rounding.scaled (r : Rounding) (factor : Nat) : Rounding :=
  { r with low := r.low * factor, value := r.value * factor, high := r.high * factor }

/-- Whether the integer `point`, over the common denominator, lies inside. -/
def Rounding.contains (r : Rounding) (point : Nat) : Bool :=
  if r.closed then r.low ≤ point && point ≤ r.high else r.low < point && point < r.high

/-- The multiple of `10 ^ k` inside the interval that is nearest to the number,
as its factor, if there is one.  Only the two neighbours of the number can be. -/
def Rounding.nearest? (r : Rounding) (k : Int) : Option Nat :=
  let s := r.scaled (pow10 (-k).toNat)
  let unit := s.scale * pow10 k.toNat
  let lower := s.value / unit
  match s.contains (lower * unit), s.contains ((lower + 1) * unit) with
  | true, true => some (if 2 * (s.value % unit) < unit then lower else lower + 1)
  | true, false => some lower
  | false, true => some (lower + 1)
  | false, false => none

/-- Try the powers of ten from `10 ^ k` downwards, at most `fuel` of them. -/
def Rounding.search (r : Rounding) : Nat → Int → Option Numeral
  | 0, _ => none
  | fuel + 1, k =>
    match r.nearest? k with
    | some digits => some ⟨digits, k⟩
    | none => r.search fuel (k - 1)

/-- The shortest decimal that rounds to the number.  The search starts at the
power of ten just above it and needs no more places than the number has bits
behind the point. -/
def shortest (b : Binary) : Numeral :=
  let r := b.rounding
  let top := if r.value < r.scale then 0 else (natChars (r.value / r.scale)).length
  (r.search (top + (2 - b.exponent).toNat + 1) top).getD ⟨0, 0⟩

end Binary

/-! ## the double format -/

/-- What the bits of a double stand for. -/
inductive Double where
  | notANumber
  | infinite (negative : Bool)
  | zero (negative : Bool)
  | finite (negative : Bool) (magnitude : Binary)
deriving DecidableEq, Repr

/-- Read the sign, the exponent and the fraction off the bits. -/
def Double.ofBits (bits : UInt64) : Double :=
  let n := bits.toNat
  let negative := n / pow2 63 == 1
  let exponent : Nat := n / pow2 52 % pow2 11
  let fraction : Nat := n % pow2 52
  if exponent = pow2 11 - 1 then
    if fraction = 0 then .infinite negative else .notANumber
  else if exponent = 0 then
    if fraction = 0 then .zero negative
    else .finite negative ⟨fraction, -1074, false⟩
  else .finite negative ⟨fraction + pow2 52, (exponent : Int) - 1075, fraction == 0 && exponent != 1⟩

end MachineBridge.Decimal
