/-!
# MachineBridge.Text.Ranges

Sets of characters given by the ranges of their code points.
-/

namespace MachineBridge.Text

/-- Whether a code point lies in one of some closed ranges. -/
def isInRanges (ranges : List (Nat × Nat)) (n : Nat) : Bool :=
  ranges.any fun (first, last) => first ≤ n && n ≤ last

end MachineBridge.Text
