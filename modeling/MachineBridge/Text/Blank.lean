import MachineBridge.Text.Ranges

/-!
# MachineBridge.Text.Blank

The Unicode property `White_Space`.  A name made only of such characters is
blank, and so is the empty name.
-/

namespace MachineBridge.Text

/-- The closed code point ranges of the property `White_Space`, in order. -/
def whiteSpaceRanges : List (Nat × Nat) :=
  [(0x09, 0x0D), (0x20, 0x20), (0x85, 0x85), (0xA0, 0xA0), (0x1680, 0x1680),
   (0x2000, 0x200A), (0x2028, 0x2029), (0x202F, 0x202F), (0x205F, 0x205F),
   (0x3000, 0x3000)]

def isWhiteSpace (c : Char) : Bool := isInRanges whiteSpaceRanges c.toNat

/-- A text without the white space at its ends. -/
def trim (cs : List Char) : List Char :=
  ((cs.dropWhile isWhiteSpace).reverse.dropWhile isWhiteSpace).reverse

/-- A text is blank when nothing is left of it once white space is trimmed off
both ends, that is, when it holds white space only. -/
def isBlank (s : String) : Bool := s.toList.all isWhiteSpace

/-- A text is not blank exactly when some character of it is no white space. -/
theorem isBlank_eq_false_iff {s : String} :
    isBlank s = false ↔ ∃ c ∈ s.toList, isWhiteSpace c = false := by
  simp [isBlank]

end MachineBridge.Text
