import MachineBridge.Text.Blank

/-!
# MachineBridge.Logging.Pattern.Atom

The atoms of a pattern: a character as it stands, or what a backslash begins.  A
verbose pattern may hold white space and comments, which mean nothing, in front of
its atoms and between the digits of a code point.

Every reader answers what it read and the text behind it.  No reader makes a text
longer, so a reader of many parts comes to an end.
-/

namespace MachineBridge.LogFilter.Pattern

/-! ## blanks -/

/-- A text without the white space and the comments in front; `comment` says that
it begins in a comment, which goes on to the end of its line. -/
def dropBlanks (comment : Bool) : List Char → List Char
  | [] => []
  | c :: rest =>
    if comment then dropBlanks (c ≠ '\n') rest
    else if Text.isWhiteSpace c then dropBlanks false rest
    else if c = '#' then dropBlanks true rest
    else c :: rest

/-- Skip what means nothing in front of a text: the blanks, if it is verbose. -/
def skipBlanks (verbose : Bool) (cs : List Char) : List Char :=
  if verbose then dropBlanks false cs else cs

/-- Dropping blanks makes no text longer. -/
theorem length_dropBlanks_le (comment : Bool) (cs : List Char) :
    (dropBlanks comment cs).length ≤ cs.length := by
  induction cs generalizing comment with
  | nil => simp [dropBlanks]
  | cons c rest ih =>
    rw [dropBlanks]
    have := ih (decide (c ≠ '\n')); have := ih false; have := ih true
    split
    · simp only [List.length_cons]; omega
    · split
      · simp only [List.length_cons]; omega
      · split <;> simp only [List.length_cons] <;> omega

/-- Skipping blanks makes no text longer. -/
theorem length_skipBlanks_le (verbose : Bool) (cs : List Char) :
    (skipBlanks verbose cs).length ≤ cs.length := by
  rw [skipBlanks]
  split
  · exact length_dropBlanks_le _ _
  · exact Nat.le_refl _

/-! ## atoms -/

/-- What a character stands for, or what a backslash begins. -/
inductive Atom where
  /-- A character by its code; `byte` says that it is written as a byte is, with
  two digits. -/
  | literal (code : Nat) (byte : Bool)
  /-- A class such as the digits, or everything else. -/
  | named (negated : Bool)
  /-- The beginning or the end of the text. -/
  | anchor
  /-- A place where a word begins or ends, or where none does. -/
  | boundary
deriving DecidableEq, Repr

/-- A character that stands for itself. -/
def Atom.ofChar (c : Char) : Atom := .literal c.toNat false

/-- What a sign behind a backslash stands for, code points apart. Most punctuation
marks stand for themselves. -/
def escaped? : Char → Option Atom
  | 'a' => some (.literal 0x07 false)
  | 'f' => some (.literal 0x0C false)
  | 'n' => some (.literal 0x0A false)
  | 'r' => some (.literal 0x0D false)
  | 't' => some (.literal 0x09 false)
  | 'v' => some (.literal 0x0B false)
  | 'd' => some (.named false)
  | 's' => some (.named false)
  | 'w' => some (.named false)
  | 'D' => some (.named true)
  | 'S' => some (.named true)
  | 'W' => some (.named true)
  | 'A' => some .anchor
  | 'z' => some .anchor
  | 'b' => some .boundary
  | 'B' => some .boundary
  | '<' => some .boundary
  | '>' => some .boundary
  | c => if c.toNat < 0x80 && !c.isAlphanum then some (.ofChar c) else none

/-- How many digits a code point has behind a letter. -/
def digitCount? : Char → Option Nat
  | 'x' => some 2
  | 'u' => some 4
  | 'U' => some 8
  | _ => none

/-- The value of a hexadecimal digit, in either case. -/
def hexDigit? (c : Char) : Option Nat :=
  if c.isDigit then some (c.toNat - '0'.toNat)
  else if 'a' ≤ c.toLower ∧ c.toLower ≤ 'f' then some (c.toLower.toNat - 'a'.toNat + 10)
  else none

/-- Read some hexadecimal digits behind a value. -/
def readDigits? (verbose : Bool) : Nat → Nat → List Char → Option (Nat × List Char)
  | 0, value, cs => some (value, cs)
  | count + 1, value, cs =>
    match skipBlanks verbose cs with
    | [] => none
    | c :: rest =>
      match hexDigit? c with
      | some digit => readDigits? verbose count (16 * value + digit) rest
      | none => none

/-- Read the digits of a code point. -/
def readCode? (verbose : Bool) (count : Nat) (cs : List Char) : Option (Atom × List Char) :=
  match readDigits? verbose count 0 cs with
  | some (code, rest) => if code.isValidChar then some (.literal code (count = 2), rest) else none
  | none => none

/-- Read what stands behind a backslash. -/
def readEscape? (verbose : Bool) : List Char → Option (Atom × List Char)
  | [] => none
  | c :: rest =>
    match digitCount? c with
    | some count => readCode? verbose count rest
    | none => (escaped? c).map (·, rest)

/-- Read the atom that begins with a character; `rest` is the text behind it. -/
def readAtom? (verbose : Bool) (c : Char) (rest : List Char) : Option (Atom × List Char) :=
  if c = '\\' then readEscape? verbose rest else some (.ofChar c, rest)

/-! ## lengths -/

/-- Reading digits makes no text longer. -/
theorem length_le_of_readDigits? {verbose : Bool} {count value code : Nat}
    {cs rest : List Char} (h : readDigits? verbose count value cs = some (code, rest)) :
    rest.length ≤ cs.length := by
  induction count generalizing value cs with
  | zero =>
    rw [readDigits?] at h
    cases h
    exact Nat.le_refl _
  | succ count ih =>
    have hs := length_skipBlanks_le verbose cs
    rw [readDigits?] at h
    split at h
    · cases h
    · rename_i he
      rw [he, List.length_cons] at hs
      split at h
      · have := ih h; omega
      · cases h

/-- Reading behind a backslash makes no text longer. -/
theorem length_le_of_readEscape? {verbose : Bool} {cs rest : List Char} {a : Atom}
    (h : readEscape? verbose cs = some (a, rest)) : rest.length ≤ cs.length := by
  cases cs with
  | nil => cases h
  | cons c cs =>
    rw [readEscape?] at h
    split at h
    · rw [readCode?] at h
      split at h
      · rename_i hd
        have := length_le_of_readDigits? hd
        split at h
        · cases h; simp only [List.length_cons]; omega
        · cases h
      · cases h
    · rw [Option.map_eq_some_iff] at h
      obtain ⟨_, _, he⟩ := h
      cases he
      simp

/-- Reading an atom makes the text behind its first character no longer. -/
theorem length_le_of_readAtom? {verbose : Bool} {c : Char} {cs rest : List Char}
    {a : Atom} (h : readAtom? verbose c cs = some (a, rest)) : rest.length ≤ cs.length := by
  rw [readAtom?] at h
  split at h
  · exact length_le_of_readEscape? h
  · cases h
    exact Nat.le_refl _

end MachineBridge.LogFilter.Pattern
