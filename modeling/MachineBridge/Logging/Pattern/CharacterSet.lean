import MachineBridge.Logging.Pattern.Flags

/-!
# MachineBridge.Logging.Pattern.CharacterSet

Sets of characters in brackets.  A set holds members: characters and ranges of
them, named classes, and sets again.  Two sets in one bracket stand around an
operator, which is two of the same sign; operators are taken from the left.

Of what was read only the depth of its nesting is kept, because the members are
judged one by one.
-/

namespace MachineBridge.LogFilter.Pattern

/-! ## depths -/

/-- The depth of parts in a row: more than one are nested in the row. -/
def rowDepth : List Nat → Nat
  | [] => 0
  | [depth] => depth
  | depths => 1 + depths.foldl max 0

/-! ## open sets -/

/-- How far the opening of a set was read. -/
inductive Opening where
  /-- Right behind the bracket, where a caret negates the set. -/
  | bracket
  /-- Behind the caret, or behind hyphens, which are members here. -/
  | hyphens
  | done
deriving DecidableEq, Repr

/-- A set under way: the depths of the members behind its last operator, last
first, and of what stands in front of the operator. -/
structure OpenSet where
  opening : Opening := .bracket
  members : List Nat := []
  left : Option Nat := none
deriving DecidableEq, Repr

namespace OpenSet

/-- The depth of what a set holds. -/
def bodyDepth (s : OpenSet) : Nat :=
  match s.left with
  | none => rowDepth s.members
  | some left => 1 + max left (rowDepth s.members)

def depth (s : OpenSet) : Nat := 1 + s.bodyDepth

def add (s : OpenSet) (depth : Nat) : OpenSet :=
  { s with opening := .done, members := depth :: s.members }

/-- Go on behind an operator. -/
def operate (s : OpenSet) : OpenSet := { opening := .done, left := some s.bodyDepth }

/-- Whether a character belongs to the opening of a set: a caret, hyphens, and one
closing bracket in front of everything else. -/
def isOpening (s : OpenSet) (c : Char) : Bool :=
  match s.opening with
  | .bracket => c == '^' || c == '-' || c == ']'
  | .hyphens => c == '-' || (c == ']' && s.members == [])
  | .done => false

/-- Read a character of the opening. -/
def openingStep? (f : Flags) (s : OpenSet) (c : Char) : Option OpenSet :=
  if c = '^' then
    if f.admitsNegation then some { s with opening := .hyphens } else none
  else if f.admitsMember (.ofChar c) then
    some { s.add 0 with opening := if c = '-' then .hyphens else .done }
  else none

end OpenSet

/-! ## members -/

/-- Whether a character is the first sign of an operator. -/
def isSetOperator (c : Char) (rest : List Char) : Bool :=
  (c == '&' || c == '-' || c == '~') && rest.head? == some c

/-- The names of the classes of ASCII. -/
def asciiClasses : List String :=
  ["alnum", "alpha", "ascii", "blank", "cntrl", "digit", "graph", "lower", "print", "punct",
   "space", "upper", "word", "xdigit"]

/-- Read the name of a class of ASCII and the end of the class. -/
def readAsciiName? (cs : List Char) : Option (List Char) :=
  match cs.dropWhile (· ≠ ':') with
  | ':' :: ']' :: rest =>
    if asciiClasses.contains (String.ofList (cs.takeWhile (· ≠ ':'))) then some rest else none
  | _ => none

/-- Read a class of ASCII behind its bracket, and whether it is negated. -/
def readAsciiClass? : List Char → Option (Bool × List Char)
  | ':' :: '^' :: cs => (readAsciiName? cs).map (true, ·)
  | ':' :: cs => (readAsciiName? cs).map (false, ·)
  | _ => none

/-- The character in front of which a hyphen stands. The look ahead goes past the
sign of a comment, but not past the comment. -/
def behindHyphen? (verbose : Bool) (cs : List Char) : Option Char :=
  if verbose then
    let ahead := cs.dropWhile Text.isWhiteSpace
    let ahead := if ahead.head? = some '#' then ahead.tail.dropWhile Text.isWhiteSpace else ahead
    ahead.head? <|> cs.head?
  else cs.head?

/-- Read a hyphen that stands for all characters between two. In front of a
closing bracket or of another hyphen it does not. -/
def readHyphen? (verbose : Bool) : List Char → Option (List Char)
  | '-' :: rest =>
    match behindHyphen? verbose rest with
    | some ']' => none
    | some '-' => none
    | _ => some (skipBlanks verbose rest)
  | _ => none

/-- Read the character or the range that begins with a character. -/
def readMember? (f : Flags) (c : Char) (rest : List Char) : Option (List Char) :=
  match readAtom? f.verbose c rest with
  | none => none
  | some (first, rest) =>
    match readHyphen? f.verbose (skipBlanks f.verbose rest) with
    | none => if f.admitsMember first then some rest else none
    | some [] => none
    | some (c :: rest) =>
      match readAtom? f.verbose c rest with
      | some (last, rest) => if f.admitsRange first last then some rest else none
      | none => none

/-- Close a set: it becomes a member of the set around it, if there is one. -/
def closeSet (s : OpenSet) : List OpenSet → List OpenSet
  | [] => []
  | around :: outer => around.add s.depth :: outer

/-- Read what begins with a character in an open set; `outer` are the sets around
it, the innermost first. Answers the sets that are open then, which are none when
this closes the outermost. -/
def setStep? (f : Flags) (s : OpenSet) (outer : List OpenSet) (c : Char) (rest : List Char) :
    Option (List OpenSet × List Char) :=
  if s.isOpening c then (s.openingStep? f c).map fun s => (s :: outer, rest)
  else if c = ']' then some (closeSet s outer, rest)
  else if c = '[' then
    match readAsciiClass? rest with
    | some (negated, rest) =>
      if f.admitsAscii negated then some (s.add 0 :: outer, rest) else none
    | none => some ({} :: s :: outer, rest)
  else if isSetOperator c rest then some (s.operate :: outer, rest.tail)
  else (readMember? f c rest).map fun rest => (s.add 0 :: outer, rest)

/-! ## lengths -/

/-- Reading the name of a class makes no text longer. -/
theorem length_le_of_readAsciiName? {cs rest : List Char} (h : readAsciiName? cs = some rest) :
    rest.length ≤ cs.length := by
  rw [readAsciiName?] at h
  split at h
  · rename_i hd
    have hw := (List.dropWhile_suffix (· ≠ ':') (l := cs)).length_le
    rw [hd, List.length_cons, List.length_cons] at hw
    split at h
    · cases h; omega
    · cases h
  · cases h

/-- Reading a class of ASCII makes no text longer. -/
theorem length_le_of_readAsciiClass? {cs rest : List Char} {negated : Bool}
    (h : readAsciiClass? cs = some (negated, rest)) : rest.length ≤ cs.length := by
  rw [readAsciiClass?.eq_def] at h
  split at h
  · obtain ⟨_, hn, he⟩ := Option.map_eq_some_iff.1 h
    cases he
    have := length_le_of_readAsciiName? hn
    simp only [List.length_cons]; omega
  · obtain ⟨_, hn, he⟩ := Option.map_eq_some_iff.1 h
    cases he
    have := length_le_of_readAsciiName? hn
    simp only [List.length_cons]; omega
  · cases h

/-- Reading a hyphen makes no text longer. -/
theorem length_le_of_readHyphen? {verbose : Bool} {cs rest : List Char}
    (h : readHyphen? verbose cs = some rest) : rest.length ≤ cs.length := by
  rw [readHyphen?.eq_def] at h
  split at h
  · rename_i behind
    have := length_skipBlanks_le verbose behind
    split at h <;> cases h
    simp only [List.length_cons]
    omega
  · cases h

/-- Reading a member makes the text behind its first character no longer. -/
theorem length_le_of_readMember? {f : Flags} {c : Char} {cs rest : List Char}
    (h : readMember? f c cs = some rest) : rest.length ≤ cs.length := by
  rw [readMember?] at h
  split at h
  · cases h
  · rename_i first behind ha
    have ha := length_le_of_readAtom? ha
    have hb := length_skipBlanks_le f.verbose behind
    split at h
    · split at h
      · cases h; exact ha
      · cases h
    · cases h
    · rename_i hh
      have hh := length_le_of_readHyphen? hh
      split at h
      · rename_i hl
        have hl := length_le_of_readAtom? hl
        rw [List.length_cons] at hh
        split at h
        · cases h; omega
        · cases h
      · cases h

/-- A step in a set makes the text behind its first character no longer. -/
theorem length_le_of_setStep? {f : Flags} {s : OpenSet} {outer sets : List OpenSet} {c : Char}
    {cs rest : List Char} (h : setStep? f s outer c cs = some (sets, rest)) :
    rest.length ≤ cs.length := by
  rw [setStep?] at h
  split at h
  · obtain ⟨_, _, he⟩ := Option.map_eq_some_iff.1 h
    cases he
    exact Nat.le_refl _
  · split at h
    · cases h
      exact Nat.le_refl _
    · split at h
      · split at h
        · rename_i ha
          have := length_le_of_readAsciiClass? ha
          split at h <;> cases h
          assumption
        · cases h
          exact Nat.le_refl _
      · split at h
        · cases h
          simp
        · obtain ⟨_, hm, he⟩ := Option.map_eq_some_iff.1 h
          cases he
          exact length_le_of_readMember? hm

end MachineBridge.LogFilter.Pattern
