import MachineBridge.Error
import MachineBridge.Logging.Pattern.CharacterSet
import MachineBridge.Text.Alphanumeric

/-!
# MachineBridge.Logging.Pattern

Whether a text is a regular expression that the matcher of the log filter can be
built for.  It stands inside of braces and between commas and equals signs, so it
holds none of those itself: a counted repetition or a name in braces is never
closed.

A pattern is read once from left to right, and each of its parts is judged under
the flags in force where it stands.  Of the parts only the depths of their nesting
are kept, because a pattern may not be nested too deeply.  A place between words is
refused in every script as well, but only in a pattern without another fault.
-/

namespace MachineBridge.LogFilter.Pattern

/-! ## groups -/

/-- A finished part of a pattern. -/
inductive Piece where
  /-- Flags for what follows, which cannot be repeated. -/
  | flags
  /-- An expression, which can be repeated, by the depth of its nesting. -/
  | expression (depth : Nat)
deriving DecidableEq, Repr

/-- How deeply a piece is nested. -/
def Piece.depth : Piece → Nat
  | .flags => 0
  | .expression depth => depth

/-- A group under way, or the whole pattern: the flags in force in it, the depths of
the alternatives in front, and the pieces of the last alternative, last first. -/
structure Group where
  flags : Flags := {}
  alternatives : List Nat := []
  pieces : List Piece := []
deriving DecidableEq, Repr

namespace Group

/-- The depth of the last alternative. -/
def alternativeDepth (g : Group) : Nat := rowDepth (g.pieces.map Piece.depth)

/-- The depth of what a group holds. -/
def bodyDepth (g : Group) : Nat := rowDepth (g.alternativeDepth :: g.alternatives)

def add (g : Group) (p : Piece) : Group := { g with pieces := p :: g.pieces }

def alternate (g : Group) : Group :=
  { g with alternatives := g.alternativeDepth :: g.alternatives, pieces := [] }

/-- Repeat the last piece, which has to be an expression. -/
def repeat? (g : Group) : Option Group :=
  match g.pieces with
  | .expression depth :: pieces => some { g with pieces := .expression (depth + 1) :: pieces }
  | _ => none

end Group

/-! ## reading -/

/-- A pattern under way. -/
structure Reading where
  /-- The innermost open group. -/
  group : Group := {}
  /-- The open groups around it, the innermost first. -/
  outer : List Group := []
  /-- The open sets, the innermost first. -/
  sets : List OpenSet := []
  /-- The names of groups. -/
  names : List (List Char) := []
  /-- Whether a place between words was asked for in every script. -/
  boundary : Bool := false
deriving DecidableEq, Repr

/-- The characters the name of a group may begin with. -/
def canBeginName (c : Char) : Bool := c == '_' || Text.isAlphabetic c

/-- The characters the name of a group may go on with. -/
def canBeInName (c : Char) : Bool :=
  c == '_' || c == '.' || c == '[' || c == ']' || Text.isAlphanumeric c

/-- Whether a text can be the name of a group. -/
def isGroupName : List Char → Bool
  | [] => false
  | c :: rest => canBeginName c && rest.all canBeInName

namespace Reading

def flags (r : Reading) : Flags := r.group.flags

def add (r : Reading) (p : Piece) : Reading := { r with group := r.group.add p }

/-- Open a group with some flags. -/
def enter (r : Reading) (flags : Flags) : Reading :=
  { r with group := { flags }, outer := r.group :: r.outer }

/-- Close the innermost group; around it the flags are what they were. -/
def leave? (r : Reading) : Option Reading :=
  match r.outer with
  | [] => none
  | around :: outer =>
    some { r with group := around.add (.expression (1 + r.group.bodyDepth)), outer }

/-- Open a group with a name: the name goes up to an angle bracket, and no other
group has it. -/
def enterNamed? (r : Reading) (cs : List Char) : Option (Reading × List Char) :=
  let name := cs.takeWhile (· ≠ '>')
  match cs.dropWhile (· ≠ '>') with
  | _ :: rest =>
    if isGroupName name && !r.names.contains name then
      some ({ r.enter r.flags with names := name :: r.names }, rest)
    else none
  | [] => none

/-- Set flags: behind a colon for a group that is opened, else for what is left of
the group around. -/
def setFlags? (r : Reading) (cs : List Char) : Option (Reading × List Char) :=
  let settings := cs.takeWhile fun c => c ≠ ':' && c ≠ ')'
  if Flags.areSettings settings then
    match cs.dropWhile fun c => c ≠ ':' && c ≠ ')' with
    | ':' :: rest => some (r.enter (r.flags.set settings), rest)
    | ')' :: rest =>
      if settings = [] then none
      else
        let group := { r.group with flags := r.flags.set settings }
        some ({ r with group := group.add .flags }, rest)
    | _ => none
  else none

/-- Read what stands behind an opening parenthesis. Looking ahead or behind is not
among it. -/
def open? (r : Reading) : List Char → Option (Reading × List Char)
  | '?' :: 'P' :: '<' :: rest => r.enterNamed? rest
  | '?' :: '<' :: rest => r.enterNamed? rest
  | '?' :: rest => r.setFlags? rest
  | rest => some (r.enter r.flags, rest)

/-- Repeat the last piece; a question mark behind it changes only which match is
found. -/
def repeat? (r : Reading) (rest : List Char) : Option (Reading × List Char) :=
  r.group.repeat?.map fun group =>
    ({ r with group }, if rest.head? = some '?' then rest.tail else rest)

/-- Put an atom into the innermost group. -/
def addAtom? (r : Reading) (a : Atom) : Option Reading :=
  if r.flags.admits a then
    some { r.add (.expression 0) with
      boundary := r.boundary || (a == .boundary && r.flags.everyScript) }
  else none

/-- Read what begins with a character outside of all sets. -/
def groupStep? (r : Reading) (c : Char) (rest : List Char) : Option (Reading × List Char) :=
  match c with
  | '(' => r.open? (skipBlanks r.flags.verbose rest)
  | ')' => r.leave?.map (·, rest)
  | '|' => some ({ r with group := r.group.alternate }, rest)
  | '[' => some ({ r with sets := [{}] }, rest)
  | '?' => r.repeat? rest
  | '*' => r.repeat? rest
  | '+' => r.repeat? rest
  | '\x7b' => none
  | '.' => if r.flags.admitsAny then some (r.add (.expression 0), rest) else none
  | '^' => (r.addAtom? .anchor).map (·, rest)
  | '$' => (r.addAtom? .anchor).map (·, rest)
  | c =>
    match readAtom? r.flags.verbose c rest with
    | some (a, rest) => (r.addAtom? a).map (·, rest)
    | none => none

def step? (r : Reading) (c : Char) (rest : List Char) : Option (Reading × List Char) :=
  match r.sets with
  | [] => r.groupStep? c rest
  | s :: outer =>
    match setStep? r.flags s outer c rest with
    | some ([], rest) => some ({ r.add (.expression s.depth) with sets := [] }, rest)
    | some (sets, rest) => some ({ r with sets }, rest)
    | none => none

/-! ## lengths -/

/-- Reading behind an opening parenthesis makes no text longer. -/
theorem length_le_of_open? {r r' : Reading} {cs rest : List Char}
    (h : r.open? cs = some (r', rest)) : rest.length ≤ cs.length := by
  have named {cs : List Char} (h : r.enterNamed? cs = some (r', rest)) :
      rest.length ≤ cs.length := by
    rw [enterNamed?] at h
    dsimp only at h
    split at h
    · rename_i hd
      have hw := (List.dropWhile_suffix (· ≠ '>') (l := cs)).length_le
      rw [hd, List.length_cons] at hw
      split at h <;> cases h
      omega
    · cases h
  have flagged {cs : List Char} (h : r.setFlags? cs = some (r', rest)) :
      rest.length ≤ cs.length := by
    rw [setFlags?] at h
    dsimp only at h
    have hw := (List.dropWhile_suffix (fun c => decide (c ≠ ':') && decide (c ≠ ')'))
      (l := cs)).length_le
    split at h
    · split at h
      · rename_i hd
        rw [hd, List.length_cons] at hw
        cases h
        omega
      · rename_i hd
        rw [hd, List.length_cons] at hw
        split at h <;> cases h
        omega
      · cases h
    · cases h
  rw [open?.eq_def] at h
  split at h
  · have := named h; simp only [List.length_cons]; omega
  · have := named h; simp only [List.length_cons]; omega
  · have := flagged h; simp only [List.length_cons]; omega
  · cases h; exact Nat.le_refl _

/-- A step outside of sets makes the text behind its first character no longer. -/
theorem length_le_of_groupStep? {r r' : Reading} {c : Char} {cs rest : List Char}
    (h : r.groupStep? c cs = some (r', rest)) : rest.length ≤ cs.length := by
  have kept {o : Option Reading} (h : o.map (·, cs) = some (r', rest)) :
      rest.length ≤ cs.length := by
    obtain ⟨_, _, he⟩ := Option.map_eq_some_iff.1 h
    cases he
    exact Nat.le_refl _
  have repeated (h : r.repeat? cs = some (r', rest)) : rest.length ≤ cs.length := by
    obtain ⟨_, _, he⟩ := Option.map_eq_some_iff.1 h
    cases he
    split <;> simp
  rw [groupStep?.eq_def] at h
  split at h
  · have := length_le_of_open? h
    have := length_skipBlanks_le r.flags.verbose cs
    omega
  · exact kept h
  · cases h; exact Nat.le_refl _
  · cases h; exact Nat.le_refl _
  · exact repeated h
  · exact repeated h
  · exact repeated h
  · cases h
  · split at h <;> cases h
    exact Nat.le_refl _
  · exact kept h
  · exact kept h
  · split at h
    · rename_i ha
      have := length_le_of_readAtom? ha
      obtain ⟨_, _, he⟩ := Option.map_eq_some_iff.1 h
      cases he
      assumption
    · cases h

/-- A step makes the text behind its first character no longer. -/
theorem length_le_of_step? {r r' : Reading} {c : Char} {cs rest : List Char}
    (h : r.step? c cs = some (r', rest)) : rest.length ≤ cs.length := by
  rw [step?.eq_def] at h
  split at h
  · exact length_le_of_groupStep? h
  · split at h
    · rename_i hs; cases h; exact length_le_of_setStep? hs
    · rename_i hs; cases h; exact length_le_of_setStep? hs
    · cases h

/-! ## a whole pattern -/

/-- Read a text to its end. -/
def read? (r : Reading) (cs : List Char) : Option Reading :=
  match _ : skipBlanks r.flags.verbose cs with
  | [] => some r
  | c :: rest =>
    match _ : r.step? c rest with
    | some (next, behind) => read? next behind
    | none => none
termination_by cs.length
decreasing_by
  rename_i hb hs
  have hl := length_skipBlanks_le r.flags.verbose cs
  have := length_le_of_step? hs
  rw [hb, List.length_cons] at hl
  omega

def depthLimit : Nat := 250

/-- Whether a pattern is complete: no set and no group is open, and it is not nested
too deeply. -/
def isComplete (r : Reading) : Bool :=
  r.sets == [] && r.outer == [] && r.group.bodyDepth ≤ depthLimit

end Reading

/-- What is wrong with a text as a pattern, if anything. -/
def fault? (cs : List Char) : Option FilterFault :=
  match Reading.read? {} cs with
  | some r =>
    if r.isComplete then if r.boundary then some .wordBoundary else none else some .pattern
  | none => some .pattern

end MachineBridge.LogFilter.Pattern
