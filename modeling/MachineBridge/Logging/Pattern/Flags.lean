import MachineBridge.Logging.Pattern.Atom

/-!
# MachineBridge.Logging.Pattern.Flags

The flags of a pattern, and what the matcher can be built for under them.  A
pattern is about the characters of every script at first, but the matcher knows
the letters of English only.  So it has no named classes and cannot ignore case
for every script; and without every script it works on bytes, where it must not
match a part of a character.
-/

namespace MachineBridge.LogFilter.Pattern

/-- The flags that decide how a pattern is read and what its classes mean. -/
structure Flags where
  /-- Blanks between the atoms mean nothing. -/
  verbose : Bool := false
  /-- Characters and classes are those of every script. -/
  everyScript : Bool := true
  ignoreCase : Bool := false
deriving DecidableEq, Repr

namespace Flags

/-! ## setting -/

/-- The letters of all flags. Those that are not in `Flags` decide only what a
pattern matches. -/
def letters : List Char := ['i', 'm', 's', 'U', 'u', 'x', 'R']

/-- Whether a text sets flags: each at most once, and a hyphen in front of those
that it takes away. -/
def areSettings (cs : List Char) : Bool :=
  cs.all ('-' :: letters).contains && decide cs.Nodup && cs.getLast? != some '-'

/-- What a text makes of the flag of a letter. -/
def setting (cs : List Char) (letter : Char) (before : Bool) : Bool :=
  (cs.takeWhile (· ≠ '-')).contains letter || (before && !cs.contains letter)

def set (f : Flags) (cs : List Char) : Flags where
  verbose := setting cs 'x' f.verbose
  everyScript := setting cs 'u' f.everyScript
  ignoreCase := setting cs 'i' f.ignoreCase

/-! ## admitting -/

/-- Whether the matcher can be built for an atom by itself. -/
def admits (f : Flags) : Atom → Bool
  | .literal code byte => if f.everyScript then !f.ignoreCase else !byte || code < 0x80
  | .named negated => !f.everyScript && !negated
  | .anchor => true
  | .boundary => true

/-- Whether the matcher can be built for a set with an atom in it. -/
def admitsMember (f : Flags) : Atom → Bool
  | .literal code _ => if f.everyScript then !f.ignoreCase else code < 0x80
  | .named negated => !f.everyScript && !negated
  | .anchor => false
  | .boundary => false

/-- Whether the matcher can be built for a set with all characters between two
atoms in it. -/
def admitsRange (f : Flags) : Atom → Atom → Bool
  | .literal first _, .literal last byte => first ≤ last && f.admitsMember (.literal last byte)
  | _, _ => false

/-- Whether the matcher can be built for a set with a class of ASCII in it, or with
everything else. -/
def admitsAscii (f : Flags) (negated : Bool) : Bool :=
  if f.everyScript then !f.ignoreCase else !negated

/-- Whether the matcher can be built for what is not in a set. -/
def admitsNegation (f : Flags) : Bool := f.everyScript

/-- Whether the matcher can be built for any character. -/
def admitsAny (f : Flags) : Bool := f.everyScript

end Flags

end MachineBridge.LogFilter.Pattern
