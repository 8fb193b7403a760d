import MachineBridge.Logging.Pattern
import MachineBridge.Text.Blank

/-!
# MachineBridge.Logging.Filter

Log filters.  A filter is a list of directives between commas.  A directive is a
level, or a target with the spans and the fields it is about in brackets, and the
level for it behind an equals sign:

```
info,vzlite::machine=debug,disk[write{size=.*}]=trace
```

A directive is read without the white space around it, but the texts of its parts
are cut out of the whole directive at the offsets that were found so.  A level
that stands in a directive with white space in front is therefore never one.
-/

namespace MachineBridge.LogFilter

/-! ## cutting texts -/

/-- What is left of a text behind its first bytes. -/
def dropBytes : Nat → List Char → List Char
  | 0, cs => cs
  | _ + 1, [] => []
  | n + 1, c :: cs => dropBytes (n + 1 - c.utf8Size) cs

/-- The first bytes of a text. -/
def takeBytes : Nat → List Char → List Char
  | 0, _ => []
  | _ + 1, [] => []
  | n + 1, c :: cs => c :: takeBytes (n + 1 - c.utf8Size) cs

/-! ## levels and fields -/

def levels : List String := ["off", "error", "warn", "info", "debug", "trace"]

def greatestLevel : Nat := 5

/-- The digits of a number that may have a plus sign in front. -/
def unsigned : List Char → List Char
  | '+' :: digits => digits
  | digits => digits

/-- Whether a text names a level, in any case of its letters, or gives its number. -/
def isLevel (text : List Char) : Bool :=
  levels.contains (String.ofList text).toLower ||
    (unsigned text ≠ [] && (unsigned text).all Char.isDigit &&
      Nat.ofDigitChars 10 (unsigned text) 0 ≤ greatestLevel)

/-- Whether a text without a sign is a decimal number, with or without a point and
an exponent. -/
def isDecimal (cs : List Char) : Bool :=
  let whole := cs.takeWhile Char.isDigit
  let behind := cs.drop whole.length
  let fraction := if behind.head? = some '.' then behind.tail.takeWhile Char.isDigit else []
  let exponent :=
    if behind.head? = some '.' then behind.tail.drop fraction.length else behind
  whole ++ fraction ≠ [] &&
    match exponent with
    | [] => true
    | e :: digits =>
      let digits := if digits.head? = some '-' then digits.tail else unsigned digits
      (e == 'e' || e == 'E') && digits ≠ [] && digits.all Char.isDigit

/-- Whether a value with a plus sign in front is a number. It would be no pattern;
every other number is one as well. -/
def isSignedNumber : List Char → Bool
  | '+' :: cs =>
    isDecimal cs || ["inf", "infinity", "nan"].contains (String.ofList cs).toLower
  | _ => false

/-- What is wrong with a field and the value it is compared with, if anything. Of
several equals signs the first two count. -/
def fieldFault? (field : List Char) : Option FilterFault :=
  if field = [] then some .form
  else match field.dropWhile (· ≠ '=') with
    | [] => none
    | _ :: rest =>
      let value := rest.takeWhile (· ≠ '=')
      if isSignedNumber value then none else Pattern.fault? value

/-! ## directives -/

/-- The part of a directive that is being read, with the offset where its text
begins. -/
inductive Part where
  | start
  /-- A level by itself, or a target. -/
  | target
  | span
  | field (start : Nat)
  /-- Behind the closing brace of the fields. -/
  | fields
  /-- Behind the closing bracket. -/
  | closed
  | level (start : Nat)
deriving DecidableEq, Repr

/-- The characters a target may begin with. -/
def canBegin (c : Char) : Bool :=
  c == '-' || c == ':' || c == '_' || Text.isAlphanumeric c

/-- Read the character at an offset; `whole` is the directive with the white space
around it. -/
def partStep (whole : List Char) (offset : Nat) : Part → Char → Except FilterFault Part
  | .start, c =>
    if c = '[' then .ok .span else if canBegin c then .ok .target else .error .form
  | .target, c =>
    .ok (if c = '=' then .level (offset + 1) else if c = '[' then .span else .target)
  | .span, c =>
    .ok (if c = ']' then .closed else if c = '\x7b' then .field (offset + 1) else .span)
  | .field start, c =>
    if c = '\x7d' then
      match fieldFault? (takeBytes (offset - start) (dropBytes start whole)) with
      | some fault => .error fault
      | none => .ok .fields
    else .ok (.field start)
  | .fields, c => if c = ']' then .ok .closed else .error .form
  | .closed, c => if c = '=' then .ok (.level (offset + 1)) else .error .form
  | .level start, _ => .ok (.level start)

/-- Read the end of a directive. -/
def partEnd (whole : List Char) : Part → Except FilterFault Unit
  | .target => .ok ()
  | .closed => .ok ()
  | .level start =>
    let level := dropBytes start whole
    if level = [] || isLevel level then .ok () else .error .level
  | _ => .error .form

/-- Read a directive from an offset on. -/
def readFrom (whole : List Char) (offset : Nat) (part : Part) :
    List Char → Except FilterFault Unit
  | [] => partEnd whole part
  | c :: rest =>
    match partStep whole offset part c with
    | .ok next => readFrom whole (offset + c.utf8Size) next rest
    | .error fault => .error fault

def readDirective (whole : List Char) : Except FilterFault Unit :=
  readFrom whole 0 .start (Text.trim whole)

/-! ## filters -/

def directives : List Char → List (List Char)
  | [] => [[]]
  | c :: rest =>
    match c, directives rest with
    | ',', parts => [] :: parts
    | c, part :: parts => (c :: part) :: parts
    | c, [] => [[c]]

/-- What is wrong with a filter, if anything: the fault of its first faulty
directive. Nothing between two commas is no directive. -/
def fault? (filter : String) : Option FilterFault :=
  ((directives filter.toList).filter (· ≠ [])).findSome? fun directive =>
    match readDirective directive with
    | .ok () => none
    | .error fault => some fault

end MachineBridge.LogFilter
