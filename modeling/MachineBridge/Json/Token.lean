import MachineBridge.Json.Value

/-!
# MachineBridge.Json.Token

The lexical level of JSON.  `Token.scan?` reads a text character by character;
`Scanner.step?` is one such step, so that scanning a text in two parts is
scanning the whole (`Scanner.run?_append`).
-/

namespace MachineBridge.Json

/-- The smallest meaningful pieces of a JSON text. -/
inductive Token where
  | beginArray
  | endArray
  | beginObject
  | endObject
  | comma
  | colon
  | null
  | bool (b : Bool)
  | number (n : NumberLiteral)
  | string (text : Option String)
deriving DecidableEq, Repr

/-! ## characters -/

/-- The four characters that may stand between tokens. -/
def isSpace (c : Char) : Bool := c == ' ' || c == '\t' || c == '\n' || c == '\r'

def isNumberChar (c : Char) : Bool :=
  c.isDigit || c == '-' || c == '+' || c == '.' || c == 'e' || c == 'E'

/-- The token a single punctuation character stands for. -/
def punctuation? : Char → Option Token
  | '[' => some .beginArray
  | ']' => some .endArray
  | '{' => some .beginObject
  | '}' => some .endObject
  | ',' => some .comma
  | ':' => some .colon
  | _ => none

/-- The value of a hexadecimal digit, in either case. -/
def hexValue? (c : Char) : Option Nat :=
  if '0' ≤ c ∧ c ≤ '9' then some (c.toNat - '0'.toNat)
  else if 'a' ≤ c ∧ c ≤ 'f' then some (c.toNat - 'a'.toNat + 10)
  else if 'A' ≤ c ∧ c ≤ 'F' then some (c.toNat - 'A'.toNat + 10)
  else none

/-- What the character behind a backslash stands for, the code point escape
apart. -/
def escaped? : Char → Option Char
  | '"' => some '"'
  | '\\' => some '\\'
  | '/' => some '/'
  | 'b' => some '\x08'
  | 'f' => some '\x0c'
  | 'n' => some '\n'
  | 'r' => some '\r'
  | 't' => some '\t'
  | _ => none

/-! ## literals -/

/-- The token of a bare word. -/
def word? (cs : List Char) : Option Token :=
  if cs = ['n', 'u', 'l', 'l'] then some .null
  else if cs = ['t', 'r', 'u', 'e'] then some (.bool true)
  else if cs = ['f', 'a', 'l', 's', 'e'] then some (.bool false)
  else none

/-- A run of digits that is not empty, as a number. -/
def digits? (cs : List Char) : Option Nat :=
  if cs ≠ [] ∧ cs.all Char.isDigit then some (Nat.ofDigitChars 10 cs 0) else none

/-- Digits without a superfluous leading zero, as a number. -/
def whole? (cs : List Char) : Option Nat :=
  if cs.head? = some '0' ∧ cs ≠ ['0'] then none else digits? cs

/-- What follows the digits of a number: an exponent, or nothing. -/
def exponent? : List Char → Option Int
  | [] => some 0
  | c :: rest =>
    if c = 'e' ∨ c = 'E' then
      match rest with
      | '-' :: digits => (digits? digits).map fun n => -(n : Int)
      | '+' :: digits => (digits? digits).map fun n => (n : Int)
      | digits => (digits? digits).map fun n => (n : Int)
    else none

/-- The number literal without its sign. -/
def magnitude? (negative : Bool) (cs : List Char) : Option NumberLiteral :=
  let whole := cs.takeWhile Char.isDigit
  match whole? whole, cs.dropWhile Char.isDigit with
  | none, _ => none
  | some n, [] => some (.integer negative n)
  | some _, '.' :: rest => do
    let fraction := rest.takeWhile Char.isDigit
    let _ ← digits? fraction
    let mantissa ← digits? (whole ++ fraction)
    let exponent ← exponent? (rest.dropWhile Char.isDigit)
    some (.real negative mantissa (exponent - fraction.length))
  | some n, rest => (exponent? rest).map fun e => .real negative n e

/-- The number literal written by the given characters. -/
def number? : List Char → Option NumberLiteral
  | '-' :: cs => magnitude? true cs
  | cs => magnitude? false cs

/-! ## strings -/

/-- A string under way.  `high` is the first half of a surrogate pair that still
waits for the second; `broken` says that a half was met alone. -/
structure Partial where
  reversed : List Char := []
  broken : Bool := false
  high : Option Nat := none
deriving DecidableEq, Repr

namespace Partial

/-- A first half that was not completed breaks the string. -/
def settle (p : Partial) : Partial :=
  if p.high.isSome then { p with broken := true, high := none } else p

def push (p : Partial) (c : Char) : Partial :=
  let p := p.settle
  { p with reversed := c :: p.reversed }

/-- Append a sixteen bit unit written by a code point escape. -/
def pushUnit (p : Partial) (u : Nat) : Partial :=
  if 0xD800 ≤ u ∧ u < 0xDC00 then { p.settle with high := some u }
  else if 0xDC00 ≤ u ∧ u < 0xE000 then
    match p.high with
    | some first =>
      { p with
        reversed := Char.ofNat (0x10000 + (first - 0xD800) * 0x400 + (u - 0xDC00)) :: p.reversed
        high := none }
    | none => { p with broken := true }
  else p.push (Char.ofNat u)

/-- The finished string, if it is a text. -/
def finish (p : Partial) : Option String :=
  let p := p.settle
  if p.broken then none else some (String.ofList p.reversed.reverse)

end Partial

/-! ## the scanner -/

/-- What the scanner is in the middle of. -/
inductive Mode where
  | between
  /-- A bare word; its characters, last first. -/
  | word (reversed : List Char)
  /-- A number; its characters, last first. -/
  | number (reversed : List Char)
  | string (p : Partial)
  /-- Right behind a backslash. -/
  | escape (p : Partial)
  /-- Inside a code point escape: the digits still to come and the value so far. -/
  | unicode (p : Partial) (left : Nat) (value : Nat)
deriving DecidableEq, Repr

/-- The tokens read so far, last first, and what is being read. -/
structure Scanner where
  tokens : List Token := []
  mode : Mode := .between
deriving DecidableEq, Repr

namespace Scanner

/-- Append a token and go on between tokens. -/
def emit (s : Scanner) (t : Token) : Scanner := ⟨t :: s.tokens, .between⟩

/-- Finish a word or a number that ends here; a string does not end by itself. -/
def flush? (s : Scanner) : Option Scanner :=
  match s.mode with
  | .between => some s
  | .word reversed => (word? reversed.reverse).map s.emit
  | .number reversed => (number? reversed.reverse).map fun n => s.emit (.number n)
  | _ => none

/-- Read a character between tokens. -/
def begin? (s : Scanner) (c : Char) : Option Scanner :=
  if isSpace c then some s
  else if c = '"' then some { s with mode := .string {} }
  else if c.isDigit ∨ c = '-' then some { s with mode := .number [c] }
  else if c.isLower then some { s with mode := .word [c] }
  else (punctuation? c).map s.emit

def step? (s : Scanner) (c : Char) : Option Scanner :=
  match s.mode with
  | .between => s.begin? c
  | .word reversed =>
    if c.isLower then some { s with mode := .word (c :: reversed) }
    else s.flush?.bind (·.begin? c)
  | .number reversed =>
    if isNumberChar c then some { s with mode := .number (c :: reversed) }
    else s.flush?.bind (·.begin? c)
  | .string p =>
    if c = '"' then some (s.emit (.string p.finish))
    else if c = '\\' then some { s with mode := .escape p }
    else if c.toNat < 0x20 then none
    else some { s with mode := .string (p.push c) }
  | .escape p =>
    if c = 'u' then some { s with mode := .unicode p 4 0 }
    else (escaped? c).map fun e => { s with mode := .string (p.push e) }
  | .unicode p left value =>
    (hexValue? c).map fun d =>
      if left ≤ 1 then { s with mode := .string (p.pushUnit (16 * value + d)) }
      else { s with mode := .unicode p (left - 1) (16 * value + d) }

def run? (s : Scanner) (cs : List Char) : Option Scanner := cs.foldlM step? s

/-- Scanning two texts one behind the other is scanning them joined. -/
theorem run?_append (s : Scanner) (a b : List Char) :
    s.run? (a ++ b) = (s.run? a).bind (·.run? b) := by
  simp [run?, List.foldlM_append, bind]

end Scanner

/-- The tokens of a text, if it can be split into tokens. -/
def Token.scan? (cs : List Char) : Option (List Token) :=
  ((Scanner.run? {} cs).bind Scanner.flush?).map (·.tokens.reverse)

end MachineBridge.Json
