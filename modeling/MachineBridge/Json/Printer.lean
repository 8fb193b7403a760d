import MachineBridge.Json.Value

/-!
# MachineBridge.Json.Printer

Compact JSON text: no spaces, the fields of an object in their order.  A quote,
a backslash and the characters below the space are escaped, with a letter where
JSON has one and as a lowercase code point otherwise; every other character
stands for itself.
-/

namespace MachineBridge.Json

def hexDigit (n : Nat) : Char := Nat.digitChar n

/-- One character of a string. -/
def escape (c : Char) : List Char :=
  if c = '"' then ['\\', '"']
  else if c = '\\' then ['\\', '\\']
  else if c = '\x08' then ['\\', 'b']
  else if c = '\x0c' then ['\\', 'f']
  else if c = '\n' then ['\\', 'n']
  else if c = '\r' then ['\\', 'r']
  else if c = '\t' then ['\\', 't']
  else if c.toNat < 0x20 then
    ['\\', 'u', '0', '0', hexDigit (c.toNat / 16), hexDigit (c.toNat % 16)]
  else [c]

/-- A string between its quotes. -/
def quoted (s : String) : List Char := '"' :: (s.toList.flatMap escape ++ ['"'])

/-- A string that is no text is written as the first half of a surrogate pair,
which reads back as no text. -/
def stringChars : Option String → List Char
  | some s => quoted s
  | none => ['"', '\\', 'u', 'd', '8', '0', '0', '"']

def numberChars : NumberLiteral → List Char
  | .integer negative n => (if negative then ['-'] else []) ++ Decimal.natChars n
  | .real negative m e =>
    (if negative then ['-'] else []) ++ Decimal.natChars m ++ 'e' :: Decimal.intChars e

mutual

/-- The compact text of a value. -/
def chars : Json → List Char
  | .null => ['n', 'u', 'l', 'l']
  | .bool true => ['t', 'r', 'u', 'e']
  | .bool false => ['f', 'a', 'l', 's', 'e']
  | .number n => numberChars n
  | .string s => stringChars s
  | .array items => '[' :: (itemChars items ++ [']'])
  | .object fields => '{' :: (fieldChars fields ++ ['}'])

def itemChars : List Json → List Char
  | [] => []
  | [v] => chars v
  | v :: rest => chars v ++ ',' :: itemChars rest

def fieldChars : List (Option String × Json) → List Char
  | [] => []
  | [(name, v)] => stringChars name ++ ':' :: chars v
  | (name, v) :: rest => stringChars name ++ ':' :: chars v ++ ',' :: fieldChars rest

end

def render (v : Json) : String := String.ofList v.chars

end MachineBridge.Json
