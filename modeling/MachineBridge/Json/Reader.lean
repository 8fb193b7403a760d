import MachineBridge.Json.Token

/-!
# MachineBridge.Json.Reader

The grammatical level of JSON.  The reader keeps the containers it is inside of
on a stack of its own, so a value may be nested to any depth.
-/

namespace MachineBridge.Json

/-- A container under way; its parts stand last first. -/
inductive Frame where
  | array (reversed : List Json)
  /-- An object between two of its fields. -/
  | object (reversed : List (Option String × Json))
  /-- An object whose field `name` waits for its value. -/
  | field (reversed : List (Option String × Json)) (name : Option String)

/-- What may come next. -/
inductive Expected where
  | value
  /-- A value or the end of an array that is still empty. -/
  | firstItem
  /-- A field name or the end of an object that is still empty. -/
  | firstName
  | name
  | colon
  /-- A comma or the end of the container. -/
  | separator
deriving DecidableEq

/-- The reader: inside some containers, or done with the value of the text. -/
inductive Reader where
  | reading (stack : List Frame) (expected : Expected)
  | done (value : Json)

namespace Reader

def start : Reader := .reading [] .value

/-- Put a complete value where it belongs. -/
def place? (stack : List Frame) (v : Json) : Option Reader :=
  match stack with
  | [] => some (.done v)
  | .array items :: rest => some (.reading (.array (v :: items) :: rest) .separator)
  | .field fields name :: rest => some (.reading (.object ((name, v) :: fields) :: rest) .separator)
  | .object _ :: _ => none

def closeArray? : List Frame → Option Reader
  | .array items :: rest => place? rest (.array items.reverse)
  | _ => none

def closeObject? : List Frame → Option Reader
  | .object fields :: rest => place? rest (.object fields.reverse)
  | _ => none

/-- Read the first token of a value. -/
def beginValue? (stack : List Frame) : Token → Option Reader
  | .null => place? stack .null
  | .bool b => place? stack (.bool b)
  | .number n => place? stack (.number n)
  | .string s => place? stack (.string s)
  | .beginArray => some (.reading (.array [] :: stack) .firstItem)
  | .beginObject => some (.reading (.object [] :: stack) .firstName)
  | _ => none

/-- Read the name of a field. -/
def beginField? : List Frame → Token → Option Reader
  | .object fields :: rest, .string name => some (.reading (.field fields name :: rest) .colon)
  | _, _ => none

/-- Go on behind a comma. -/
def next? : List Frame → Option Reader
  | .array items :: rest => some (.reading (.array items :: rest) .value)
  | .object fields :: rest => some (.reading (.object fields :: rest) .name)
  | _ => none

def step? : Reader → Token → Option Reader
  | .done _, _ => none
  | .reading stack expected, t =>
    match expected with
    | .value => beginValue? stack t
    | .firstItem => if t = .endArray then closeArray? stack else beginValue? stack t
    | .firstName => if t = .endObject then closeObject? stack else beginField? stack t
    | .name => beginField? stack t
    | .colon => if t = .colon then some (.reading stack .value) else none
    | .separator =>
      match t with
      | .comma => next? stack
      | .endArray => closeArray? stack
      | .endObject => closeObject? stack
      | _ => none

def run? (r : Reader) (ts : List Token) : Option Reader := ts.foldlM step? r

/-- Reading two sequences one behind the other is reading them joined. -/
theorem run?_append (r : Reader) (a b : List Token) :
    r.run? (a ++ b) = (r.run? a).bind (·.run? b) := by
  simp [run?, List.foldlM_append, bind]

/-- The value of the text, once it is complete. -/
def value? : Reader → Option Json
  | .done v => some v
  | .reading .. => none

end Reader

/-- The value a sequence of tokens stands for. -/
def ofTokens? (ts : List Token) : Option Json := (Reader.start.run? ts).bind Reader.value?

/-- The value a text stands for, if it is a JSON text. -/
def parse? (s : String) : Option Json := (Token.scan? s.toList).bind ofTokens?

end MachineBridge.Json
